import MeshProxy.Pki.Der
import MeshProxy.Tls.Fault

/-!
# Reading TLS messages

A reader takes numbers, parts and lists off the front of some bytes. Each fault says what is missing or what is
too much.
-/

namespace MeshProxy.Tls

/-- Takes a value off the front of some bytes. -/
abbrev Reader := StateT Bytes (Except MessageFault)

namespace Reader

/-- A number of so many bytes, high byte first, with a name for what is missing otherwise. -/
def number (width : Nat) (what : String) : Reader Nat := do
  let bytes ← get
  if bytes.length < width then throw (.missingData what)
  set (bytes.drop width)
  return Pki.Der.bigNat (bytes.take width)

def byte : Reader Nat := number 1 "u8"
def short : Reader Nat := number 2 "u16"
def medium : Reader Nat := number 3 "u24"
def long : Reader Nat := number 4 "u32"

/-- So many bytes, with a fault for the case that there are fewer. -/
def take (count : Nat) (fault : MessageFault) : Reader Bytes := do
  let bytes ← get
  if bytes.length < count then throw fault
  set (bytes.drop count)
  return bytes.take count

/-- All that is left. -/
def rest : Reader Bytes := do
  let bytes ← get
  set ([] : Bytes)
  return bytes

/-- Requires that nothing is left. -/
def finish (what : String) : Reader Unit := do
  if !(← get).isEmpty then throw (.trailingData what)

/-- The bytes behind their number, which the first reader takes. -/
def counted (count : Reader Nat) : Reader Bytes := do take (← count) .messageTooShort

/-- Reads a part of its own, of which something may be left. -/
def within (part : Bytes) (read : Reader α) : Reader α :=
  match read.run part with
  | .ok (value, _) => return value
  | .error fault => throw fault

/-- Reads one value after another until nothing is left, at most `fuel` of them. -/
def many (read : Reader α) : Nat → Reader (List α)
  | 0 => return []
  | fuel + 1 => do
    if (← get).isEmpty then return []
    return (← read) :: (← many read fuel)

/-- A list behind the number of its bytes, which the first reader takes. -/
def list (count : Reader Nat) (read : Reader α) : Reader (List α) := do
  let part ← counted count
  within part (many read part.length)

/-- A number of bytes that must not be zero. -/
def positive (count : Reader Nat) (fault : MessageFault) : Reader Nat := do
  let n ← count
  if n = 0 then throw fault
  return n

end Reader

end MeshProxy.Tls
