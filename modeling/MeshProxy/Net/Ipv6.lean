import MeshProxy.Net.Ipv4

/-!
# IPv6 addresses

The canonical text of an IPv6 address and its reader. The text compresses the longest run of zero groups
and shows a mapped IPv4 address in dotted form; the reader accepts every spelling with eight groups, with
one compressed run, or with an IPv4 tail, but neither a zone nor brackets.
-/

namespace MeshProxy

/-- An IPv6 address as its eight groups, most significant first. -/
structure Ipv6 where
  groups : List UInt16
  length_eq : groups.length = 8 := by rfl
deriving DecidableEq, Repr

namespace Ipv6

/-- The eight groups as an address, if there are eight. -/
def ofGroups? (groups : List UInt16) : Option Ipv6 :=
  if h : groups.length = 8 then some ⟨groups, h⟩ else none

/-- A group in lower-case hexadecimal, without leading zeros. -/
def groupChars (group : UInt16) : List Char := Nat.toDigits 16 group.toNat

/-- Groups joined by colons. -/
def joinGroups : List UInt16 → List Char
  | [] => []
  | [g] => groupChars g
  | g :: more => groupChars g ++ ':' :: joinGroups more

/-- The zeros at the front. -/
def leadingZeros (groups : List UInt16) : Nat := (groups.takeWhile (· == 0)).length

/-- The longest run of zeros as its start and length; of equally long runs the first. `index` is the
number of groups already passed. -/
def longestZeros (index : Nat) : List UInt16 → Nat × Nat
  | [] => (index, 0)
  | g :: more =>
    let here := leadingZeros (g :: more)
    let later := longestZeros (index + 1) more
    if later.2 > here then later else (index, here)

/-- The IPv4 address that two groups hold. -/
def embedded (high low : UInt16) : Ipv4 :=
  ⟨UInt8.ofNat (high.toNat / 256), UInt8.ofNat high.toNat,
    UInt8.ofNat (low.toNat / 256), UInt8.ofNat low.toNat⟩

/-- Canonical notation. -/
def chars (ip : Ipv6) : List Char :=
  match ip.groups with
  | [0, 0, 0, 0, 0, 0xFFFF, high, low] =>
    [':', ':', 'f', 'f', 'f', 'f', ':'] ++ (embedded high low).chars
  | groups =>
    let (start, length) := longestZeros 0 groups
    if length > 1 then
      joinGroups (groups.take start) ++ [':', ':'] ++ joinGroups (groups.drop (start + length))
    else joinGroups groups

def toText (ip : Ipv6) : String := String.ofList ip.chars

/-- The number that hexadecimal digits continue to, from the value of those before them. -/
def continueHex (value : Nat) : List Char → Option Nat
  | [] => some value
  | c :: rest =>
    match Text.hexDigit? c with
    | some d => continueHex (16 * value + d) rest
    | none => none

/-- One group: one to four hexadecimal digits. -/
def group? (cs : List Char) : Option UInt16 :=
  if cs.length = 0 ∨ cs.length > 4 then none
  else (continueHex 0 cs).map UInt16.ofNat

/-- The groups that colon-separated fields spell; the last field may be an IPv4 address if
`allowIpv4`, and stands for two groups. -/
def groupsOfFields? (allowIpv4 : Bool) : List (List Char) → Option (List UInt16)
  | [] => some []
  | [field] =>
    match group? field with
    | some g => some [g]
    | none =>
      if allowIpv4 then
        (Ipv4.ofChars? field).map fun ip => [bigEndian ip.a ip.b, bigEndian ip.c ip.d]
      else none
  | field :: more => do return (← group? field) :: (← groupsOfFields? allowIpv4 more)

/-- The groups of one side of a compressed run, or of the whole address; an empty text has none. -/
def groups? (allowIpv4 : Bool) (cs : List Char) : Option (List UInt16) :=
  if cs.isEmpty then some [] else groupsOfFields? allowIpv4 (Text.fields ':' cs)

/-- The parts before and after the first double colon. -/
def splitCompressed? : List Char → Option (List Char × List Char)
  | ':' :: ':' :: rest => some ([], rest)
  | c :: rest => (splitCompressed? rest).map fun (before, after) => (c :: before, after)
  | [] => none

def ofChars? (cs : List Char) : Option Ipv6 :=
  match splitCompressed? cs with
  | none => do ofGroups? (← groups? true cs)
  | some (before, after) => do
    let front ← groups? false before
    let back ← groups? true after
    if front.length + back.length ≤ 7 then
      ofGroups? (front ++ List.replicate (8 - (front.length + back.length)) 0 ++ back)
    else none

end Ipv6

end MeshProxy
