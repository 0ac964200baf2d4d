import MeshProxy.Text.Utf8

/-!
# Base64

Four characters of the base64 alphabet stand for three bytes. Blanks between the characters do not count.
The last group may be short by one or two characters, which padding may fill up; padding anywhere earlier
is a fault. Faults are found block by block, two groups at a time. The bits that a short last group has to
spare are ignored.
-/

namespace MeshProxy.Pki

/-- Why bytes are not base64. -/
inductive Base64Fault where
  /-- A byte outside the alphabet. -/
  | invalidCharacter (byte : UInt8)
  /-- Padding with more characters behind its group. -/
  | prematurePadding
  /-- A last group that is no group. -/
  | invalidTrailingPadding
deriving DecidableEq, Repr

def Base64Fault.message : Base64Fault → String
  | .invalidCharacter byte => "InvalidCharacter(" ++ toString byte.toNat ++ ")"
  | .prematurePadding => "PrematurePadding"
  | .invalidTrailingPadding => "InvalidTrailingPadding"

namespace Base64

/-- What a character stands for: six bits, or the absence of any. -/
inductive Symbol where
  | sextet (value : Nat)
  | pad
deriving DecidableEq, Repr

/-- The value of a character that stands for six bits. -/
def sextet? (byte : UInt8) : Option Nat :=
  if 0x41 ≤ byte ∧ byte ≤ 0x5A then some (byte.toNat - 0x41)
  else if 0x61 ≤ byte ∧ byte ≤ 0x7A then some (byte.toNat - 0x61 + 26)
  else if 0x30 ≤ byte ∧ byte ≤ 0x39 then some (byte.toNat - 0x30 + 52)
  else if byte = 0x2B then some 62
  else if byte = 0x2F then some 63
  else none

def symbol (byte : UInt8) : Except Base64Fault Symbol :=
  if byte = 0x3D then .ok .pad
  else
    match sextet? byte with
    | some value => .ok (.sextet value)
    | none => .error (.invalidCharacter byte)

/-- A blank: tab, line ends, vertical tab, form feed, space. -/
def isBlankByte (byte : UInt8) : Bool := (0x09 ≤ byte && byte ≤ 0x0D) || byte == 0x20

/-- The three bytes of four sextets. -/
def triple (a b c d : Nat) : Bytes :=
  let word := ((a * 64 + b) * 64 + c) * 64 + d
  [UInt8.ofNat (word / 0x10000), UInt8.ofNat (word / 0x100), UInt8.ofNat word]

/-- The bytes of the last group, which may be empty. -/
def lastGroup : List Symbol → Except Base64Fault Bytes
  | [] => .ok []
  | [.sextet a, .sextet b, .sextet c, .sextet d] => .ok (triple a b c d)
  | [.sextet a, .sextet b, .sextet c, .pad] => .ok ((triple a b c 0).take 2)
  | [.sextet a, .sextet b, .sextet c] => .ok ((triple a b c 0).take 2)
  | [.sextet a, .sextet b, .pad, .pad] => .ok ((triple a b 0 0).take 1)
  | [.sextet a, .sextet b] => .ok ((triple a b 0 0).take 1)
  | _ => .error .invalidTrailingPadding

/-- The bytes of a group that more characters follow. -/
def fullGroup : List Symbol → Except Base64Fault Bytes
  | [.sextet a, .sextet b, .sextet c, .sextet d] => .ok (triple a b c d)
  | _ => .error .prematurePadding

/-- The bytes of at most eight symbols with nothing behind them. -/
def lastBlock (symbols : List Symbol) : Except Base64Fault Bytes :=
  if symbols.length ≤ 4 then lastGroup symbols
  else do return (← fullGroup (symbols.take 4)) ++ (← lastGroup (symbols.drop 4))

/-- The bytes of eight symbols that more characters follow. -/
def fullBlock (symbols : List Symbol) : Except Base64Fault Bytes := do
  return (← fullGroup (symbols.take 4)) ++ (← fullGroup (symbols.drop 4))

/-- Decodes bytes without blanks in blocks of two groups. Padding in a block is looked for once all of
the block and the character behind it are known to be in the alphabet. -/
def decodeBlocks (bytes : Bytes) : Except Base64Fault Bytes :=
  match _ : bytes.drop 8 with
  | [] => do lastBlock (← bytes.mapM symbol)
  | next :: rest => do
    let symbols ← (bytes.take 9).mapM symbol
    let front ← fullBlock (symbols.take 8)
    return front ++ (← decodeBlocks (next :: rest))
termination_by bytes.length
decreasing_by
  have shorter := congrArg List.length ‹bytes.drop 8 = next :: rest›
  simp only [List.length_drop, List.length_cons] at shorter
  simp only [List.length_cons]
  omega

/-- The bytes that a base64 text stands for. -/
def decode (bytes : Bytes) : Except Base64Fault Bytes :=
  decodeBlocks (bytes.filter fun byte => !isBlankByte byte)

end Base64

end MeshProxy.Pki
