import MeshProxy.Text.Utf8

/-!
# DER

An element is a tag, the length of its content in the fewest bytes, and the content. Readers take an element
of an expected tag off the front of some bytes and return its content and what follows it.
-/

namespace MeshProxy.Pki.Der

/-- The first byte of an element. -/
abbrev Tag := UInt8

namespace Tag

def boolean : Tag := 0x01
def integer : Tag := 0x02
def bitString : Tag := 0x03
def octetString : Tag := 0x04
def objectId : Tag := 0x06
def sequence : Tag := 0x30

/-- The tag of a constructed element whose meaning depends on where it stands. -/
def context (n : UInt8) : Tag := 0xA0 ||| n

/-- The tag of a primitive element whose meaning depends on where it stands. -/
def contextPrimitive (n : UInt8) : Tag := 0x80 ||| n

end Tag

/-- An element taken off the front, and what follows it. -/
structure Element where
  tag : Tag
  content : Bytes
  rest : Bytes
deriving DecidableEq, Repr

/-- The length at the front in the fewest bytes that can hold it, at most two, and what follows it. -/
def length? : Bytes → Option (Nat × Bytes)
  | [] => none
  | first :: rest =>
    if first < 0x80 then some (first.toNat, rest)
    else
      match first, rest with
      | 0x81, low :: rest => if low < 0x80 then none else some (low.toNat, rest)
      | 0x82, high :: low :: rest =>
        if high = 0 then none else some (256 * high.toNat + low.toNat, rest)
      | _, _ => none

/-- The element at the front. Tags of more than one byte are not read. -/
def element? : Bytes → Option Element
  | [] => none
  | tag :: rest =>
    if tag &&& 0x1F = 0x1F then none
    else
      match length? rest with
      | none => none
      | some (length, rest) =>
        if length ≤ rest.length then some ⟨tag, rest.take length, rest.drop length⟩ else none

/-- The content of the element at the front, if it has this tag, and what follows it. -/
def take? (tag : Tag) (bytes : Bytes) : Option (Bytes × Bytes) :=
  match element? bytes with
  | some e => if e.tag = tag then some (e.content, e.rest) else none
  | none => none

/-- The content of the one element that the bytes are. -/
def only? (tag : Tag) (bytes : Bytes) : Option Bytes :=
  match take? tag bytes with
  | some (content, []) => some content
  | _ => none

/-- Whether the element at the front has this tag. -/
def startsWith (tag : Tag) (bytes : Bytes) : Bool := bytes.head? == some tag

/-- The elements at the front, as long as they can be read. Each takes at least two bytes. -/
def elements (bytes : Bytes) : List Element := go bytes.length bytes
where
  /-- At most `fuel` elements. -/
  go : Nat → Bytes → List Element
    | 0, _ => []
    | fuel + 1, bytes =>
      match element? bytes with
      | none => []
      | some e => e :: go fuel e.rest

/-- The number whose bytes are given, high byte first. -/
def bigNat (bytes : Bytes) : Nat := bytes.foldl (fun n byte => 256 * n + byte.toNat) 0

/-- The number in the content of an integer: not negative, in the fewest bytes. -/
def natural? : Bytes → Option Nat
  | [] => none
  | [byte] => if byte < 0x80 then some byte.toNat else none
  | first :: second :: rest =>
    if first = 0 then
      if second < 0x80 then none else some (bigNat (second :: rest))
    else if first < 0x80 then some (bigNat (first :: second :: rest))
    else none

/-- The integer at the front, and what follows it. -/
def takeNatural? (bytes : Bytes) : Option (Nat × Bytes) := do
  let (content, rest) ← take? Tag.integer bytes
  return (← natural? content, rest)

/-- The bytes of a bit string that leaves no bit over. -/
def wholeBits? : Bytes → Option Bytes
  | 0 :: bytes => some bytes
  | _ => none

/-- The length of a content, in the fewest bytes. -/
def lengthBytes (n : Nat) : Bytes :=
  if n < 0x80 then [UInt8.ofNat n]
  else if n < 0x100 then [0x81, UInt8.ofNat n]
  else [0x82, UInt8.ofNat (n / 256), UInt8.ofNat n]

/-- An element as it is written. -/
def encode (tag : Tag) (content : Bytes) : Bytes := tag :: (lengthBytes content.length ++ content)

end MeshProxy.Pki.Der
