import MeshProxy.Text.Decimal
import MeshProxy.Text.Fields

/-!
# IPv4 addresses

The dotted-decimal text of an IPv4 address and its reader. The reader takes four octets without
leading zeros and nothing else, so each address has one text.
-/

namespace MeshProxy

/-- The number whose high byte comes first. -/
def bigEndian (high low : UInt8) : UInt16 := UInt16.ofNat (256 * high.toNat + low.toNat)

/-- An IPv4 address, most significant octet first. -/
structure Ipv4 where
  a : UInt8
  b : UInt8
  c : UInt8
  d : UInt8
deriving DecidableEq, Repr

namespace Ipv4

/-- The address of the loopback interface. -/
def loopback : Ipv4 := ⟨127, 0, 0, 1⟩

/-- The address that stands for every interface. -/
def unspecified : Ipv4 := ⟨0, 0, 0, 0⟩

/-- Dotted-decimal notation. -/
def chars (ip : Ipv4) : List Char :=
  Text.decimal ip.a.toNat ++ '.' :: Text.decimal ip.b.toNat ++ '.' :: Text.decimal ip.c.toNat ++
    '.' :: Text.decimal ip.d.toNat

def toText (ip : Ipv4) : String := String.ofList ip.chars

/-- One octet: at most three digits, no zero in front of another digit, at most 255. -/
def octet? (cs : List Char) : Option UInt8 :=
  if cs.length ≤ 3 ∧ (cs.head? ≠ some '0' ∨ cs.length = 1) then
    (Text.boundedDigits? 255 cs).map UInt8.ofNat
  else none

def ofChars? (cs : List Char) : Option Ipv4 :=
  match Text.fields '.' cs with
  | [a, b, c, d] => do return ⟨← octet? a, ← octet? b, ← octet? c, ← octet? d⟩
  | _ => none

end Ipv4

end MeshProxy
