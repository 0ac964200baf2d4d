import MeshProxy.Handshake.Target
import MeshProxy.Net.Destination
import MeshProxy.Proofs.Text.Decimal
import MeshProxy.Proofs.Text.Fields

/-!
# Every destination is a target

The text of a destination is short, its host has no colon in it, and its port is one, so the text passes as a target
(`Destination.fault?_toText`). It holds one colon, in front of the port.
-/

namespace MeshProxy

lemma utf8ByteSize_ofList_cons (c : Char) (cs : List Char) :
    (String.ofList (c :: cs)).utf8ByteSize = c.utf8Size + (String.ofList cs).utf8ByteSize := by
  have cons : String.ofList (c :: cs) = String.singleton c ++ String.ofList cs := by
    rw [String.singleton_eq_ofList, ← String.ofList_append, List.singleton_append]
  rw [cons, String.utf8ByteSize_append, String.utf8ByteSize_singleton]

/-- A text of a few characters has a few bytes. -/
lemma utf8ByteSize_ofList_le (cs : List Char) : (String.ofList cs).utf8ByteSize ≤ 4 * cs.length := by
  induction cs with
  | nil => exact Nat.le_refl 0
  | cons c cs ih =>
    have le := c.utf8Size_le_four
    rw [utf8ByteSize_ofList_cons, List.length_cons]
    omega

namespace Ipv4

/-- An octet has at most three digits. -/
lemma length_octet_le (octet : UInt8) : (Text.decimal octet.toNat).length ≤ 3 := by
  apply Text.length_decimal_le _ (by decide)
  have lt := octet.toNat_lt
  omega

/-- The text of an address has at most fifteen characters. -/
lemma length_chars_le (ip : Ipv4) : ip.chars.length ≤ 15 := by
  have a := length_octet_le ip.a
  have b := length_octet_le ip.b
  have c := length_octet_le ip.c
  have d := length_octet_le ip.d
  simp only [chars, List.length_append, List.length_cons]
  omega

/-- The text of an address is digits and dots. -/
lemma not_mem_chars {c : Char} (no : c.isDigit = false) (dot : c ≠ '.') (ip : Ipv4) :
    c ∉ ip.chars := by
  simp [chars, Text.not_mem_decimal no, dot]

/-- The text of an address is not empty. -/
lemma chars_ne_nil (ip : Ipv4) : ip.chars ≠ [] := by simp [chars]

end Ipv4

namespace Destination

/-- The text of a destination is short. -/
lemma length_chars_le (dest : Destination) : dest.chars.length ≤ 21 := by
  have host := dest.ip.length_chars_le
  have port : (Text.decimal dest.port.toNat).length ≤ 5 := by
    apply Text.length_decimal_le _ (by decide)
    have lt := dest.port.toNat_lt
    omega
  simp only [chars, List.length_append, List.length_cons]
  omega

/-- The text of a destination is cut at its one colon. -/
lemma splitLast?_chars (dest : Destination) :
    Text.splitLast? ':' dest.chars = some (dest.ip.chars, Text.decimal dest.port.toNat) :=
  Text.splitLast?_append (Text.not_mem_decimal rfl _) _

/-- The text of a destination is a target. -/
theorem fault?_toText (dest : Destination) : Target.fault? dest.toText = none := by
  -- No character has more than four bytes, which is far from exact and enough for 21 of them.
  have short : dest.toText.utf8ByteSize ≤ Target.maxBytes := by
    have size := utf8ByteSize_ofList_le dest.chars
    have length := dest.length_chars_le
    have max : Target.maxBytes = 256 := rfl
    rw [toText]
    omega
  have list : dest.toText.toList = dest.chars := String.toList_ofList
  rw [Target.fault?, if_neg (Nat.not_lt.mpr short), list, splitLast?_chars]
  have host : ':' ∉ dest.ip.chars := Ipv4.not_mem_chars rfl (by decide) _
  simp [Ipv4.chars_ne_nil, host, Text.port?_decimal]

end Destination

end MeshProxy
