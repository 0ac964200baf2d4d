import Mathlib
import MeshProxy.Text.Casing

/-!
# Lower case of ASCII text

Of an ASCII text each character is lower-cased by itself (`Text.lower_of_ascii`), and a character that is no capital stays
what it is. The rules for other scripts, and for a sigma at the end of a word, do not come in. A text that only begins with
an ASCII character that is no capital begins with it in lower case too (`Text.head?_lower`).
-/

namespace MeshProxy.Text

lemma lowerChars_cons_of_ascii {c : Char} (ascii : c.toNat < 0x80) (before rest : List Char) :
    lowerChars before (c :: rest) = c.toLower :: lowerChars (c :: before) rest := by
  have no_sigma : c.toNat ≠ 0x3A3 := by omega
  rw [lowerChars]
  simp only [if_neg no_sigma, lowerChar, if_pos ascii, List.singleton_append]

lemma lowerChars_of_ascii {cs : List Char} (ascii : ∀ c ∈ cs, c.toNat < 0x80) (before : List Char) :
    lowerChars before cs = cs.map Char.toLower := by
  induction cs generalizing before with
  | nil => rfl
  | cons c cs ih =>
    obtain ⟨first, others⟩ := List.forall_mem_cons.mp ascii
    rw [lowerChars_cons_of_ascii first, ih others, List.map_cons]

lemma lower_of_ascii {s : String} (ascii : ∀ c ∈ s.toList, c.toNat < 0x80) : lower s = s.toLower := by
  apply String.toList_inj.mp
  rw [lower, String.toList_ofList, lowerChars_of_ascii ascii, String.toLower, String.toList_map]

lemma head?_lower {s : String} {c : Char} {rest : List Char} (begins : s.toList = c :: rest)
    (ascii : c.toNat < 0x80) (small : c.toLower = c) : (lower s).toList.head? = some c := by
  rw [lower, String.toList_ofList, begins, lowerChars_cons_of_ascii ascii, small, List.head?_cons]

end MeshProxy.Text
