import MeshProxy.Proofs.Text.Casing
import MeshProxy.Settings.Environment
import Mathlib.Data.List.Basic
import Mathlib.Data.List.TakeWhile

/-!
# Environments of plain names

A name without dots and brackets in it is no path, so the variables of an environment that has only such names are texts
and nothing else. What a name stands for is then the text that was set last under it, in whatever case it was written
(`Environment.Plain.find?_eq`).
-/

namespace MeshProxy

namespace Environment

/-- There are only plain names: letters, digits, blanks, underscores and hyphens. -/
def Plain (env : Environment) : Prop := ∀ v ∈ env, ∀ c ∈ v.1.toList, isPathChar c = true

instance (env : Environment) : Decidable env.Plain :=
  decidable_of_iff (env.all (fun v => v.1.toList.all isPathChar) = true) (by simp only [Plain, List.all_eq_true])

/-- The value that was set last under a name. -/
def last? (env : Environment) (name : String) : Option String :=
  (env.filterMap fun v => if v.1.toLower = name then some v.2 else none).getLast?

variable {env : Environment} {name : String} {c : Char} {cs : List Char}

/-- A character of a plain name is an ASCII character, and it is one in lower case too. -/
lemma lower_pathChar (path : isPathChar c = true) : c.toNat < 0x80 ∧ isPathChar c.toLower = true := by
  have ascii : c.toNat < 0x80 := by
    simp only [isPathChar, Char.isAlphanum, Char.isAlpha, Char.isUpper, Char.isLower, Char.isDigit, Bool.or_eq_true,
      Bool.and_eq_true, decide_eq_true_eq, beq_iff_eq, ge_iff_le, UInt32.le_iff_toNat_le] at path
    rcases path with (((letter | digit) | rfl) | rfl) | rfl
    · have upper : c.toNat ≤ 90 ∨ c.toNat ≤ 122 := letter.imp And.right And.right
      omega
    · have nine : c.toNat ≤ 57 := digit.2
      omega
    · decide
    · decide
    · decide
  -- There are so few of them that each can be looked at.
  have table : ∀ n < 0x80, isPathChar (Char.ofNat n) = true → isPathChar (Char.ofNat n).toLower = true := by decide
  refine ⟨ascii, ?_⟩
  have lower := table c.toNat ascii
  rw [Char.ofNat_toNat] at lower
  exact lower path

lemma lower_of_pathChars {s : String} (path : ∀ c ∈ s.toList, isPathChar c = true) :
    Text.lower s = s.toLower ∧ ∀ c ∈ s.toLower.toList, isPathChar c = true := by
  refine ⟨Text.lower_of_ascii fun c mem => (lower_pathChar (path c mem)).1, ?_⟩
  intro c mem
  rw [String.toLower, String.toList_map] at mem
  obtain ⟨written, there, rfl⟩ := List.mem_map.mp mem
  exact (lower_pathChar (path written there)).2

/-- A plain name is no path. -/
lemma path?_of_pathChars (path : ∀ c ∈ cs, isPathChar c = true) : path? cs = none := by
  have all : cs.takeWhile isPathChar = cs := List.takeWhile_eq_self_iff.mpr path
  have behind : cs.dropWhile isPathChar = [] := List.dropWhile_eq_nil_iff.mpr path
  rw [path?, pathName?, all, behind]
  cases cs with
  | nil => rfl
  | cons c cs => rfl

lemma says?_of_plain {v : String × String} (path : ∀ c ∈ v.1.toList, isPathChar c = true) (name : String) :
    says? name v = (if v.1.toLower = name then some v.2 else none).map .text := by
  obtain ⟨same, lower⟩ := lower_of_pathChars path
  simp only [says?, same, path?_of_pathChars lower, String.toList_inj]
  split <;> rfl

/-- A name stands for the text that was set last under it. -/
lemma Plain.find?_eq (pl : env.Plain) (name : String) : env.find? name = (env.last? name).map .text := by
  have one : env.filterMap (says? name) =
      env.filterMap fun v => (if v.1.toLower = name then some v.2 else none).map .text := by
    apply List.filterMap_congr
    intro v mem
    exact says?_of_plain (pl v mem) name
  rw [find?, one, last?, ← List.getLast?_map, List.map_filterMap]

/-- Leaving variables out leaves plain names. -/
lemma Plain.filter (pl : env.Plain) (keep : String × String → Bool) : Plain (env.filter keep) := by
  intro v mem
  exact pl v (List.mem_filter.mp mem).1

/-- Leaving out variables of other names makes no difference to a name. -/
lemma last?_filter {names : List String} (mem : name ∈ names) :
    last? (env.filter fun v => v.1.toLower ∈ names) name = env.last? name := by
  rw [last?, last?, List.filterMap_filter]
  congr 2
  funext v
  by_cases eq : v.1.toLower = name
  · rw [if_pos eq, if_pos (by rw [eq]; exact decide_eq_true mem)]
  · rw [if_neg eq, ite_self]

end Environment

end MeshProxy
