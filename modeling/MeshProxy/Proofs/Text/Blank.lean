import MeshProxy.Text.Blank
import Mathlib.Tactic.Common

/-!
# Values that are given

A blank value counts as none, and of any other the blanks around it do not count.
-/

namespace MeshProxy.Text

/-- A setting has a text that is not blank; trimmed, it is `value`. -/
def Gives (setting : Option String) (value : String) : Prop :=
  ∃ text, setting = some text ∧ trim text = value ∧ value ≠ ""

/-- A setting is absent, or blank. -/
def Blank (setting : Option String) : Prop :=
  ∀ text, setting = some text → trim text = ""

variable {setting : Option String} {value : String}

lemma nonBlank?_eq_some_iff : nonBlank? setting = some value ↔ Gives setting value := by
  cases setting with
  | none => simp [nonBlank?, Gives]
  | some text =>
    rw [nonBlank?]
    constructor
    · intro some
      split at some
      case isTrue => cases some
      case isFalse ne =>
        cases some
        exact ⟨text, rfl, rfl, by simpa using ne⟩
    · rintro ⟨_, ⟨⟩, rfl, ne⟩
      exact if_neg (by simpa using ne)

/-- What is blank gives nothing. -/
lemma Blank.not_gives (blank : Blank setting) : ¬ Gives setting value := by
  rintro ⟨text, set, rfl, ne⟩
  exact ne (blank text set)

lemma nonBlank?_eq_none_iff : nonBlank? setting = none ↔ Blank setting := by
  rw [Option.eq_none_iff_forall_ne_some]
  constructor
  · intro none text set
    by_contra ne
    exact none _ (nonBlank?_eq_some_iff.mpr ⟨text, set, rfl, ne⟩)
  · intro blank value some
    exact blank.not_gives (nonBlank?_eq_some_iff.mp some)

end MeshProxy.Text
