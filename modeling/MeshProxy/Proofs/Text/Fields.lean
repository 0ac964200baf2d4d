import MeshProxy.Text.Fields
import Mathlib.Tactic.Common

/-!
# Where a text is cut

A text is cut at its last separator (`splitLast?_eq_some_iff`), and the pieces between all separators make up the text
again when the separators are put back (`intercalate_fields`). A text whose pieces are known has them one by one
(`fields_append`).
-/

namespace MeshProxy.Text

/-- A text without a separator is not cut. -/
lemma splitLast?_of_not_mem {separator : Char} {cs : List Char} (no : separator ∉ cs) :
    splitLast? separator cs = none := by
  induction cs with
  | nil => rfl
  | cons c cs ih =>
    rw [List.mem_cons, not_or] at no
    rw [splitLast?, ih no.2]
    exact if_neg (Ne.symm no.1)

/-- A text is cut at the separator behind which there is no other. -/
lemma splitLast?_append {separator : Char} {after : List Char} (no : separator ∉ after)
    (before : List Char) :
    splitLast? separator (before ++ separator :: after) = some (before, after) := by
  induction before with
  | nil =>
    rw [List.nil_append, splitLast?, splitLast?_of_not_mem no]
    exact if_pos rfl
  | cons c before ih => rw [List.cons_append, splitLast?, ih]

/-- A text that is not cut has no separator. -/
lemma not_mem_of_splitLast? {separator : Char} {cs : List Char}
    (whole : splitLast? separator cs = none) : separator ∉ cs := by
  induction cs with
  | nil => nofun
  | cons c cs ih =>
    rw [splitLast?] at whole
    cases later : splitLast? separator cs with
    | some cut =>
      rw [later] at whole
      cases whole
    | none =>
      simp only [later, ite_eq_right_iff, reduceCtorEq, imp_false] at whole
      rw [List.mem_cons, not_or]
      exact ⟨Ne.symm whole, ih later⟩

/-- A text is cut at its last separator and nowhere else. -/
lemma splitLast?_eq_some_iff {separator : Char} {cs before after : List Char} :
    splitLast? separator cs = some (before, after) ↔
      cs = before ++ separator :: after ∧ separator ∉ after := by
  constructor
  · intro split
    induction cs generalizing before with
    | nil => cases split
    | cons c cs ih =>
      rw [splitLast?] at split
      cases later : splitLast? separator cs with
      | some cut =>
        rw [later] at split
        cases split
        obtain ⟨rfl, no⟩ := ih later
        exact ⟨rfl, no⟩
      | none =>
        simp only [later, Option.ite_none_right_eq_some, Option.some.injEq, Prod.mk.injEq] at split
        obtain ⟨rfl, rfl, rfl⟩ := split
        exact ⟨rfl, not_mem_of_splitLast? later⟩
  · rintro ⟨rfl, no⟩
    exact splitLast?_append no before

lemma splitFirst?_of_not_mem {separator : Char} {cs : List Char} (no : separator ∉ cs) :
    splitFirst? separator cs = none := by
  induction cs with
  | nil => rfl
  | cons c cs ih =>
    rw [List.mem_cons, not_or] at no
    rw [splitFirst?, if_neg (Ne.symm no.1), ih no.2]
    rfl

/-- The pieces of a text, with separators between them, are the text. -/
lemma intercalate_fields (separator : Char) (cs : List Char) :
    [separator].intercalate (fields separator cs) = cs := by
  induction cs with
  | nil => rfl
  | cons c cs ih =>
    rw [fields]
    split
    case h_1 nil =>
      rw [nil] at ih
      rw [← ih]
      rfl
    case h_2 field more pieces =>
      rw [pieces] at ih
      split
      case isTrue eq =>
        rw [← ih, eq]
        rfl
      case isFalse =>
        -- The character goes in front of the first piece, whether or not others follow.
        rw [← ih]
        cases more <;> rfl

lemma fields_ne_nil (separator : Char) (cs : List Char) : fields separator cs ≠ [] := by
  cases cs with
  | nil => nofun
  | cons c cs =>
    rw [fields]
    split
    case h_1 => nofun
    case h_2 => split <;> nofun

/-- A text without a separator is one piece. -/
lemma fields_of_not_mem {separator : Char} {cs : List Char} (no : separator ∉ cs) :
    fields separator cs = [cs] := by
  induction cs with
  | nil => rfl
  | cons c cs ih =>
    rw [List.mem_cons, not_or] at no
    rw [fields, ih no.2]
    exact if_neg (Ne.symm no.1)

/-- What is in front of the first separator is the first piece. -/
lemma fields_append {separator : Char} {piece : List Char} (no : separator ∉ piece) (rest : List Char) :
    fields separator (piece ++ separator :: rest) = piece :: fields separator rest := by
  induction piece with
  | nil =>
    rw [List.nil_append, fields]
    split
    case h_1 nil => exact absurd nil (fields_ne_nil separator rest)
    case h_2 pieces =>
      rw [pieces]
      exact if_pos rfl
  | cons c piece ih =>
    rw [List.mem_cons, not_or] at no
    rw [List.cons_append, fields, ih no.2]
    exact if_neg (Ne.symm no.1)

end MeshProxy.Text
