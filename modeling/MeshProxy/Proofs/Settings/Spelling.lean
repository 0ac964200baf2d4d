import MeshProxy.Proofs.Text.Casing
import MeshProxy.Proofs.Text.Decimal
import MeshProxy.Settings.Read

/-!
# How numbers and truth values are spelled in settings

A number is spelled by digits, with a plus sign in front of them or without one, or by a word for a truth value, which
counts as one or zero; a truth value is spelled by such a word or by its digit. Case makes no difference to the words.
`Settings.Number` and `Settings.Flag` say this without a reader, and the readers follow them (`integer?_eq_some_iff`,
`boolean?_eq_some_iff`).
-/

namespace MeshProxy.Settings

/-- A text that spells a number of at most sixty-four bits. -/
inductive Number (text : String) : Nat → Prop where
  | truth :
    Text.lower text ∈ ["true", "on", "yes"] →
    Number text 1
  | falsity :
    Text.lower text ∈ ["false", "off", "no"] →
    Number text 0
  | digits {ds : List Char} :
    text.toList = ds ∨ text.toList = '+' :: ds →
    ds ≠ [] →
    (∀ c ∈ ds, c.isDigit = true) →
    Nat.ofDigitChars 10 ds 0 < 2 ^ 64 →
    Number text (Nat.ofDigitChars 10 ds 0)

/-- A text that spells a truth value. -/
inductive Flag (text : String) : Bool → Prop where
  | truth :
    Text.lower text ∈ ["1", "true", "on", "yes"] →
    Flag text true
  | falsity :
    Text.lower text ∈ ["0", "false", "off", "no"] →
    Flag text false

variable {text : String} {n : Nat}

lemma Number.lt (nb : Number text n) : n < 2 ^ 64 := by
  cases nb with
  | truth => decide
  | falsity => decide
  | digits _ _ _ lt => exact lt

lemma small_of_isDigit {c : Char} (dg : c.isDigit = true) : c.toNat < 0x80 ∧ c.toLower = c := by
  obtain ⟨low, lt⟩ := Text.bounds_of_isDigit dg
  have zero : '0'.toNat = 48 := rfl
  refine ⟨by omega, ?_⟩
  -- Capitals come behind the digits.
  have no : ¬ (c.val ≥ 'A'.val ∧ c.val ≤ 'Z'.val) := by
    rintro ⟨capital, -⟩
    have behind : 65 ≤ c.toNat := UInt32.le_iff_toNat_le.mp capital
    omega
  rw [Char.toLower, dif_neg no]

/-- In lower case, a text of digits still begins with a digit or a sign. -/
lemma head?_lower_of_digits {ds : List Char} (spelled : text.toList = ds ∨ text.toList = '+' :: ds) (ne : ds ≠ [])
    (dg : ∀ c ∈ ds, c.isDigit = true) :
    ∃ c, (Text.lower text).toList.head? = some c ∧ (c = '+' ∨ c.isDigit = true) := by
  obtain ⟨c, more, rfl⟩ := List.exists_cons_of_ne_nil ne
  rcases spelled with plain | signed
  · have digit := dg c List.mem_cons_self
    obtain ⟨ascii, small⟩ := small_of_isDigit digit
    exact ⟨c, Text.head?_lower plain ascii small, .inr digit⟩
  · exact ⟨'+', Text.head?_lower signed (by decide) (by decide), .inl rfl⟩

/-- So it is none of the words. -/
lemma lower_not_mem_of_digits {ds : List Char} (spelled : text.toList = ds ∨ text.toList = '+' :: ds) (ne : ds ≠ [])
    (dg : ∀ c ∈ ds, c.isDigit = true) :
    Text.lower text ∉ ["true", "on", "yes"] ∧ Text.lower text ∉ ["false", "off", "no"] := by
  obtain ⟨c, head, first⟩ := head?_lower_of_digits spelled ne dg
  have letters : ∀ word ∈ ["true", "on", "yes", "false", "off", "no"],
      word.toList.head?.all (fun c => c != '+' && !c.isDigit) = true := by decide +kernel
  have no {word : String} (mem : word ∈ ["true", "on", "yes", "false", "off", "no"]) (eq : Text.lower text = word) :
      False := by
    have letter := letters word mem
    rw [← eq, head, Option.all_some] at letter
    rcases first with rfl | digit
    · cases letter
    · rw [digit, Bool.not_true, Bool.and_false] at letter
      cases letter
  constructor
  · intro mem
    exact no (List.mem_append_left ["false", "off", "no"] mem) rfl
  · intro mem
    exact no (List.mem_append_right ["true", "on", "yes"] mem) rfl

theorem integer?_eq_some_iff : integer? text = some n ↔ Number text n := by
  have max : Text.maxWord64 = 2 ^ 64 - 1 := rfl
  constructor
  · intro read
    rw [integer?] at read
    split_ifs at read with truth falsity
    · cases read
      exact .truth truth
    · cases read
      exact .falsity falsity
    · obtain ⟨ds, spelled, bounded⟩ := Text.bounded?_eq_some_iff.mp read
      obtain ⟨ne, dg, rfl, le⟩ := Text.boundedDigits?_eq_some_iff.mp bounded
      exact .digits spelled ne dg (by omega)
  · intro nb
    rw [integer?]
    cases nb with
    | truth word => exact if_pos word
    | falsity word =>
      have apart : ∀ word ∈ ["false", "off", "no"], word ∉ ["true", "on", "yes"] := by decide
      rw [if_neg (apart _ word), if_pos word]
    | @digits ds spelled ne dg lt =>
      obtain ⟨no_truth, no_falsity⟩ := lower_not_mem_of_digits spelled ne dg
      rw [if_neg no_truth, if_neg no_falsity]
      apply Text.bounded?_eq_some_iff.mpr
      exact ⟨ds, spelled, Text.boundedDigits?_eq_some_iff.mpr ⟨ne, dg, rfl, by omega⟩⟩

theorem boolean?_eq_some_iff {b : Bool} : boolean? text = some b ↔ Flag text b := by
  constructor
  · intro read
    rw [boolean?] at read
    split_ifs at read with truth falsity
    · cases read
      exact .truth truth
    · cases read
      exact .falsity falsity
  · intro fl
    rw [boolean?]
    cases fl with
    | truth word => exact if_pos word
    | falsity word =>
      have apart : ∀ word ∈ ["0", "false", "off", "no"], word ∉ ["1", "true", "on", "yes"] := by decide
      rw [if_neg (apart _ word), if_pos word]

end MeshProxy.Settings
