import MeshProxy.Text.Decimal
import Mathlib.Algebra.Group.Nat.Defs
import Mathlib.Tactic.Common

/-!
# Numbers are read as they are written

The digits of a number (`Text.decimal`) are digits and nothing else, and reading them gives the number back, as far as
the bound of the reader allows. What else a reader takes is told by `boundedDigits?_eq_some_iff` and, for ports, by
`port?_eq_some_iff`: any number of zeros in front, and for ports a plus sign. A run of digits without a zero to spare is
the one that is written (`decimal_of_boundedDigits?`), so a port is the one that is written if it is `Plain`
(`eq_decimal_iff_of_port?`). A port that is cut short is still a port if a digit is left (`isSome_port?_of_cut`).
-/

namespace MeshProxy.Text

/-- The digits of a number are digits. -/
lemma isDigit_of_mem_decimal {n : Nat} {c : Char} (mem : c ∈ decimal n) : c.isDigit = true :=
  Nat.isDigit_of_mem_toDigits (by decide) (by decide) mem

/-- No other character stands among the digits of a number. -/
lemma not_mem_decimal {c : Char} (no : c.isDigit = false) (n : Nat) : c ∉ decimal n := by
  intro mem
  rw [isDigit_of_mem_decimal mem] at no
  cases no

/-- A number has at least one digit. -/
lemma decimal_ne_nil (n : Nat) : decimal n ≠ [] := Nat.toDigits_ne_nil

/-- A number below a power of ten has no more digits than its exponent. -/
lemma length_decimal_le {n k : Nat} (lt : n < 10 ^ k) (pos : 0 < k) : (decimal n).length ≤ k :=
  (Nat.length_toDigits_le_iff (by decide) pos).mpr lt

lemma isDigit_iff {c : Char} : c.isDigit = true ↔ '0' ≤ c ∧ c ≤ '9' := by
  simp [Char.isDigit, Char.le_def]

/-- A digit has a value. -/
lemma digit?_of_isDigit {c : Char} (dg : c.isDigit = true) : digit? c = some (c.toNat - '0'.toNat) := by
  rw [digit?, if_pos (isDigit_iff.mp dg)]

/-- A run of digits continues to the number that it spells. -/
lemma continueDigits_of_isDigit {cs : List Char} (dg : ∀ c ∈ cs, c.isDigit = true) (value : Nat) :
    continueDigits value cs = some (Nat.ofDigitChars 10 cs value) := by
  induction cs generalizing value with
  | nil => simp [continueDigits]
  | cons c cs ih =>
    obtain ⟨first, others⟩ := List.forall_mem_cons.mp dg
    rw [continueDigits, digit?_of_isDigit first, Nat.ofDigitChars_cons]
    exact ih others _

/-- The digits of a number spell it. -/
lemma digits?_decimal (n : Nat) : digits? (decimal n) = some n := by
  have dg : ∀ c ∈ decimal n, c.isDigit = true := fun _ => isDigit_of_mem_decimal
  have value : Nat.ofDigitChars 10 (decimal n) 0 = n := Nat.ofDigitChars_ten_toDigits
  cases e : decimal n with
  | nil => exact absurd e (decimal_ne_nil n)
  | cons c cs =>
    have run : digits? (c :: cs) = continueDigits 0 (c :: cs) := rfl
    rw [e] at dg value
    rw [run, continueDigits_of_isDigit dg, value]

/-- A number within the bound is read back. -/
lemma boundedDigits?_decimal {n limit : Nat} (le : n ≤ limit) :
    boundedDigits? limit (decimal n) = some n := by
  simp [boundedDigits?, digits?_decimal, le]

/-- A port is read back. -/
lemma port?_decimal (port : UInt16) : port? (decimal port.toNat) = some port := by
  have le : port.toNat ≤ maxPort := Nat.le_of_lt_succ port.toNat_lt
  -- There is no sign to cut off in front of the digits.
  have unsigned : bounded? maxPort (decimal port.toNat) = boundedDigits? maxPort (decimal port.toNat) := by
    have no := not_mem_decimal (c := '+') rfl port.toNat
    cases e : decimal port.toNat with
    | nil => rfl
    | cons c cs =>
      rw [e] at no
      simp only [bounded?]
      split
      case h_1 rest eq =>
        cases eq
        simp at no
      case h_2 => rfl
  rw [port?, unsigned, boundedDigits?_decimal le]
  simp

/-! ## What a reader takes -/

lemma digit?_of_not_isDigit {c : Char} (no : c.isDigit = false) : digit? c = none := by
  have bounds : ¬ ('0' ≤ c ∧ c ≤ '9') := by
    rw [← isDigit_iff, no]
    exact Bool.false_ne_true
  rw [digit?, if_neg bounds]

/-- Digits continue to the number that they spell, and nothing else does. -/
lemma continueDigits_eq_some_iff {value n : Nat} {cs : List Char} :
    continueDigits value cs = some n ↔
      (∀ c ∈ cs, c.isDigit = true) ∧ n = Nat.ofDigitChars 10 cs value := by
  constructor
  · intro run
    have dg : ∀ c ∈ cs, c.isDigit = true := by
      induction cs generalizing value with
      | nil => nofun
      | cons c cs ih =>
        cases first : c.isDigit with
        | false =>
          rw [continueDigits, digit?_of_not_isDigit first] at run
          cases run
        | true =>
          rw [continueDigits, digit?_of_isDigit first] at run
          exact List.forall_mem_cons.mpr ⟨first, ih run⟩
    rw [continueDigits_of_isDigit dg, Option.some.injEq] at run
    exact ⟨dg, run.symm⟩
  · rintro ⟨dg, rfl⟩
    exact continueDigits_of_isDigit dg value

/-- A bounded reader takes digits that spell a number within its bound. -/
lemma boundedDigits?_eq_some_iff {limit n : Nat} {cs : List Char} :
    boundedDigits? limit cs = some n ↔
      cs ≠ [] ∧ (∀ c ∈ cs, c.isDigit = true) ∧ n = Nat.ofDigitChars 10 cs 0 ∧ n ≤ limit := by
  rw [boundedDigits?, Option.filter_eq_some_iff, decide_eq_true_iff]
  cases cs with
  | nil => simp [digits?]
  | cons c cs =>
    rw [digits?, continueDigits_eq_some_iff, and_assoc]
    · simp
    · nofun

/-- In front of the digits there may be a plus sign. -/
lemma bounded?_eq_some_iff {limit n : Nat} {cs : List Char} :
    bounded? limit cs = some n ↔
      ∃ ds, (cs = ds ∨ cs = '+' :: ds) ∧ boundedDigits? limit ds = some n := by
  constructor
  · intro read
    rw [bounded?.eq_def] at read
    split at read
    case h_1 ds => exact ⟨ds, .inr rfl, read⟩
    case h_2 => exact ⟨cs, .inl rfl, read⟩
  · rintro ⟨ds, rfl | rfl, read⟩
    · -- The sign is no digit, so it is not there.
      obtain ⟨-, dg, -⟩ := boundedDigits?_eq_some_iff.mp read
      rw [bounded?.eq_def]
      split
      case h_1 => exact absurd (dg '+' List.mem_cons_self) (by decide)
      case h_2 => exact read
    · exact read

lemma port?_eq_some_iff {cs : List Char} {port : UInt16} :
    port? cs = some port ↔
      ∃ ds, (cs = ds ∨ cs = '+' :: ds) ∧ boundedDigits? maxPort ds = some port.toNat := by
  rw [port?, Option.map_eq_some_iff, ← bounded?_eq_some_iff]
  constructor
  · rintro ⟨n, read, rfl⟩
    obtain ⟨_, _, bounded⟩ := bounded?_eq_some_iff.mp read
    obtain ⟨-, -, -, le⟩ := boundedDigits?_eq_some_iff.mp bounded
    have lt : n < 2 ^ 16 := Nat.lt_succ_of_le le
    rw [read, UInt16.toNat_ofNat', Nat.mod_eq_of_lt lt]
  · intro read
    exact ⟨port.toNat, read, UInt16.ofNat_toNat⟩

/-- No separator stands in a port. -/
lemma not_mem_of_port? {cs : List Char} {port : UInt16} (read : port? cs = some port) : ':' ∉ cs := by
  obtain ⟨ds, spelled, bounded⟩ := port?_eq_some_iff.mp read
  obtain ⟨-, dg, -⟩ := boundedDigits?_eq_some_iff.mp bounded
  have no : ':' ∉ ds := fun mem => absurd (dg ':' mem) (by decide)
  rcases spelled with rfl | rfl
  · exact no
  · simp [no]

/-- More digits make no smaller number. -/
lemma ofDigitChars_le_append (ds more : List Char) :
    Nat.ofDigitChars 10 ds 0 ≤ Nat.ofDigitChars 10 (ds ++ more) 0 := by
  rw [Nat.ofDigitChars_append, Nat.ofDigitChars_eq_ofDigitChars_zero (l := more)]
  have pos : 0 < 10 ^ more.length := Nat.pow_pos (by decide)
  calc Nat.ofDigitChars 10 ds 0
      ≤ 10 ^ more.length * Nat.ofDigitChars 10 ds 0 := Nat.le_mul_of_pos_left _ pos
    _ ≤ _ := Nat.le_add_right _ _

lemma isSome_boundedDigits?_of_cut {limit : Nat} {cs ds : List Char}
    (ok : (boundedDigits? limit cs).isSome) (pre : ds <+: cs) (ne : ds ≠ []) :
    (boundedDigits? limit ds).isSome := by
  obtain ⟨n, read⟩ := Option.isSome_iff_exists.mp ok
  obtain ⟨-, dg, rfl, le⟩ := boundedDigits?_eq_some_iff.mp read
  obtain ⟨more, rfl⟩ := pre
  have spelled : boundedDigits? limit ds = some (Nat.ofDigitChars 10 ds 0) := by
    refine boundedDigits?_eq_some_iff.mpr ⟨ne, ?_, rfl, ?_⟩
    · exact fun c mem => dg c (List.mem_append_left _ mem)
    · exact Nat.le_trans (ofDigitChars_le_append ds more) le
  rw [spelled]
  rfl

/-- A port that is cut short is a port exactly if a digit is left. -/
lemma isSome_port?_of_cut {cs ds : List Char} (ok : (port? cs).isSome) (pre : ds <+: cs) :
    (port? ds).isSome ↔ ∃ c ∈ ds, c.isDigit = true := by
  constructor
  · intro left
    obtain ⟨port, read⟩ := Option.isSome_iff_exists.mp left
    obtain ⟨digits, spelled, bounded⟩ := port?_eq_some_iff.mp read
    obtain ⟨ne, dg, -⟩ := boundedDigits?_eq_some_iff.mp bounded
    obtain ⟨c, mem⟩ := List.exists_mem_of_ne_nil digits ne
    refine ⟨c, ?_, dg c mem⟩
    rcases spelled with rfl | rfl
    · exact mem
    · exact List.mem_cons_of_mem _ mem
  · rintro ⟨c, mem, first⟩
    obtain ⟨port, read⟩ := Option.isSome_iff_exists.mp ok
    obtain ⟨digits, spelled, bounded⟩ := port?_eq_some_iff.mp read
    have digits_ok : (boundedDigits? maxPort digits).isSome := by rw [bounded]; rfl
    -- What is left of the digits is a number again; the sign stays in front of it if there is one.
    have back {left : List Char} (pre : left <+: digits) (ne : left ≠ [])
        (eq : ds = left ∨ ds = '+' :: left) : (port? ds).isSome := by
      obtain ⟨n, less⟩ := Option.isSome_iff_exists.mp (isSome_boundedDigits?_of_cut digits_ok pre ne)
      rw [port?, bounded?_eq_some_iff.mpr ⟨left, eq, less⟩]
      rfl
    rcases spelled with rfl | rfl
    · exact back pre (List.ne_nil_of_mem mem) (.inl rfl)
    · rcases List.prefix_cons_iff.mp pre with rfl | ⟨left, rfl, less⟩
      · cases mem
      · refine back less ?_ (.inr rfl)
        rintro rfl
        rw [List.mem_singleton.mp mem] at first
        cases first

/-! ## Digits without a zero to spare -/

lemma bounds_of_isDigit {c : Char} (dg : c.isDigit = true) :
    '0'.toNat ≤ c.toNat ∧ c.toNat - '0'.toNat < 10 := by
  simp only [Char.isDigit, Bool.and_eq_true, decide_eq_true_eq, ge_iff_le,
    UInt32.le_iff_toNat_le] at dg
  have zero : '0'.toNat = 48 := rfl
  have low : 48 ≤ c.toNat := dg.1
  have high : c.toNat ≤ 57 := dg.2
  omega

lemma digitChar_of_isDigit {c : Char} (dg : c.isDigit = true) :
    Nat.digitChar (c.toNat - '0'.toNat) = c := by
  obtain ⟨low, lt⟩ := bounds_of_isDigit dg
  have zero : '0'.toNat = 48 := rfl
  apply Char.toNat_inj.mp
  rw [Nat.toNat_digitChar_of_lt_ten lt]
  omega

/-- Digits behind those of a positive number are the digits of the number that they continue to. -/
lemma decimal_append {ds : List Char} (dg : ∀ c ∈ ds, c.isDigit = true) {n : Nat} (pos : 0 < n) :
    decimal n ++ ds = decimal (Nat.ofDigitChars 10 ds n) := by
  induction ds generalizing n with
  | nil => simp
  | cons c ds ih =>
    obtain ⟨first, others⟩ := List.forall_mem_cons.mp dg
    have lt := (bounds_of_isDigit first).2
    have one : decimal n ++ [c] = decimal (10 * n + (c.toNat - '0'.toNat)) := by
      rw [decimal, decimal, ← Nat.toDigits_append_toDigits (by decide) pos lt,
        Nat.toDigits_of_lt_base lt, digitChar_of_isDigit first]
    calc decimal n ++ c :: ds
        = (decimal n ++ [c]) ++ ds := by rw [List.append_assoc, List.singleton_append]
      _ = decimal (10 * n + (c.toNat - '0'.toNat)) ++ ds := by rw [one]
      _ = decimal (Nat.ofDigitChars 10 (c :: ds) n) := by
        rw [ih others (by omega), Nat.ofDigitChars_cons]

/-- Digits that do not start with a zero to spare are the digits of the number that they spell. -/
lemma decimal_of_boundedDigits? {limit n : Nat} {cs : List Char}
    (read : boundedDigits? limit cs = some n) (tight : cs.head? ≠ some '0' ∨ cs.length = 1) :
    cs = decimal n := by
  obtain ⟨ne, dg, rfl, -⟩ := boundedDigits?_eq_some_iff.mp read
  cases cs with
  | nil => exact absurd rfl ne
  | cons c cs =>
    obtain ⟨first, others⟩ := List.forall_mem_cons.mp dg
    obtain ⟨low, lt⟩ := bounds_of_isDigit first
    have one : [c] = decimal (c.toNat - '0'.toNat) := by
      rw [decimal, Nat.toDigits_of_lt_base lt, digitChar_of_isDigit first]
    rw [Nat.ofDigitChars_cons, Nat.mul_zero, Nat.zero_add]
    rcases tight with head | single
    · -- The first digit is not zero, so the others continue a positive number.
      have pos : 0 < c.toNat - '0'.toNat := by
        have ne : c.toNat ≠ '0'.toNat := fun eq => head (congrArg some (Char.toNat_inj.mp eq))
        omega
      rw [← decimal_append others pos, ← one, List.singleton_append]
    · have nil : cs = [] := List.length_eq_zero_iff.mp (Nat.succ.inj single)
      rw [nil, Nat.ofDigitChars_nil]
      exact one

/-- The digits of a positive number do not start with a zero. -/
lemma head?_decimal_ne_zero {n : Nat} (pos : 0 < n) : (decimal n).head? ≠ some '0' := by
  induction n using Nat.strongRecOn with
  | ind n ih =>
    by_cases lt : n < 10
    · rw [decimal, Nat.toDigits_of_lt_base lt]
      intro eq
      have zero : '0'.toNat = 48 := rfl
      have digit : (Nat.digitChar n).toNat = '0'.toNat := congrArg Char.toNat (Option.some.inj eq)
      rw [Nat.toNat_digitChar_of_lt_ten lt] at digit
      omega
    · -- The last digit stands behind those of a smaller number.
      have smaller : n / 10 < n := by omega
      have more : 0 < n / 10 := by omega
      have last : decimal n = decimal (n / 10) ++ decimal (n % 10) := by
        rw [decimal, decimal, decimal, Nat.toDigits_append_toDigits (by decide) more (by omega),
          Nat.div_add_mod]
      have some : (decimal (n / 10)).head?.isSome := by simp [decimal_ne_nil]
      rw [last, List.head?_append, Option.or_of_isSome some]
      exact ih _ smaller more

/-- Digits alone: no sign and no zero to spare. -/
def Plain (cs : List Char) : Prop := cs.head? ≠ some '+' ∧ (cs.head? ≠ some '0' ∨ cs.length = 1)

instance (cs : List Char) : Decidable (Plain cs) :=
  inferInstanceAs (Decidable (_ ∧ _))

/-- A port is as it is written exactly if it is plain. -/
lemma eq_decimal_iff_of_port? {cs : List Char} {port : UInt16} (read : port? cs = some port) :
    cs = decimal port.toNat ↔ Plain cs := by
  constructor
  · rintro rfl
    constructor
    · intro sign
      exact not_mem_decimal rfl _ (List.mem_of_head? sign)
    · by_cases zero : port.toNat = 0
      · right
        rw [zero]
        rfl
      · exact .inl (head?_decimal_ne_zero (Nat.pos_of_ne_zero zero))
  · rintro ⟨unsigned, tight⟩
    obtain ⟨ds, rfl | rfl, bounded⟩ := port?_eq_some_iff.mp read
    · exact decimal_of_boundedDigits? bounded tight
    · exact absurd rfl unsigned

end MeshProxy.Text
