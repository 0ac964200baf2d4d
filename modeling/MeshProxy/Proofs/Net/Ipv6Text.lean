import MeshProxy.Net.Ipv6
import MeshProxy.Proofs.Net.Spelling
import Mathlib

/-!
# The texts of IPv6 addresses

Which texts stand for an IPv6 address, told without the reader (`Ipv6.Spells`): rows of groups with colons between them,
all eight or with one double colon for the zeros that are missing. A group has one to four hexadecimal digits of either
case, and an IPv4 address may stand for the last two groups of all. The reader takes exactly these texts
(`Ipv6.ofChars?_eq_some_iff`). None of them has a bracket or a zone in it, and all of them have a colon.
-/

namespace MeshProxy

/-! ## Hexadecimal digits -/

namespace Text

/-- A digit below sixteen, in either case. -/
structure HexDigit (c : Char) (d : Nat) : Prop where
  lt : d < 16
  spelled : c = d.digitChar ∨ c = d.digitChar.toUpper

/-- Only ASCII characters are digits. -/
lemma bounds_of_hexDigit? {c : Char} {d : Nat} (read : hexDigit? c = some d) : c.toNat < 128 ∧ d < 16 := by
  have code (c : Char) : c.val.toNat = c.toNat := rfl
  simp only [hexDigit?, Char.le_def, UInt32.le_iff_toNat_le, code, Char.reduceToNat] at read
  split_ifs at read
  all_goals
    rw [Option.some.injEq] at read
    omega

lemma hexDigit?_eq_some_iff {c : Char} {d : Nat} : hexDigit? c = some d ↔ HexDigit c d := by
  constructor
  · intro read
    have table : ∀ n : Fin 128, ∀ d ∈ hexDigit? (Char.ofNat n),
        Char.ofNat n = d.digitChar ∨ Char.ofNat n = d.digitChar.toUpper := by decide
    obtain ⟨ascii, lt⟩ := bounds_of_hexDigit? read
    have spelled := table ⟨c.toNat, ascii⟩ d
    rw [Char.ofNat_toNat] at spelled
    exact ⟨lt, spelled read⟩
  · rintro ⟨lt, spelled⟩
    have table : ∀ d : Fin 16, hexDigit? d.val.digitChar = some d.val ∧
        hexDigit? d.val.digitChar.toUpper = some d.val := by decide
    obtain ⟨lower, upper⟩ := table ⟨d, lt⟩
    cases spelled with
    | inl eq => rw [eq, lower]
    | inr eq => rw [eq, upper]

lemma not_isDigit_of_hexDigit? {c : Char} (no : hexDigit? c = none) : c.isDigit = false := by
  rw [Bool.eq_false_iff]
  intro dg
  rw [hexDigit?, if_pos (isDigit_iff.mp dg)] at no
  cases no

end Text

namespace Ipv6

open Text (HexDigit)

/-- The digits of a group and its value. -/
structure SpellsGroup (cs : List Char) (group : UInt16) : Prop where
  ne_nil : cs ≠ []
  short : cs.length ≤ 4
  digits : ∃ ds, List.Forall₂ HexDigit cs ds ∧ group.toNat = Nat.ofDigits 16 ds.reverse

/-- Groups with colons between them. Where `dotted` is set, an IPv4 address may stand for the last two. -/
inductive Row (dotted : Bool) : List Char → List UInt16 → Prop where
  | group {cs : List Char} {g : UInt16} :
    SpellsGroup cs g →
    Row dotted cs [g]
  | embedded (ip : Ipv4) :
    dotted = true →
    Row dotted ip.chars [bigEndian ip.a ip.b, bigEndian ip.c ip.d]
  | more {cs rest : List Char} {g : UInt16} {gs : List UInt16} :
    SpellsGroup cs g →
    Row dotted rest gs →
    Row dotted (cs ++ ':' :: rest) (g :: gs)

/-- What stands on one side of a double colon, perhaps nothing. -/
inductive Side (dotted : Bool) : List Char → List UInt16 → Prop where
  | empty : Side dotted [] []
  | row {cs : List Char} {gs : List UInt16} :
    Row dotted cs gs →
    Side dotted cs gs

/-- The texts of an address: with all groups, or with a double colon for one or more groups of zeros. -/
inductive Spells : List Char → Ipv6 → Prop where
  | full {cs : List Char} {ip : Ipv6} :
    Row true cs ip.groups →
    Spells cs ip
  | compressed {front back : List Char} {gs hs : List UInt16} {ip : Ipv6} (zeros : Nat) :
    Side false front gs →
    Side true back hs →
    ip.groups = gs ++ List.replicate (zeros + 1) 0 ++ hs →
    Spells (front ++ ':' :: ':' :: back) ip

/-! ## Groups -/

lemma continueHex_eq_some_iff {cs : List Char} {value n : Nat} :
    continueHex value cs = some n ↔
      ∃ ds, List.Forall₂ HexDigit cs ds ∧ n = ds.foldl (fun v d => 16 * v + d) value := by
  induction cs generalizing value with
  | nil => simp [continueHex, eq_comm]
  | cons c cs ih =>
    rw [continueHex]
    constructor
    · intro read
      split at read
      case h_1 d digit =>
        obtain ⟨ds, spelled, rfl⟩ := ih.mp read
        exact ⟨d :: ds, .cons (Text.hexDigit?_eq_some_iff.mp digit) spelled, rfl⟩
      case h_2 => cases read
    · rintro ⟨_, spelled, rfl⟩
      cases spelled with
      | cons digit spelled =>
        rw [Text.hexDigit?_eq_some_iff.mpr digit]
        exact ih.mpr ⟨_, spelled, rfl⟩

lemma ofDigits_reverse (ds : List Nat) :
    Nat.ofDigits 16 ds.reverse = ds.foldl (fun v d => 16 * v + d) 0 := by
  rw [Nat.ofDigits_eq_foldr, List.foldr_reverse]
  simp [Nat.add_comm]

/-- Four digits fit into a group. -/
lemma ofDigits_lt {cs : List Char} {ds : List Nat} (spelled : List.Forall₂ HexDigit cs ds)
    (short : cs.length ≤ 4) : Nat.ofDigits 16 ds.reverse < 2 ^ 16 := by
  have both : List.Forall₂ (fun d c => d < 16 ∧ HexDigit c d) ds cs :=
    spelled.flip.imp fun _ _ digit => ⟨digit.lt, digit⟩
  have small : ∀ d ∈ ds.reverse, d < 16 := by
    intro d mem
    exact ((List.forall₂_and_left _ _).mp both).1 d (List.mem_reverse.mp mem)
  have lt := Nat.ofDigits_lt_base_pow_length (by decide) small
  have pow : 16 ^ ds.reverse.length ≤ 16 ^ 4 := by
    apply Nat.pow_le_pow_right (by decide)
    rw [List.length_reverse, ← spelled.length_eq]
    exact short
  omega

lemma group?_eq_some_iff {cs : List Char} {g : UInt16} : group? cs = some g ↔ SpellsGroup cs g := by
  rw [group?]
  constructor
  · intro read
    split at read
    case isTrue => cases read
    case isFalse length =>
      rw [not_or, Nat.not_lt, List.length_eq_zero_iff] at length
      obtain ⟨n, run, rfl⟩ := Option.map_eq_some_iff.mp read
      obtain ⟨ds, spelled, rfl⟩ := continueHex_eq_some_iff.mp run
      refine ⟨length.1, length.2, ds, spelled, ?_⟩
      rw [← ofDigits_reverse, UInt16.toNat_ofNat', Nat.mod_eq_of_lt (ofDigits_lt spelled length.2)]
  · rintro ⟨ne_nil, short, ds, spelled, value⟩
    rw [if_neg]
    · rw [continueHex_eq_some_iff.mpr ⟨ds, spelled, rfl⟩, ← ofDigits_reverse, ← value]
      exact congrArg some UInt16.ofNat_toNat
    · rw [not_or, Nat.not_lt, List.length_eq_zero_iff]
      exact ⟨ne_nil, short⟩

/-- No character but a hexadecimal digit stands in a group. -/
lemma SpellsGroup.not_mem {cs : List Char} {g : UInt16} (sp : SpellsGroup cs g) {c : Char}
    (no : Text.hexDigit? c = none) : c ∉ cs := by
  obtain ⟨ds, spelled, -⟩ := sp.digits
  have both : List.Forall₂ (fun c d => Text.hexDigit? c ≠ none ∧ HexDigit c d) cs ds := by
    refine spelled.imp fun c d digit => ⟨?_, digit⟩
    rw [Text.hexDigit?_eq_some_iff.mpr digit]
    exact Option.some_ne_none d
  intro mem
  exact ((List.forall₂_and_left _ _).mp both).1 c mem no

/-! ## Rows and the double colon -/

/-- Apart from digits there are only colons and dots in a row. -/
lemma Row.not_mem {dotted : Bool} {cs : List Char} {gs : List UInt16} (row : Row dotted cs gs) {c : Char}
    (no : Text.hexDigit? c = none) (colon : c ≠ ':') (dot : c ≠ '.') : c ∉ cs := by
  induction row with
  | group sp => exact sp.not_mem no
  | embedded ip _ => exact Ipv4.not_mem_chars (Text.not_isDigit_of_hexDigit? no) dot ip
  | more sp _ ih =>
    rw [List.mem_append, List.mem_cons, not_or, not_or]
    exact ⟨sp.not_mem no, colon, ih⟩

/-- A row neither is empty nor begins with a colon. -/
lemma Row.head {dotted : Bool} {cs : List Char} {gs : List UInt16} (row : Row dotted cs gs) :
    ∃ c rest, cs = c :: rest ∧ c ≠ ':' := by
  have front {cs : List Char} (ne_nil : cs ≠ []) (no : ':' ∉ cs) : ∃ c rest, cs = c :: rest ∧ c ≠ ':' := by
    cases cs with
    | nil => exact absurd rfl ne_nil
    | cons c rest =>
      rw [List.mem_cons, not_or] at no
      exact ⟨c, rest, rfl, Ne.symm no.1⟩
  induction row with
  | group sp => exact front sp.ne_nil (sp.not_mem rfl)
  | embedded ip _ => exact front ip.chars_ne_nil (Ipv4.not_mem_chars rfl (by decide) ip)
  | more sp _ _ =>
    obtain ⟨c, rest, rfl, ne⟩ := front sp.ne_nil (sp.not_mem rfl)
    exact ⟨c, _, rfl, ne⟩

/-- A double colon behind a text without colons is the first one there. -/
lemma splitCompressed?_append {front : List Char} (no : ':' ∉ front) (rest : List Char) :
    splitCompressed? (front ++ rest) =
      (splitCompressed? rest).map fun (before, after) => (front ++ before, after) := by
  induction front with
  | nil => simp
  | cons c front ih =>
    rw [List.mem_cons, not_or] at no
    rw [List.cons_append, splitCompressed?, ih no.2, Option.map_map]
    · rfl
    · rintro _ rfl
      exact absurd rfl no.1

/-- A double colon behind a row is the first one there. -/
lemma Row.splitCompressed? {dotted : Bool} {cs : List Char} {gs : List UInt16} (row : Row dotted cs gs)
    (rest : List Char) : splitCompressed? (cs ++ rest) =
      (splitCompressed? rest).map fun (before, after) => (cs ++ before, after) := by
  induction row with
  | group sp => exact splitCompressed?_append (sp.not_mem rfl) rest
  | embedded ip _ => exact splitCompressed?_append (Ipv4.not_mem_chars rfl (by decide) ip) rest
  | more sp row ih =>
    -- The colon between two groups is a single one.
    obtain ⟨c, later, eq, ne⟩ := row.head
    have single (text : List Char) : Ipv6.splitCompressed? (':' :: c :: text) =
        (Ipv6.splitCompressed? (c :: text)).map fun (before, after) => (':' :: before, after) := by
      rw [Ipv6.splitCompressed?]
      rintro _ - ⟨⟩
      exact ne rfl
    rw [List.append_assoc, splitCompressed?_append (sp.not_mem rfl), List.cons_append]
    subst eq
    rw [List.cons_append, single, ← List.cons_append, ih, Option.map_map, Option.map_map]
    congr 1
    funext cut
    simp

lemma Side.splitCompressed? {dotted : Bool} {front : List Char} {gs : List UInt16} (side : Side dotted front gs)
    (back : List Char) : splitCompressed? (front ++ ':' :: ':' :: back) = some (front, back) := by
  cases side with
  | empty => rfl
  | row row => simp [row.splitCompressed?, Ipv6.splitCompressed?]

lemma eq_of_splitCompressed? {cs before after : List Char} (cut : splitCompressed? cs = some (before, after)) :
    cs = before ++ ':' :: ':' :: after := by
  induction cs using splitCompressed?.induct generalizing before with
  | case1 rest =>
    cases cut
    rfl
  | case2 c rest _ ih =>
    rw [splitCompressed?] at cut
    · obtain ⟨⟨before, after⟩, later, eq⟩ := Option.map_eq_some_iff.mp cut
      cases eq
      rw [ih later]
      rfl
    · assumption
  | case3 => cases cut

/-! ## The reader -/

lemma row_of_groupsOfFields? {dotted : Bool} {pieces : List (List Char)} {gs : List UInt16}
    (read : groupsOfFields? dotted pieces = some gs) (ne_nil : pieces ≠ []) :
    Row dotted ([':'].intercalate pieces) gs := by
  induction pieces generalizing gs with
  | nil => exact absurd rfl ne_nil
  | cons piece more ih =>
    cases more with
    | nil =>
      -- The last piece, or the only one.
      rw [List.intercalate_singleton]
      rw [groupsOfFields?] at read
      split at read
      case h_1 g one =>
        cases read
        exact .group (group?_eq_some_iff.mp one)
      case h_2 =>
        split at read
        case isTrue set =>
          obtain ⟨ip, four, rfl⟩ := Option.map_eq_some_iff.mp read
          rw [Ipv4.ofChars?_eq_some_iff.mp four]
          exact .embedded ip set
        case isFalse => cases read
    | cons next more =>
      rw [groupsOfFields?] at read
      · simp only [Option.bind_eq_bind, Option.bind_eq_some_iff, Option.pure_def, Option.some.injEq] at read
        obtain ⟨g, one, gs, others, rfl⟩ := read
        rw [List.intercalate_cons_cons, List.append_assoc]
        exact .more (group?_eq_some_iff.mp one) (ih others nofun)
      · nofun

lemma Row.groupsOfFields? {dotted : Bool} {cs : List Char} {gs : List UInt16} (row : Row dotted cs gs) :
    groupsOfFields? dotted (Text.fields ':' cs) = some gs := by
  induction row with
  | group sp =>
    rw [Text.fields_of_not_mem (sp.not_mem rfl), Ipv6.groupsOfFields?, group?_eq_some_iff.mpr sp]
  | embedded ip set =>
    have no_group : group? ip.chars = none := by
      rw [Option.eq_none_iff_forall_ne_some]
      intro g read
      have dot : '.' ∈ ip.chars := by simp [Ipv4.chars]
      exact (group?_eq_some_iff.mp read).not_mem rfl dot
    rw [Text.fields_of_not_mem (Ipv4.not_mem_chars rfl (by decide) ip), Ipv6.groupsOfFields?, no_group,
      Ipv4.ofChars?_eq_some_iff.mpr rfl]
    exact if_pos set
  | @more cs rest g gs sp row ih =>
    rw [Text.fields_append (sp.not_mem rfl), Ipv6.groupsOfFields?, group?_eq_some_iff.mpr sp, ih]
    · rfl
    · exact Text.fields_ne_nil ':' rest

lemma groups?_eq_some_iff {dotted : Bool} {cs : List Char} {gs : List UInt16} :
    groups? dotted cs = some gs ↔ Side dotted cs gs := by
  rw [groups?]
  constructor
  · intro read
    split at read
    case isTrue empty =>
      rw [List.isEmpty_iff] at empty
      cases read
      rw [empty]
      exact .empty
    case isFalse =>
      have row := row_of_groupsOfFields? read (Text.fields_ne_nil ':' cs)
      rw [Text.intercalate_fields] at row
      exact .row row
  · intro side
    cases side with
    | empty => rfl
    | row row =>
      obtain ⟨c, rest, rfl, -⟩ := row.head
      exact row.groupsOfFields?

lemma ofGroups?_eq_some_iff {groups : List UInt16} {ip : Ipv6} :
    ofGroups? groups = some ip ↔ groups = ip.groups := by
  rw [ofGroups?]
  constructor
  · intro read
    split at read
    case isTrue =>
      cases read
      rfl
    case isFalse => cases read
  · rintro rfl
    exact dif_pos ip.length_eq

/-- The reader takes the texts of an address and no others. -/
theorem ofChars?_eq_some_iff {cs : List Char} {ip : Ipv6} : ofChars? cs = some ip ↔ Spells cs ip := by
  constructor
  · intro read
    rw [ofChars?] at read
    split at read
    case h_1 =>
      obtain ⟨groups, read, made⟩ := Option.bind_eq_some_iff.mp read
      rw [ofGroups?_eq_some_iff] at made
      subst made
      rw [groups?_eq_some_iff] at read
      generalize all : ip.groups = groups at read
      cases read with
      | empty =>
        have eight := ip.length_eq
        rw [all] at eight
        cases eight
      | row row =>
        rw [← all] at row
        exact .full row
    case h_2 front back cut =>
      simp only [Option.bind_eq_bind, Option.bind_eq_some_iff] at read
      obtain ⟨gs, first, hs, second, read⟩ := read
      split at read
      case isFalse => cases read
      case isTrue room =>
        rw [ofGroups?_eq_some_iff] at read
        rw [eq_of_splitCompressed? cut]
        refine .compressed (7 - (gs.length + hs.length)) (groups?_eq_some_iff.mp first)
          (groups?_eq_some_iff.mp second) ?_
        rw [← read]
        congr 3
        omega
  · intro spelled
    cases spelled with
    | full row =>
      have whole := row.splitCompressed? []
      rw [List.append_nil] at whole
      rw [ofChars?, whole]
      simp only [Ipv6.splitCompressed?, Option.map_none, groups?_eq_some_iff.mpr (.row row)]
      exact ofGroups?_eq_some_iff.mpr rfl
    | @compressed front back gs hs _ zeros first second eq =>
      have length := ip.length_eq
      rw [eq, List.length_append, List.length_append, List.length_replicate] at length
      have zeros : 8 - (gs.length + hs.length) = zeros + 1 := by omega
      rw [ofChars?, first.splitCompressed?]
      simp only [groups?_eq_some_iff.mpr first, groups?_eq_some_iff.mpr second, Option.bind_eq_bind, Option.bind_some]
      rw [if_pos (by omega), zeros, ← eq]
      exact ofGroups?_eq_some_iff.mpr rfl

/-- An IPv4 address may stand at the end, but not in front of a double colon. -/
example : (ofChars? "::1.2.3.4".toList).isSome = true ∧ ofChars? "1.2.3.4::".toList = none := by
  decide +kernel

/-! ## What is in such a text -/

/-- Neither a zone nor a bracket stands in the text of an address. -/
lemma Spells.not_mem {cs : List Char} {ip : Ipv6} (sp : Spells cs ip) {c : Char}
    (no : Text.hexDigit? c = none) (colon : c ≠ ':') (dot : c ≠ '.') : c ∉ cs := by
  have side {dotted : Bool} {cs : List Char} {gs : List UInt16} (side : Side dotted cs gs) : c ∉ cs := by
    cases side with
    | empty => nofun
    | row row => exact row.not_mem no colon dot
  cases sp with
  | full row => exact row.not_mem no colon dot
  | compressed zeros first second _ =>
    simp [side first, side second, colon]

/-- Every text of an address has a colon in it. -/
lemma Spells.colon_mem {cs : List Char} {ip : Ipv6} (sp : Spells cs ip) : ':' ∈ cs := by
  cases sp with
  | compressed => simp
  | full row =>
    have eight := ip.length_eq
    generalize ip.groups = gs at row eight
    cases row with
    | group => cases eight
    | embedded => cases eight
    | more => simp

end Ipv6

end MeshProxy
