import MeshProxy.Proofs.Handshake.Target

/-!
# The grammar of targets

What a target is can be told without its reader: a text of at most 256 bytes that is a host, a colon and a port, where
the host is some characters other than colons and the port is digits after an optional plus sign (`Text.PortText`,
`Target.WellFormed`). The reader accepts these texts and no others (`Target.accepts_grammar`).

What can be wrong with a text is told by `Fault.Applies`, one fault independently of another, so several may apply to one
text. The reader names the one that is looked for first (`Fault.First`).
-/

namespace MeshProxy

namespace Text

/-- Some digits, of a number of at most 65535. -/
structure PortDigits (ds : List Char) : Prop where
  ne_nil : ds ≠ []
  digits : ∀ c ∈ ds, c.isDigit = true
  le : Nat.ofDigitChars 10 ds 0 ≤ 65535

/-- The digits of a port, with or without a plus sign in front of them. -/
inductive PortText : List Char → Prop where
  | plain {ds : List Char} :
    PortDigits ds →
    PortText ds
  | signed {ds : List Char} :
    PortDigits ds →
    PortText ('+' :: ds)

lemma PortDigits.read {ds : List Char} (pd : PortDigits ds) :
    boundedDigits? maxPort ds = some (Nat.ofDigitChars 10 ds 0) :=
  boundedDigits?_eq_some_iff.mpr ⟨pd.ne_nil, pd.digits, rfl, pd.le⟩

lemma isSome_port?_iff {cs : List Char} : (port? cs).isSome ↔ PortText cs := by
  constructor
  · intro read
    obtain ⟨port, read⟩ := Option.isSome_iff_exists.mp read
    obtain ⟨ds, spelled, bounded⟩ := port?_eq_some_iff.mp read
    obtain ⟨ne, dg, value, le⟩ := boundedDigits?_eq_some_iff.mp bounded
    rw [value] at le
    have pd : PortDigits ds := ⟨ne, dg, le⟩
    cases spelled with
    | inl eq => exact eq ▸ .plain pd
    | inr eq => exact eq ▸ .signed pd
  · intro text
    have read {ds : List Char} (pd : PortDigits ds) (spelled : cs = ds ∨ cs = '+' :: ds) :
        (port? cs).isSome := by
      rw [port?, bounded?_eq_some_iff.mpr ⟨ds, spelled, pd.read⟩]
      rfl
    cases text with
    | plain pd => exact read pd (.inl rfl)
    | signed pd => exact read pd (.inr rfl)

end Text

namespace Target

/-- A short enough text of a host without colons, a colon, and a port. -/
structure WellFormed (text : String) : Prop where
  size : text.utf8ByteSize ≤ 256
  form : ∃ host port, text.toList = host ++ ':' :: port ∧ host ≠ [] ∧ ':' ∉ host ∧
    Text.PortText port

/-- The two sides of the last colon of a text. -/
def LastColon (text : String) (host port : List Char) : Prop :=
  text.toList = host ++ ':' :: port ∧ ':' ∉ port

/-- What is wrong with a text. -/
inductive Fault.Applies (text : String) : Fault → Prop where
  | tooLong :
    256 < text.utf8ByteSize →
    Applies text .tooLong
  | noColon :
    ':' ∉ text.toList →
    Applies text .noColon
  | emptyHost {port : List Char} :
    LastColon text [] port →
    Applies text .badHost
  | colonInHost {host port : List Char} :
    LastColon text host port →
    ':' ∈ host →
    Applies text .badHost
  | badPort {host port : List Char} :
    LastColon text host port →
    ¬ Text.PortText port →
    Applies text .badPort

/-- A fault that applies while none does that is looked for before it. -/
inductive Fault.First (text : String) : Fault → Prop where
  | tooLong :
    Fault.tooLong.Applies text →
    First text .tooLong
  | noColon :
    ¬ Fault.tooLong.Applies text →
    Fault.noColon.Applies text →
    First text .noColon
  | badHost :
    ¬ Fault.tooLong.Applies text →
    ¬ Fault.noColon.Applies text →
    Fault.badHost.Applies text →
    First text .badHost
  | badPort :
    ¬ Fault.tooLong.Applies text →
    ¬ Fault.noColon.Applies text →
    ¬ Fault.badHost.Applies text →
    Fault.badPort.Applies text →
    First text .badPort

variable {text : String}

lemma wellFormed_iff : WellFormed text ↔ text.utf8ByteSize ≤ 256 ∧ ∃ host port, Spells text host port := by
  constructor
  · intro wf
    obtain ⟨host, port, chars, ne, plain, port_text⟩ := wf.form
    exact ⟨wf.size, host, port, chars, ne, plain, Text.isSome_port?_iff.mpr port_text⟩
  · intro ⟨size, host, port, sp⟩
    have port_text := Text.isSome_port?_iff.mp sp.port_ok
    exact ⟨size, host, port, sp.chars, sp.host_ne_nil, sp.host_plain, port_text⟩

lemma LastColon.unique {host host' port port' : List Char} (lc : LastColon text host port)
    (lc' : LastColon text host' port') : host' = host ∧ port' = port := by
  have cut := Text.splitLast?_eq_some_iff.mpr lc
  rw [Text.splitLast?_eq_some_iff.mpr lc', Option.some.injEq, Prod.mk.injEq] at cut
  exact cut

lemma LastColon.mem {host port : List Char} (lc : LastColon text host port) : ':' ∈ text.toList := by
  rw [lc.1]
  exact List.mem_append_right _ List.mem_cons_self

lemma WellFormed.lastColon (wf : WellFormed text) :
    ∃ host port, LastColon text host port ∧ host ≠ [] ∧ ':' ∉ host ∧ Text.PortText port := by
  obtain ⟨host, port, chars, ne, plain, port_text⟩ := wf.form
  -- A port has no colon in it, so the one in front of it is the last.
  obtain ⟨n, read⟩ := Option.isSome_iff_exists.mp (Text.isSome_port?_iff.mpr port_text)
  exact ⟨host, port, ⟨chars, Text.not_mem_of_port? read⟩, ne, plain, port_text⟩

lemma not_applies_tooLong (short : text.utf8ByteSize ≤ 256) : ¬ Fault.tooLong.Applies text := by
  intro ap
  cases ap with
  | tooLong long => exact Nat.not_lt.mpr short long

lemma LastColon.not_applies_noColon {host port : List Char} (lc : LastColon text host port) :
    ¬ Fault.noColon.Applies text := by
  intro ap
  cases ap with
  | noColon no => exact no lc.mem

lemma LastColon.applies_badHost_iff {host port : List Char} (lc : LastColon text host port) :
    Fault.badHost.Applies text ↔ host = [] ∨ ':' ∈ host := by
  constructor
  · intro ap
    cases ap with
    | emptyHost lc' => exact .inl (lc'.unique lc).1
    | colonInHost lc' mem => exact .inr ((lc'.unique lc).1 ▸ mem)
  · intro bad
    cases bad with
    | inl nil => exact .emptyHost (nil ▸ lc)
    | inr mem => exact .colonInHost lc mem

lemma LastColon.applies_badPort_iff {host port : List Char} (lc : LastColon text host port) :
    Fault.badPort.Applies text ↔ ¬ Text.PortText port := by
  constructor
  · intro ap
    cases ap with
    | badPort lc' no => exact (lc'.unique lc).2 ▸ no
  · intro no
    exact .badPort lc no

lemma WellFormed.not_applies (wf : WellFormed text) (fault : Fault) : ¬ fault.Applies text := by
  obtain ⟨host, port, lc, ne, plain, port_text⟩ := wf.lastColon
  cases fault with
  | tooLong => exact not_applies_tooLong wf.size
  | noColon => exact lc.not_applies_noColon
  | badHost =>
    rw [lc.applies_badHost_iff, not_or]
    exact ⟨ne, plain⟩
  | badPort =>
    rw [lc.applies_badPort_iff, not_not]
    exact port_text

lemma first_of_fault? {fault : Fault} (found : fault? text = some fault) : fault.First text := by
  rw [fault?] at found
  split at found
  case isTrue long =>
    cases found
    exact .tooLong (.tooLong long)
  case isFalse short =>
    -- Every check that has been passed rules out its own fault for the ones behind it.
    have short := not_applies_tooLong (Nat.le_of_not_lt short)
    split at found
    case h_1 whole =>
      cases found
      exact .noColon short (.noColon (Text.not_mem_of_splitLast? whole))
    case h_2 host port cut =>
      have lc : LastColon text host port := Text.splitLast?_eq_some_iff.mp cut
      split at found
      case isTrue bad =>
        cases found
        exact .badHost short lc.not_applies_noColon (lc.applies_badHost_iff.mpr bad)
      case isFalse good =>
        split at found
        case isFalse => cases found
        case isTrue bad =>
          cases found
          have no : ¬ Text.PortText port := by
            rw [← Text.isSome_port?_iff]
            simpa using bad
          exact .badPort short lc.not_applies_noColon (mt lc.applies_badHost_iff.mp good)
            (lc.applies_badPort_iff.mpr no)

lemma Fault.First.applies {fault : Fault} (fst : fault.First text) : fault.Applies text := by
  cases fst <;> assumption

lemma Fault.First.unique {fault other : Fault} (fst : fault.First text) (fst' : other.First text) :
    fault = other := by
  cases fst <;> cases fst' <;> first | rfl | contradiction

/-- A text is accepted exactly if it is well formed, and refused with the first fault that applies. -/
theorem accepts_grammar (text : String) :
    (fault? text = none ↔ WellFormed text) ∧
      ∀ fault : Fault, fault? text = some fault ↔ fault.First text := by
  have accepted : fault? text = none ↔ WellFormed text := by
    rw [wellFormed_iff]
    exact fault?_eq_none_iff
  refine ⟨accepted, ?_⟩
  intro fault
  constructor
  · intro found
    exact first_of_fault? found
  · intro fst
    -- Some fault is found, or the text would be well formed and no fault would apply; it is first as well.
    cases found : fault? text with
    | none => exact absurd fst.applies ((accepted.mp found).not_applies fault)
    | some other => rw [(first_of_fault? found).unique fst]

end Target

end MeshProxy
