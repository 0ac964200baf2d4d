import MeshProxy.Net.Redirection
import MeshProxy.Proofs.Handshake.Exchange
import MeshProxy.Proofs.Net.Spelling

/-!
# From the kernel's record to the wire

A record of an IPv4 destination comes to a text that can be sent as it is (`Redirection.Sendable`), and from which the
port and the octets can be read in decimal (`Redirection.ReadsAs`). So the text holds what bytes two to seven of the
record hold, and nothing of the padding (`Redirection.conveys`).
-/

namespace MeshProxy

/-! ## The length of a text -/

lemma utf8ByteSize_ofList_of_ascii {cs : List Char} (ascii : ∀ c ∈ cs, c.toNat < 128) :
    (String.ofList cs).utf8ByteSize = cs.length := by
  induction cs with
  | nil => rfl
  | cons c cs ih =>
    obtain ⟨first, others⟩ := List.forall_mem_cons.mp ascii
    have one : c.utf8Size = 1 := by
      apply Char.utf8Size_eq_one_iff.mpr
      rw [UInt32.le_iff_toNat_le]
      exact Nat.le_of_lt_succ first
    rw [utf8ByteSize_ofList_cons, one, ih others, List.length_cons, Nat.add_comm]

namespace Destination

/-- The text of a destination is digits, dots and a colon. -/
lemma ascii_of_mem_chars {dest : Destination} {c : Char} (mem : c ∈ dest.chars) : c.toNat < 128 := by
  by_contra ascii
  have no : c.isDigit = false := by
    rw [Bool.eq_false_iff]
    intro dg
    have nine : c.toNat ≤ '9'.toNat := (Text.isDigit_iff.mp dg).2
    exact ascii (Nat.lt_of_le_of_lt nine (by decide))
  have dot : c ≠ '.' := by
    rintro rfl
    exact ascii (by decide)
  have colon : c ≠ ':' := by
    rintro rfl
    exact ascii (by decide)
  rw [chars, List.mem_append, List.mem_cons] at mem
  obtain address | rfl | port := mem
  · exact Ipv4.not_mem_chars no dot _ address
  · exact colon rfl
  · exact Text.not_mem_decimal no _ port

/-- Every character of the text is one byte. -/
lemma length_bytesOf_toText (dest : Destination) : (bytesOf dest.toText).length = dest.chars.length := by
  rw [length_bytesOf, toText, utf8ByteSize_ofList_of_ascii fun _ => ascii_of_mem_chars]

end Destination

lemma toNat_bigEndian (high low : UInt8) : (bigEndian high low).toNat = 256 * high.toNat + low.toNat := by
  have h := high.toNat_lt
  have l := low.toNat_lt
  rw [bigEndian, UInt16.toNat_ofNat']
  omega

namespace Redirection

open Destination

/-- A text with one colon, decimal octets in front of it and a decimal port behind it. -/
def ReadsAs (text : String) (octets : List Nat) (port : Nat) : Prop :=
  ∃ host portText, text.toList = host ++ ':' :: portText ∧ ':' ∉ host ∧ ':' ∉ portText ∧
    (Text.fields '.' host).mapM Text.digits? = some octets ∧ Text.digits? portText = some port

/-- A text that is short, and never refused as a preamble. -/
structure Sendable (text : String) : Prop where
  fault?_eq : Target.fault? text = none
  length_le : (bytesOf text).length ≤ 21
  fault_ne : ∀ (sink : Sink) (target : String) (fault : Target.Fault),
    (Preamble.send sink text).fault ≠ some (.target target fault)
  /-- A stream that refuses nothing takes it whole. -/
  accepted : ∀ sink : Sink, sink.Open →
    (Preamble.send sink text).fault = none ∧ (Preamble.send sink text).written.accepted = bytesOf text

/-- What comes of a record. -/
inductive Outcome (raw : Vector UInt8 16) : Except Failure Destination → Prop where
  | foreign :
    (raw.get 0).toNat + 256 * (raw.get 1).toNat ≠ 2 →
    Outcome raw (.error (.resolution (.wrongFamily ((raw.get 0).toNat + 256 * (raw.get 1).toNat))))
  | native {dest : Destination} :
    (raw.get 0).toNat + 256 * (raw.get 1).toNat = 2 →
    Sendable dest.toText →
    ReadsAs dest.toText [(raw.get 4).toNat, (raw.get 5).toNat, (raw.get 6).toNat, (raw.get 7).toNat]
      (256 * (raw.get 2).toNat + (raw.get 3).toNat) →
    Outcome raw (.ok dest)

/-- What a record conveys. -/
structure Conveys (raw : Vector UInt8 16) : Prop where
  outcome : Outcome raw (decode raw)
  /-- The preambles of two records are the same exactly if the records agree on port and address. -/
  same_iff : ∀ (other : Vector UInt8 16) (dest dest' : Destination),
    decode raw = .ok dest → decode other = .ok dest' →
    (bytesOf dest.toText = bytesOf dest'.toText ↔ ∀ i : Fin 16, 2 ≤ i.val → i.val < 8 → raw.get i = other.get i)

variable {raw other : Vector UInt8 16} {dest dest' : Destination}

lemma ReadsAs.unique {text : String} {octets octets' : List Nat} {port port' : Nat}
    (ra : ReadsAs text octets port) (ra' : ReadsAs text octets' port') : octets = octets' ∧ port = port' := by
  obtain ⟨host, portText, cut, -, plain, address, number⟩ := ra
  obtain ⟨host', portText', cut', -, plain', address', number'⟩ := ra'
  have split := Text.splitLast?_eq_some_iff.mpr ⟨cut, plain⟩
  rw [Text.splitLast?_eq_some_iff.mpr ⟨cut', plain'⟩, Option.some.injEq, Prod.mk.injEq] at split
  obtain ⟨rfl, rfl⟩ := split
  rw [address, Option.some.injEq] at address'
  rw [number, Option.some.injEq] at number'
  exact ⟨address', number'⟩

lemma readsAs_toText (dest : Destination) :
    ReadsAs dest.toText [dest.ip.a.toNat, dest.ip.b.toNat, dest.ip.c.toNat, dest.ip.d.toNat] dest.port.toNat := by
  refine ⟨dest.ip.chars, Text.decimal dest.port.toNat, String.toList_ofList, ?_, ?_, ?_, ?_⟩
  · exact Ipv4.not_mem_chars rfl (by decide) _
  · exact Text.not_mem_decimal rfl _
  · simp [Ipv4.fields_chars, Text.digits?_decimal]
  · exact Text.digits?_decimal _

lemma sendable_toText (dest : Destination) : Sendable dest.toText := by
  have valid := dest.fault?_toText
  exact {
    fault?_eq := valid
    length_le := by
      rw [dest.length_bytesOf_toText]
      exact dest.length_chars_le
    fault_ne := by
      intro sink target fault
      simp only [Preamble.send, valid, Sink.send]
      split
      case h_1 =>
        rintro ⟨⟩
      case h_2 =>
        cases (sink.writeAll (bytesOf dest.toText)).sink.flushFault <;> rintro ⟨⟩
    accepted := by
      intro sink op
      obtain ⟨ok, -⟩ := Preamble.send_of_open op valid
      exact ⟨ok, (Preamble.fault_send ok).1⟩ }

lemma ofRecord_eq (raw : Vector UInt8 16) :
    ofRecord raw =
      if (raw.get 0).toNat + 256 * (raw.get 1).toNat = 2 then
        .ok ⟨⟨raw.get 4, raw.get 5, raw.get 6, raw.get 7⟩, bigEndian (raw.get 2) (raw.get 3)⟩
      else .error ((raw.get 0).toNat + 256 * (raw.get 1).toNat) := rfl

lemma decode_of_foreign (ne : (raw.get 0).toNat + 256 * (raw.get 1).toNat ≠ 2) :
    decode raw = .error (.resolution (.wrongFamily ((raw.get 0).toNat + 256 * (raw.get 1).toNat))) := by
  rw [decode, ofRecord_eq, if_neg ne]

lemma decode_of_native (eq : (raw.get 0).toNat + 256 * (raw.get 1).toNat = 2) :
    decode raw = .ok ⟨⟨raw.get 4, raw.get 5, raw.get 6, raw.get 7⟩, bigEndian (raw.get 2) (raw.get 3)⟩ := by
  rw [decode, ofRecord_eq, if_pos eq]

lemma outcome (raw : Vector UInt8 16) : Outcome raw (decode raw) := by
  by_cases native : (raw.get 0).toNat + 256 * (raw.get 1).toNat = 2
  · rw [decode_of_native native]
    have read := readsAs_toText
      ⟨⟨raw.get 4, raw.get 5, raw.get 6, raw.get 7⟩, bigEndian (raw.get 2) (raw.get 3)⟩
    rw [toNat_bigEndian] at read
    exact .native native (sendable_toText _) read
  · rw [decode_of_foreign native]
    exact .foreign native

lemma readsAs_of_decode (ok : decode raw = .ok dest) :
    ReadsAs dest.toText [(raw.get 4).toNat, (raw.get 5).toNat, (raw.get 6).toNat, (raw.get 7).toNat]
      (256 * (raw.get 2).toNat + (raw.get 3).toNat) := by
  have out := outcome raw
  rw [ok] at out
  cases out with
  | native _ _ read => exact read

lemma eq_of_decode (ok : decode raw = .ok dest) :
    dest = ⟨⟨raw.get 4, raw.get 5, raw.get 6, raw.get 7⟩, bigEndian (raw.get 2) (raw.get 3)⟩ := by
  by_cases native : (raw.get 0).toNat + 256 * (raw.get 1).toNat = 2
  · rw [decode_of_native native] at ok
    cases ok
    rfl
  · rw [decode_of_foreign native] at ok
    cases ok

lemma agree_iff : (∀ i : Fin 16, 2 ≤ i.val → i.val < 8 → raw.get i = other.get i) ↔
    raw.get 2 = other.get 2 ∧ raw.get 3 = other.get 3 ∧ raw.get 4 = other.get 4 ∧ raw.get 5 = other.get 5 ∧
      raw.get 6 = other.get 6 ∧ raw.get 7 = other.get 7 := by
  constructor
  · intro agree
    exact ⟨agree 2 (by decide) (by decide), agree 3 (by decide) (by decide), agree 4 (by decide) (by decide),
      agree 5 (by decide) (by decide), agree 6 (by decide) (by decide), agree 7 (by decide) (by decide)⟩
  · rintro ⟨two, three, four, five, six, seven⟩ i ge lt
    have one_of : i = 2 ∨ i = 3 ∨ i = 4 ∨ i = 5 ∨ i = 6 ∨ i = 7 := by omega
    obtain rfl | rfl | rfl | rfl | rfl | rfl := one_of
    all_goals assumption

/-- A destination comes of a record alone that is long enough, and whatever else comes is a failure to resolve. -/
lemma resolve_spec (answer : Redirection) :
    (∃ length raw dest, answer = .filled length raw ∧ usefulBytes ≤ length ∧ decode raw = .ok dest ∧
      resolve answer = .ok dest) ∨
      ∃ fault, resolve answer = .error (.resolution fault) := by
  cases answer with
  | refused cause => exact .inr ⟨_, rfl⟩
  | filled length raw =>
    rw [resolve]
    split
    case isTrue => exact .inr ⟨_, rfl⟩
    case isFalse long =>
      have out := outcome raw
      cases decoded : decode raw with
      | ok dest => exact .inl ⟨length, raw, dest, rfl, Nat.le_of_not_lt long, decoded, rfl⟩
      | error failure =>
        rw [decoded] at out
        cases out with
        | foreign => exact .inr ⟨_, rfl⟩

/-- A record conveys its port and its address, or the family that it has instead. -/
theorem conveys (raw : Vector UInt8 16) : Conveys raw where
  outcome := outcome raw
  same_iff := by
    intro other dest dest' ok ok'
    rw [agree_iff]
    constructor
    · intro same
      have text := Text.ofUtf8?_eq_some_iff.mpr same
      rw [Text.ofUtf8?_eq_some_iff.mpr rfl, Option.some.injEq] at text
      -- What is read from the one text is read from the other.
      have read := readsAs_of_decode ok
      rw [text] at read
      obtain ⟨octets, port⟩ := read.unique (readsAs_of_decode ok')
      simp only [List.cons.injEq, and_true, UInt8.toNat_inj] at octets
      have low := (raw.get 3).toNat_lt
      have low' := (other.get 3).toNat_lt
      have two : raw.get 2 = other.get 2 := UInt8.toNat_inj.mp (by omega)
      have three : raw.get 3 = other.get 3 := UInt8.toNat_inj.mp (by omega)
      exact ⟨two, three, octets⟩
    · rintro ⟨two, three, four, five, six, seven⟩
      rw [eq_of_decode ok, eq_of_decode ok', two, three, four, five, six, seven]

/-- The port has its high byte first, the family its low one. -/
example : (decode #v[2, 0, 0x1F, 0x90, 10, 0, 0, 5, 1, 2, 3, 4, 5, 6, 7, 8]).map Destination.toText =
    .ok "10.0.0.5:8080" := by
  decide +kernel

end Redirection

end MeshProxy
