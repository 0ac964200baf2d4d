import MeshProxy.Proofs.Handshake.Exchange

/-!
# Sending and reading a preamble undo each other

The reader of a preamble reads once. So its answer hangs on the first arrival alone, of which it takes a front of at most
256 bytes, and everything else stays in the stream (`Preamble.read_cons`). What the answer is, what it would be sent as
again, and what is left are the parts of `Preamble.ReadOnce`. `Preamble.round_trip` proves them of every arrival, and of
every target that it is read as it was sent.
-/

namespace MeshProxy

namespace Arrival

/-- What one read of a preamble takes of an arrival. -/
def front : Arrival → Bytes
  | .data bytes => bytes.take Target.maxBytes
  | .finish => []
  | .fault _ => []

/-- What one read of a preamble puts back of an arrival. -/
def behind : Arrival → Source
  | .data bytes => if bytes.length ≤ Target.maxBytes then [] else [.data (bytes.drop Target.maxBytes)]
  | .finish => [.finish]
  | .fault _ => []

lemma payload_front_behind (first : Arrival) (later : Source) :
    Source.payload (first :: later) = first.front ++ Source.payload (first.behind ++ later) := by
  cases first with
  | finish => rfl
  | fault e => rfl
  | data bytes =>
    rw [front, behind, Source.payload]
    split
    case isTrue le => rw [List.take_of_length_le le, List.nil_append]
    case isFalse =>
      rw [List.singleton_append, Source.payload, ← List.append_assoc, List.take_append_drop]

end Arrival

namespace Preamble

/-- What the reader answers to the bytes that it takes. -/
def answerOf (chunk : Bytes) : Awaited String :=
  match ofChunk chunk with
  | .error fault => .failed fault
  | .ok target => .arrived target

/-- What the reader answers to a first arrival. -/
def answerTo : Arrival → Awaited String
  | .data bytes => answerOf (bytes.take Target.maxBytes)
  | .finish => answerOf []
  | .fault e => .failed (.readPreamble e)

/-- How one read of a preamble comes out that meets `first` with `later` behind it. -/
structure ReadOnce (first : Arrival) (later : Source) (outcome : Awaited String × Source) : Prop where
  /-- It gives a target exactly if the target's bytes are what it takes. -/
  arrived : ∀ target, outcome.1 = .arrived target ↔
    first.front = bytesOf target ∧ Target.fault? target = none
  /-- Otherwise it fails; it does not wait for more. -/
  decided : outcome.1 ≠ .waits
  /-- Sent again, the target is the bytes that were taken. -/
  resent : ∀ target, outcome.1 = .arrived target → ∀ sink : Sink, sink.Fits (bytesOf target) →
    (send sink target).written.accepted = first.front
  /-- All data behind what was taken are left. -/
  unread : Source.payload (first :: later) = first.front ++ outcome.2.payload
  rest : outcome.2 = first.behind ++ later
  /-- A read that fails is not tried again, even if it was interrupted. -/
  faulty : ∀ e, first = .fault e → outcome = (.failed (.readPreamble e), later)
  /-- What comes later makes no difference to the answer. -/
  alone : ∀ other, (read (first :: other)).1 = outcome.1

lemma ofChunk_eq_ok_iff {chunk : Bytes} {target : String} :
    ofChunk chunk = .ok target ↔ chunk = bytesOf target ∧ Target.fault? target = none := by
  constructor
  · intro ok
    exact ofChunk_eq_ok ok
  · intro ⟨eq, valid⟩
    have ne : chunk ≠ [] := by
      rw [eq]
      exact (Target.length_of_valid valid).2
    exact ofChunk_of_text ne (Text.ofUtf8?_eq_some_iff.mpr eq) valid

lemma answerOf_eq_arrived_iff {chunk : Bytes} {target : String} :
    answerOf chunk = .arrived target ↔ chunk = bytesOf target ∧ Target.fault? target = none := by
  rw [← ofChunk_eq_ok_iff, answerOf]
  cases ofChunk chunk <;> simp

lemma answerOf_ne_waits (chunk : Bytes) : answerOf chunk ≠ .waits := by
  rw [answerOf]
  cases ofChunk chunk <;> nofun

lemma answerTo_eq_arrived_iff {first : Arrival} {target : String} :
    answerTo first = .arrived target ↔ first.front = bytesOf target ∧ Target.fault? target = none := by
  cases first with
  | data bytes =>
    rw [answerTo, answerOf_eq_arrived_iff]
    rfl
  | finish =>
    rw [answerTo, answerOf_eq_arrived_iff]
    rfl
  | fault e =>
    -- Nothing is taken of it, and no target has no bytes.
    constructor
    · nofun
    · intro ⟨nil, valid⟩
      exact absurd nil.symm (Target.length_of_valid valid).2

lemma answerTo_ne_waits (first : Arrival) : answerTo first ≠ .waits := by
  cases first with
  | data bytes => exact answerOf_ne_waits (bytes.take Target.maxBytes)
  | finish => exact answerOf_ne_waits []
  | fault e => nofun

/-- One read answers to the first arrival, and puts back what it does not take. -/
lemma read_cons (first : Arrival) (later : Source) :
    read (first :: later) = (answerTo first, first.behind ++ later) := by
  cases first with
  | finish => rfl
  | fault e => rfl
  | data bytes =>
    -- What does not fit into one read goes back in front of the stream.
    by_cases le : bytes.length ≤ Target.maxBytes
    · simp only [read, Source.read, answerTo, answerOf, Arrival.behind, if_pos le, List.take_of_length_le le]
      cases ofChunk bytes <;> rfl
    · simp only [read, Source.read, answerTo, answerOf, Arrival.behind, if_neg le]
      cases ofChunk (bytes.take Target.maxBytes) <;> rfl

lemma accepted_send_of_fits {target : String} (valid : Target.fault? target = none) {sink : Sink}
    (fits : sink.Fits (bytesOf target)) : (send sink target).written.accepted = bytesOf target := by
  simp only [send, valid]
  rw [Sink.accepted_send, fits.take_eq]

lemma readOnce (first : Arrival) (later : Source) : ReadOnce first later (read (first :: later)) where
  arrived target := by
    rw [read_cons]
    exact answerTo_eq_arrived_iff
  decided := by
    rw [read_cons]
    exact answerTo_ne_waits first
  resent target eq sink fits := by
    rw [read_cons] at eq
    obtain ⟨front, valid⟩ := answerTo_eq_arrived_iff.mp eq
    rw [accepted_send_of_fits valid fits, front]
  unread := by
    rw [read_cons]
    exact first.payload_front_behind later
  rest := by rw [read_cons]
  faulty e eq := by
    rw [eq]
    rfl
  alone other := by rw [read_cons, read_cons]

/-- A target is read as it was sent, and what is read is sent again as the bytes that were taken for it. -/
theorem round_trip :
    (∀ (target : String) (sink : Sink) (later : Source), Target.fault? target = none →
      sink.Fits (bytesOf target) →
      read (.data (send sink target).written.accepted :: later) = (.arrived target, later)) ∧
    ∀ (first : Arrival) (later : Source), ReadOnce first later (read (first :: later)) := by
  constructor
  · intro target sink later valid fits
    rw [accepted_send_of_fits valid fits]
    exact read_of_valid valid later
  · exact readOnce

/-- A writer that takes four bytes at a time sends this target whole; read in one chunk with other data behind it, the
target and the data come apart. -/
theorem round_trip_in_pieces :
    (send { limit := some 4 } "10.0.0.5:8080").written.pieces.length = 4 ∧
      read [.data (send { limit := some 4 } "10.0.0.5:8080").written.accepted, .data [0x59]] =
        (.arrived "10.0.0.5:8080", [.data [0x59]]) :=
  ⟨by decide +kernel, round_trip.1 "10.0.0.5:8080" { limit := some 4 } [.data [0x59]] (by decide) (by decide)⟩

end Preamble

end MeshProxy
