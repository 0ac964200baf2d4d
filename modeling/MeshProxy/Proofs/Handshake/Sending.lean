import Mathlib
import MeshProxy.Proofs.Handshake.Exchange
import MeshProxy.Proofs.Stream.Writing

/-!
# Handshake writes under any writer

A stream may take few bytes at a time, interrupt a write, refuse all writes from some byte on (`Sink.Strikes`), and fail
to flush. `Sent.Lawful` says how sending some bytes comes out on such a stream: what was taken, in which pieces, whether
it was flushed, and what the fault is. Both things that a handshake sends are sent like this, and a text that is no target
is not sent at all (`handshake_writes`).
-/

namespace MeshProxy

namespace Sink

/-- From the `n`-th byte on, every write is refused. -/
inductive Strikes (sink : Sink) : Nat → Refusal → Prop where
  | fails {n : Nat} {e : IoFault} :
    sink.fault = some (n, .fails e) →
    Strikes sink n (.fault e)
  | takesNothing {n : Nat} :
    sink.fault = some (n, .takesNothing) →
    Strikes sink n .tookNothing

end Sink

/-- How sending some bytes to a stream comes out. -/
structure Sent.Lawful (sink : Sink) (bytes : Bytes) (onWrite onFlush : IoFault → HandshakeFault)
    (sent : Sent) : Prop where
  /-- What is written is what the loop of single writes ends with, and that is nothing else. -/
  writing : ∀ w, sink.Writing bytes w ↔ w = sent.written
  part : sent.written.accepted <+: bytes
  pieces : ∀ piece ∈ sent.written.pieces,
    piece ≠ [] ∧ ∀ size, sink.limit = some size → piece.length ≤ size
  sum : (sent.written.pieces.map List.length).sum = sent.written.accepted.length
  /-- A stream that refuses one of the bytes has taken those in front of it, and is not flushed. -/
  stopped : ∀ n refusal, sink.Strikes n refusal → n < bytes.length →
    sent.written.accepted = bytes.take n ∧ sent.flushes = 0 ∧ sent.fault = some (onWrite refusal.cause)
  /-- Any other takes every byte once and is flushed once, so only the flush can fail. -/
  whole : (∀ n refusal, sink.Strikes n refusal → bytes.length ≤ n) →
    sent.written.accepted = bytes ∧ sent.flushes = 1 ∧ sent.fault = sink.flushFault.map onFlush ∧
      (sent.fault = none ↔ sink.flushFault = none)

namespace Sink

variable {sink : Sink} {bytes : Bytes} {onWrite onFlush : IoFault → HandshakeFault} {n : Nat}
  {refusal : Refusal}

lemma Strikes.room (st : sink.Strikes n refusal) (pos : sink.limit ≠ some 0) : sink.room = some n := by
  cases st with
  | fails due => simp [Sink.room, pos, due]
  | takesNothing due => simp [Sink.room, pos, due]

lemma Strikes.refusal?_eq (st : sink.Strikes n refusal) (pos : sink.limit ≠ some 0) :
    sink.refusal? = some refusal := by
  cases st with
  | fails due => simp [refusal?, pos, due]
  | takesNothing due => simp [refusal?, pos, due]

lemma exists_strikes (pos : sink.limit ≠ some 0) (room : sink.room = some n) :
    ∃ refusal, sink.Strikes n refusal := by
  rw [Sink.room, if_neg pos] at room
  split at room
  case h_1 due =>
    cases room
    exact ⟨_, .fails due⟩
  case h_2 due =>
    cases room
    exact ⟨_, .takesNothing due⟩
  case h_3 => cases room

/-- Writing that is refused is the end of sending. -/
lemma send_of_refusal (ref : (sink.writeAll bytes).refusal = some refusal) :
    sink.send bytes onWrite onFlush = ⟨sink.writeAll bytes, 0, some (onWrite refusal.cause)⟩ := by
  simp only [send, ref]

/-- Writing that is not refused is flushed. -/
lemma send_of_fits (fits : sink.Fits bytes) :
    sink.send bytes onWrite onFlush = ⟨sink.writeAll bytes, 1, sink.flushFault.map onFlush⟩ := by
  simp only [send, refusal_writeAll.mpr fits, flushFault_writeAll]

lemma written_send (sink : Sink) (bytes : Bytes) (onWrite onFlush : IoFault → HandshakeFault) :
    (sink.send bytes onWrite onFlush).written = sink.writeAll bytes := by
  rw [send]
  split <;> rfl

lemma Regular.lawful_send (rg : sink.Regular) (bytes : Bytes) (onWrite onFlush : IoFault → HandshakeFault) :
    (sink.send bytes onWrite onFlush).Lawful sink bytes onWrite onFlush where
  writing w := by
    rw [written_send]
    exact rg.writing_iff
  part := by
    rw [accepted_send]
    exact sink.take_prefix bytes
  pieces := by
    rw [written_send]
    exact (rg.writing_writeAll bytes).pieces
  sum := by rw [Written.accepted, List.length_flatten]
  stopped := by
    intro n refusal st lt
    -- There is less room than bytes, so the writing is refused, and that is the end of it.
    have nf : ¬ sink.Fits bytes := by
      intro fits
      exact Nat.not_le.mpr lt (fits n (st.room rg.limit))
    have ref := refusal_writeAll_of_not_fits nf
    rw [st.refusal?_eq rg.limit] at ref
    rw [send_of_refusal ref, accepted_writeAll, Sink.take, st.room rg.limit]
    exact ⟨rfl, rfl, rfl⟩
  whole := by
    intro late
    -- An interruption leaves the room as it is, so only a refusal could be in the way.
    have fits : sink.Fits bytes := by
      intro n room
      obtain ⟨refusal, st⟩ := exists_strikes rg.limit room
      exact late n refusal st
    rw [send_of_fits fits, accepted_writeAll]
    exact ⟨fits.take_eq, rfl, rfl, Option.map_eq_none_iff⟩

end Sink

/-- Whatever a stream does to what is written to it, a text that is no target is not sent, and a target is sent as the
rendezvous is. -/
theorem handshake_writes {sink : Sink} (rg : sink.Regular) :
    (∀ target fault, Target.fault? target = some fault →
      Preamble.send sink target = ⟨⟨[], sink, none⟩, 0, some (.target target fault)⟩) ∧
    (∀ target, Target.fault? target = none →
      (Preamble.send sink target).Lawful sink (bytesOf target) .sendPreamble .flushPreamble) ∧
    (Rendezvous.send sink).Lawful sink [Rendezvous.byte] .sendRendezvous .flushRendezvous := by
  refine ⟨?_, ?_, ?_⟩
  · intro target fault bad
    rw [Preamble.send, bad]
  · intro target valid
    rw [Preamble.send, valid]
    exact rg.lawful_send _ _ _
  · exact rg.lawful_send _ _ _

/-- A stream that takes four bytes at a time, interrupts the write behind the sixth, and cannot be flushed. -/
def hesitant : Sink where
  limit := some 4
  fault := some (6, .interrupts)
  flushFault := some (.plain .brokenPipe)

/-- It takes a target whole, each byte once, and the flush is what fails. -/
theorem handshake_writes_interrupted :
    hesitant.Regular ∧
      (Preamble.send hesitant "10.0.0.5:8080").written.pieces.map List.length = [4, 2, 4, 3] ∧
      (Preamble.send hesitant "10.0.0.5:8080").Lawful hesitant (bytesOf "10.0.0.5:8080") .sendPreamble
        .flushPreamble ∧
      (Preamble.send hesitant "10.0.0.5:8080").fault = some (.flushPreamble (.plain .brokenPipe)) := by
  have rg : hesitant.Regular := ⟨by decide, by rintro n e ⟨⟩⟩
  have lawful := (handshake_writes rg).2.1 "10.0.0.5:8080" (by decide)
  obtain ⟨-, -, fault, -⟩ := lawful.whole (by rintro n refusal (⟨⟨⟩⟩ | ⟨⟨⟩⟩))
  exact ⟨rg, by decide +kernel, lawful, fault⟩

end MeshProxy
