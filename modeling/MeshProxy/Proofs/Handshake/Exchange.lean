import MeshProxy.Handshake.Preamble
import MeshProxy.Handshake.Rendezvous
import MeshProxy.Proofs.Stream.Sink
import MeshProxy.Proofs.Stream.Source

/-!
# What a handshake takes and leaves

Of what a handshake step sends, the peer accepts a part from the front, and all of it if the step succeeds
(`fault_send`). Waiting for the rendezvous looks at the arrivals until one is no interruption: if they do not decide, it
starts afresh with what comes later (`await_append_of_waits`), and once they have decided, what comes later is left
behind (`await_append_of_ne`). The rendezvous itself is the first byte of the data and is all that is taken of them
(`payload_of_await`).
-/

namespace MeshProxy

/-- A step of a handshake accepts what the peer has room for. -/
lemma Sink.accepted_send (sink : Sink) (bytes : Bytes) (onWrite onFlush : IoFault → HandshakeFault) :
    (sink.send bytes onWrite onFlush).written.accepted = sink.take bytes := by
  simp only [Sink.send]
  split <;> exact sink.accepted_writeAll bytes

/-- A step of a handshake that succeeds has written everything and flushed it once. -/
lemma Sink.fault_send {sink : Sink} {bytes : Bytes} {onWrite onFlush : IoFault → HandshakeFault}
    (ok : (sink.send bytes onWrite onFlush).fault = none) :
    (sink.send bytes onWrite onFlush).written.accepted = bytes ∧
      (sink.send bytes onWrite onFlush).flushes = 1 := by
  rw [accepted_send]
  simp only [Sink.send] at ok ⊢
  split at ok
  case h_1 => cases ok
  case h_2 ref => simp [(refusal_writeAll.mp ref).take_eq]

/-- A stream that refuses nothing lets a handshake step succeed, and stays so. -/
lemma Sink.send_of_open {sink : Sink} (op : sink.Open) (bytes : Bytes)
    (onWrite onFlush : IoFault → HandshakeFault) :
    (sink.send bytes onWrite onFlush).fault = none ∧
      (sink.send bytes onWrite onFlush).written.sink.Open := by
  have ref : (sink.writeAll bytes).refusal = none := by
    apply refusal_writeAll.mpr
    intro n room
    rw [op.room] at room
    cases room
  have rm : (sink.writeAll bytes).sink.room = none := by rw [room_writeAll, op.room, Option.map_none]
  have ff : (sink.writeAll bytes).sink.flushFault = none := by rw [flushFault_writeAll, op.flush]
  simp only [Sink.send, ref, ff, Option.map_none]
  exact ⟨trivial, rm, ff⟩

/-- A target is at most as long as one read takes, and it is not empty. -/
lemma Target.length_of_valid {target : String} (valid : Target.fault? target = none) :
    (bytesOf target).length ≤ Target.maxBytes ∧ bytesOf target ≠ [] := by
  constructor
  · rw [length_bytesOf]
    by_contra lt
    rw [Target.fault?, if_pos (Nat.lt_of_not_le lt)] at valid
    cases valid
  · -- The empty text is not a target, and no other text has no bytes.
    intro nil
    have size : target.utf8ByteSize = 0 := by rw [← length_bytesOf, nil, List.length_nil]
    rw [String.utf8ByteSize_eq_zero_iff.mp size] at valid
    exact absurd valid (by decide)

namespace Preamble

lemma ofChunk_of_text {chunk : Bytes} {text : String} (ne : chunk ≠ [])
    (utf8 : Text.ofUtf8? chunk = some text) (valid : Target.fault? text = none) :
    ofChunk chunk = .ok text := by
  simp only [ofChunk, if_neg ne, utf8, valid]

/-- A chunk that is read as a target is its bytes. -/
lemma ofChunk_eq_ok {chunk : Bytes} {text : String} (ok : ofChunk chunk = .ok text) :
    chunk = bytesOf text ∧ Target.fault? text = none := by
  simp only [ofChunk] at ok
  split at ok
  · cases ok
  · split at ok
    · cases ok
    case h_2 utf8 =>
      split at ok
      · cases ok
      case h_2 valid =>
        cases ok
        exact ⟨Text.ofUtf8?_eq_some_iff.mp utf8, valid⟩

/-- A target that arrives in one chunk is read as it was sent. -/
lemma read_of_valid {target : String} (valid : Target.fault? target = none) (rest : Source) :
    read (.data (bytesOf target) :: rest) = (.arrived target, rest) := by
  obtain ⟨le, ne⟩ := Target.length_of_valid valid
  have chunk := ofChunk_of_text ne (Text.ofUtf8?_eq_some_iff.mpr rfl) valid
  simp [read, Source.read, le, chunk]

/-- The preamble is in the first read, whatever the source grows by. -/
lemma read_append {source : Source} (ne : source ≠ []) (more : Source) :
    read (source ++ more) = ((read source).1, (read source).2 ++ more) := by
  simp only [read, Source.read_append ne]
  cases source.read Target.maxBytes with
  | mk answer rest =>
    cases answer with
    | waits => rfl
    | fails e => rfl
    | bytes chunk => cases ok : ofChunk chunk <;> simp [ok]

/-- A stream that refuses nothing takes the preamble of a target. -/
lemma send_of_open {sink : Sink} (op : sink.Open) {target : String}
    (valid : Target.fault? target = none) :
    (send sink target).fault = none ∧ (send sink target).written.sink.Open := by
  simp only [send, valid]
  exact Sink.send_of_open op _ _ _

/-- Of the preamble, a part from the front is sent. -/
lemma accepted_send (sink : Sink) (target : String) :
    (send sink target).written.accepted <+: bytesOf target := by
  simp only [send]
  split
  · exact List.nil_prefix
  · rw [Sink.accepted_send]
    exact sink.take_prefix _

/-- A preamble that is sent well is sent whole and flushed once. -/
lemma fault_send {sink : Sink} {target : String} (ok : (send sink target).fault = none) :
    (send sink target).written.accepted = bytesOf target ∧ (send sink target).flushes = 1 := by
  simp only [send] at ok ⊢
  split at ok
  case h_1 => cases ok
  case h_2 e => simpa [e] using Sink.fault_send ok

end Preamble

namespace Rendezvous

/-- Of the rendezvous, nothing or all is sent. -/
lemma accepted_send (sink : Sink) : (send sink).written.accepted <+: [byte] := by
  rw [send, Sink.accepted_send]
  exact sink.take_prefix _

/-- A stream that refuses nothing takes the rendezvous. -/
lemma send_of_open {sink : Sink} (op : sink.Open) :
    (send sink).fault = none ∧ (send sink).written.sink.Open :=
  Sink.send_of_open op _ _ _

/-- A rendezvous that is sent well is written and flushed once. -/
lemma fault_send {sink : Sink} (ok : (send sink).fault = none) :
    (send sink).written.accepted = [byte] ∧ (send sink).flushes = 1 :=
  Sink.fault_send ok

/-- What is wrong with an arrival that should be the rendezvous and is no interruption. -/
def objection : Arrival → Option HandshakeFault
  | .data [] => some (.awaitRendezvous .earlyEnd)
  | .data (b :: _) => if b = byte then none else some (.wrongRendezvous b)
  | .finish => some (.awaitRendezvous .earlyEnd)
  | .fault e => some (.awaitRendezvous e)

/-- Interruptions in front make no difference to waiting. -/
lemma await_interrupted {passed : Source} (int : ∀ a ∈ passed, a.isInterruption = true)
    (s : Source) : await (passed ++ s) = await s := by
  induction passed with
  | nil => rfl
  | cons a passed ih =>
    obtain ⟨int, ints⟩ := List.forall_mem_cons.mp int
    cases a with
    | fault e =>
      have int : e.isInterruption = true := int
      rw [List.cons_append, await, if_pos int]
      exact ih ints
    | data bytes => cases int
    | finish => cases int

/-- The first arrival that is no interruption decides, and what is wrong with it is the fault. -/
lemma await_of_objection {passed rest : Source} {a : Arrival} {fault : HandshakeFault}
    (int : ∀ a ∈ passed, a.isInterruption = true) (deciding : a.isInterruption = false)
    (obj : objection a = some fault) : (await (passed ++ a :: rest)).1 = .failed fault := by
  rw [await_interrupted int]
  match a with
  | .data [] =>
    cases obj
    rfl
  | .data (b :: more) =>
    simp only [objection] at obj
    split at obj
    case isTrue => cases obj
    case isFalse ne =>
      cases obj
      simp [await, ne]
  | .finish =>
    cases obj
    rfl
  | .fault e =>
    cases obj
    have int : e.isInterruption = false := deciding
    simp [await, int]

/-- Waiting that is undecided has read everything, and starts afresh with what comes later. -/
lemma await_append_of_waits {s : Source} (wt : (await s).1 = .waits) (t : Source) :
    (await s).2 = [] ∧ await (s ++ t) = await t := by
  induction s using await.induct with
  | case1 => exact ⟨rfl, rfl⟩
  | case2 => cases wt
  | case3 e rest int ih =>
    rw [await, if_pos int] at wt ⊢
    rw [List.cons_append, await, if_pos int]
    exact ih wt
  | case4 e rest int => simp [await, int] at wt
  | case5 => cases wt
  | case6 more rest => simp [await] at wt
  | case7 b more rest ne =>
    simp [await, ne] at wt

/-- Waiting that has decided leaves behind what comes later. -/
lemma await_append_of_ne {s : Source} (ne : (await s).1 ≠ .waits) (t : Source) :
    await (s ++ t) = ((await s).1, (await s).2 ++ t) := by
  induction s using await.induct with
  | case1 => exact absurd rfl ne
  | case2 => rfl
  | case3 e rest int ih =>
    rw [await, if_pos int] at ne ⊢
    rw [List.cons_append, await, if_pos int]
    exact ih ne
  | case4 e rest int => simp [await, int]
  | case5 => rfl
  | case6 more rest =>
    -- What is left of the chunk goes back to the front, unless nothing is left.
    simp only [List.cons_append, await]
    split <;> split <;> simp
  | case7 b more rest ne =>
    simp only [List.cons_append, await]
    split <;> split <;> simp

/-- The rendezvous is the first byte of the data, and no other byte is taken. -/
lemma payload_of_await {s rest : Source} (aw : await s = (.arrived (), rest)) :
    s.payload = byte :: rest.payload := by
  induction s using await.induct with
  | case1 => cases aw
  | case2 => cases aw
  | case3 e s int ih =>
    rw [await, if_pos int] at aw
    exact ih aw
  | case4 e s int => simp [await, int] at aw
  | case5 => cases aw
  | case6 more s =>
    simp only [await, if_true, Prod.mk.injEq, true_and] at aw
    subst aw
    split <;> simp_all
  | case7 b more s ne => simp [await, ne] at aw

end Rendezvous

end MeshProxy
