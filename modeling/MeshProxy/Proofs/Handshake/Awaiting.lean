import MeshProxy.Proofs.Handshake.Exchange

/-!
# Waiting for the rendezvous takes one byte at most

To wait for the rendezvous is to read one byte: a read that is interrupted is made again, and any other answer decides
(`Rendezvous.Awaiting`). So waiting passes over the interruptions in front and comes out as the first other arrival says
(`Rendezvous.Decides`), and of all the data in the stream at most one byte is gone afterwards, whatever the outcome
(`takes_one_byte_at_most`).
-/

namespace MeshProxy

namespace Source

variable {s rest : Source} {e : IoFault}

/-- A read that fails has met a fault, and takes nothing else. -/
lemma eq_of_read_fails {limit : Nat} (rd : s.read limit = (.fails e, rest)) : s = .fault e :: rest := by
  match s with
  | [] => cases rd
  | .finish :: s => cases rd
  | .fault e :: s =>
    cases rd
    rfl
  | .data bytes :: s =>
    rw [read] at rd
    split at rd <;> cases rd

/-- A read that gets nothing has met the end, or an arrival without data in it. -/
lemma eq_of_read_nil (rd : s.read 1 = (.bytes [], rest)) : s = .data [] :: rest ∨ ∃ later, s = .finish :: later := by
  match s with
  | [] => cases rd
  | .finish :: s => exact .inr ⟨s, rfl⟩
  | .fault e :: s => cases rd
  | .data [] :: s =>
    cases rd
    exact .inl rfl
  | .data (b :: more) :: s =>
    rw [read] at rd
    split at rd <;> cases rd

/-- A read of one byte that gets one has met data that begin with it. -/
lemma eq_of_read_byte {b : UInt8} (rd : s.read 1 = (.bytes [b], rest)) : ∃ more later, s = .data (b :: more) :: later := by
  match s with
  | [] => cases rd
  | .finish :: s => cases rd
  | .fault e :: s => cases rd
  | .data [] :: s => cases rd
  | .data (c :: more) :: s =>
    rw [read] at rd
    split at rd <;> cases rd <;> exact ⟨_, _, rfl⟩

end Source

namespace Rendezvous

/-- What a byte means that is read where the rendezvous should be. -/
def verdict (b : UInt8) : Awaited Unit := if b = byte then .arrived () else .failed (.wrongRendezvous b)

/-- The reads of one byte that waiting is made of, the byte that is taken if one is, and what comes of it. -/
inductive Awaiting : Source → Option UInt8 → Awaited Unit × Source → Prop where
  | waits {s rest : Source} :
    s.read 1 = (.waits, rest) →
    Awaiting s none (.waits, rest)
  | again {s rest : Source} {e : IoFault} {taken : Option UInt8} {outcome : Awaited Unit × Source} :
    s.read 1 = (.fails e, rest) →
    e.isInterruption = true →
    Awaiting rest taken outcome →
    Awaiting s taken outcome
  | failed {s rest : Source} {e : IoFault} :
    s.read 1 = (.fails e, rest) →
    e.isInterruption = false →
    Awaiting s none (.failed (.awaitRendezvous e), rest)
  | ended {s rest : Source} :
    s.read 1 = (.bytes [], rest) →
    Awaiting s none (.failed (.awaitRendezvous .earlyEnd), rest)
  | took {s rest : Source} {b : UInt8} :
    s.read 1 = (.bytes [b], rest) →
    Awaiting s (some b) (verdict b, rest)

/-- What a stream says that does not begin with an interruption: the byte that is taken, and the answer. -/
inductive Decides : Source → Option UInt8 → Awaited Unit → Prop where
  | waits : Decides [] none .waits
  | fault {e : IoFault} {later : Source} :
    Decides (.fault e :: later) none (.failed (.awaitRendezvous e))
  | finish {later : Source} :
    Decides (.finish :: later) none (.failed (.awaitRendezvous .earlyEnd))
  | empty {later : Source} :
    Decides (.data [] :: later) none (.failed (.awaitRendezvous .earlyEnd))
  | rendezvous {more : Bytes} {later : Source} :
    Decides (.data (byte :: more) :: later) (some byte) (.arrived ())
  | other {b : UInt8} {more : Bytes} {later : Source} :
    b ≠ byte →
    Decides (.data (b :: more) :: later) (some b) (.failed (.wrongRendezvous b))

variable {s : Source} {taken : Option UInt8} {outcome : Awaited Unit × Source}

/-- Waiting is made of reads of one byte. -/
lemma awaiting_await (s : Source) : ∃ taken, Awaiting s taken (await s) := by
  induction s using await.induct with
  | case1 => exact ⟨none, .waits rfl⟩
  | case2 => exact ⟨none, .ended rfl⟩
  | case3 e rest int ih =>
    obtain ⟨taken, aw⟩ := ih
    rw [await, if_pos int]
    exact ⟨taken, .again rfl int aw⟩
  | case4 e rest int =>
    rw [await, if_neg int]
    exact ⟨none, .failed rfl (Bool.eq_false_iff.mpr int)⟩
  | case5 => exact ⟨none, .ended rfl⟩
  | case6 more rest =>
    have arrived : Awaited.arrived () = verdict byte := by rw [verdict, if_pos rfl]
    rw [await, if_pos rfl, arrived]
    refine ⟨some byte, .took ?_⟩
    -- What is left of the arrival goes back to the stream, unless the byte was all of it.
    cases more <;> rfl
  | case7 b more rest ne =>
    have wrong : Awaited.failed (.wrongRendezvous b) = verdict b := by rw [verdict, if_neg ne]
    rw [await, if_neg ne, wrong]
    refine ⟨some b, .took ?_⟩
    cases more <;> rfl

/-- The data lose the byte that is taken and no other. -/
lemma Awaiting.payload (aw : Awaiting s taken outcome) : s.payload = taken.toList ++ outcome.2.payload := by
  induction aw with
  | waits rd =>
    obtain ⟨rfl, rfl⟩ := Source.nil_of_read rd
    rfl
  | again rd _ _ ih =>
    rw [Source.eq_of_read_fails rd]
    exact ih
  | failed rd =>
    rw [Source.eq_of_read_fails rd]
    rfl
  | ended rd => exact Source.payload_of_read rd
  | took rd => exact Source.payload_of_read rd

lemma decides_verdict (b : UInt8) (more : Bytes) (later : Source) :
    Decides (.data (b :: more) :: later) (some b) (verdict b) := by
  rw [verdict]
  split
  case isTrue eq =>
    rw [eq]
    exact .rendezvous
  case isFalse ne => exact .other ne

/-- The first arrival that is no interruption decides. -/
lemma Awaiting.decides (aw : Awaiting s taken outcome) :
    Decides (s.dropWhile Arrival.isInterruption) taken outcome.1 := by
  induction aw with
  | waits rd =>
    obtain ⟨rfl, -⟩ := Source.nil_of_read rd
    exact .waits
  | @again s rest e _ _ rd int _ ih =>
    -- The arrival that was read is one of those passed over.
    have int : (Arrival.fault e).isInterruption = true := int
    rw [Source.eq_of_read_fails rd, List.dropWhile_cons_of_pos int]
    exact ih
  | @failed s rest e rd int =>
    have no : ¬ (Arrival.fault e).isInterruption = true := Bool.eq_false_iff.mp int
    rw [Source.eq_of_read_fails rd, List.dropWhile_cons_of_neg no]
    exact .fault
  | ended rd =>
    rcases Source.eq_of_read_nil rd with rfl | ⟨later, rfl⟩
    · exact .empty
    · exact .finish
  | took rd =>
    obtain ⟨more, later, rfl⟩ := Source.eq_of_read_byte rd
    exact decides_verdict _ more later

lemma Decides.arrived_iff {answer : Awaited Unit} (dc : Decides s taken answer) :
    answer = .arrived () ↔ taken = some byte := by
  cases dc with
  | rendezvous => exact iff_of_true rfl rfl
  | other ne =>
    apply iff_of_false
    · nofun
    · intro eq
      exact ne (Option.some.inj eq)
  | waits => exact iff_of_false nofun nofun
  | fault => exact iff_of_false nofun nofun
  | finish => exact iff_of_false nofun nofun
  | empty => exact iff_of_false nofun nofun

/-- How waiting for the rendezvous comes out on a stream. -/
structure Waited (s : Source) (taken : Option UInt8) (outcome : Awaited Unit × Source) : Prop where
  reads : Awaiting s taken outcome
  /-- Interruptions in front are passed over. -/
  decides : Decides (s.dropWhile Arrival.isInterruption) taken outcome.1
  arrived : outcome.1 = .arrived () ↔ taken = some byte
  /-- All other data are left, in order. -/
  unread : s.payload = taken.toList ++ outcome.2.payload

/-- Whatever a stream holds, waiting for the rendezvous takes one byte of it or none. -/
theorem takes_one_byte_at_most (s : Source) : ∃ taken, Waited s taken (await s) := by
  obtain ⟨taken, aw⟩ := awaiting_await s
  exact ⟨taken, aw, aw.decides, aw.decides.arrived_iff, aw.payload⟩

/-- Behind two interruptions the rendezvous is taken, and what stands right behind it stays. -/
example : await [.fault (.plain .interrupted), .fault (.system 4), .data [0x59, 0x59, 0x4E]] =
    (.arrived (), [.data [0x59, 0x4E]]) := by decide

end Rendezvous

end MeshProxy
