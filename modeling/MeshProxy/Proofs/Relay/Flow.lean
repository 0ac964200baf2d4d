import MeshProxy.Proofs.Stream.Sink
import MeshProxy.Proofs.Stream.Source
import MeshProxy.Relay.Flow

/-!
# What a turn of a flow does

A flow that runs over its arrivals either waits for more, or ends in one of three ways: an arrival stops it, a
flush fails when there is nothing more to read, or its writer refuses bytes. `Flow.Outcome` says for each of the four
what was delivered, and `Flow.outcome_run` that one of them holds of every turn. The buffers in which the bytes
travel do not show: `pour_spec` describes pouring them as one write of all their bytes.
-/

namespace MeshProxy

/-- How a flow ends at an arrival that stops it: with the fault that arrived, or else as its last flush goes. -/
def Arrival.verdict (flushFault : Option IoFault) : Arrival → Except IoFault Unit
  | .fault e => .error e
  | _ =>
    match flushFault with
    | some e => .error e
    | none => .ok ()

namespace Flow

/-- Pouring does what one write of all bytes does: it accepts what there is room for, it is refused exactly when
there is no room for all, and it leaves the flushing as it was. -/
lemma pour_spec (sink : Sink) (buffers : List Bytes) :
    (pour sink buffers).accepted = sink.take buffers.flatten ∧
      ((pour sink buffers).refused = none ↔ sink.Fits buffers.flatten) ∧
      (pour sink buffers).sink.room =
        sink.room.map (· - (sink.take buffers.flatten).length) ∧
      (pour sink buffers).sink.flushFault = sink.flushFault := by
  induction buffers generalizing sink with
  | nil => cases e : sink.room <;> simp [pour, Sink.take, Sink.Fits, e]
  | cons buffer more ih =>
    have rm := Sink.room_writeAll sink buffer
    simp only [pour, List.flatten_cons]
    split
    -- The first buffer that does not fit ends the pouring, and those behind it make no difference.
    case h_1 refusal ref =>
      have nf : ¬ sink.Fits buffer := by simp [← Sink.refusal_writeAll, ref]
      rw [Sink.take_append_of_not_fits nf]
      refine ⟨Sink.accepted_writeAll sink buffer, ?_, rm, Sink.flushFault_writeAll sink buffer⟩
      simp [Sink.not_fits_append nf]
    -- A buffer that fits leaves to the others the room that it does not use.
    case h_2 ref =>
      have fits := Sink.refusal_writeAll.mp ref
      rw [fits.take_eq] at rm
      obtain ⟨acc, rfd, room, fl⟩ := ih (sink.writeAll buffer).sink
      rw [fits.take_append rm]
      refine ⟨?_, ?_, ?_, ?_⟩
      · rw [Sink.accepted_writeAll, fits.take_eq, acc]
      · rw [fits.append_iff rm, ← rfd]
      · rw [room, rm]
        cases sink.room <;> simp [Nat.sub_sub]
      · rw [fl, Sink.flushFault_writeAll]

/-- The outcomes of a turn of a flow over `source` towards `sink`. -/
inductive Outcome (sink : Sink) (flow : Flow) (source : Source) (t : Turn) : Prop where
  /-- Everything is delivered and flushed, and the flow waits. -/
  | waits :
    source.Passes →
    sink.Fits source.payload →
    t.delivered = source.payload →
    t.unread = [] →
    t.flow.unflushed = false →
    t.ending = none →
    Outcome sink flow source t
  /-- Everything is delivered, but something of it cannot be flushed. -/
  | unflushed {e} :
    source.Passes →
    flow.unflushed = true ∨ source.payload ≠ [] →
    sink.flushFault = some e →
    t.delivered = source.payload →
    t.ending = some (.error e) →
    Outcome sink flow source t
  /-- An arrival stops the reader, and what came before it is delivered. -/
  | stopped {before rest : Source} {stop : Arrival} :
    source = before ++ stop :: rest →
    before.Passes →
    stop.stops = true →
    t.delivered = before.payload →
    t.ending = some (stop.verdict sink.flushFault) →
    Outcome sink flow source t
  /-- The writer refuses, and has taken all it had room for. -/
  | refused {n e} :
    sink.room = some n →
    n < source.ahead.length →
    t.delivered = source.ahead.take n →
    t.ending = some (.error e) →
    Outcome sink flow source t

/-- The end of the stream stops a flow as its last flush goes. -/
lemma ending_finish (sink : Sink) (flow : Flow) (unread : Source) :
    (finish sink flow unread).delivered = [] ∧
      (finish sink flow unread).ending = some (Arrival.finish.verdict sink.flushFault) := by
  cases e : sink.flushFault <;> simp [finish, Arrival.verdict, e]

/-- With nothing to read, a flow waits unless a flush is due that fails. -/
lemma outcome_rest (sink : Sink) (flow : Flow) : Outcome sink flow [] (rest sink flow) := by
  cases u : flow.unflushed with
  | false =>
    simp only [rest, u, Bool.false_eq_true, if_false]
    exact .waits Source.passes_nil sink.fits_nil rfl rfl u rfl
  | true =>
    cases e : sink.flushFault with
    | none =>
      simp only [rest, u, e, if_true]
      exact .waits Source.passes_nil sink.fits_nil rfl rfl rfl rfl
    | some e' =>
      simp only [rest, u, e, if_true]
      exact .unflushed Source.passes_nil (.inl u) e rfl rfl

/-- An interruption in front of the arrivals makes no difference. -/
lemma Outcome.interrupted {sink flow source t} {e : IoFault} (oc : Outcome sink flow source t)
    (int : e.isInterruption = true) : Outcome sink flow (.fault e :: source) t := by
  have ps := Source.stops_interruption int
  cases oc with
  | waits pss fits del un fl en => exact .waits (by simp [ps, pss]) fits del un fl en
  | unflushed pss dirty ff del en => exact .unflushed (by simp [ps, pss]) dirty ff del en
  | @stopped before rest stop eq pss st del en =>
    exact .stopped (congrArg _ eq) (Source.passes_cons.mpr ⟨ps, pss⟩) st del en
  | refused room lt del en =>
    have ah := Source.ahead_cons_interruption int source
    exact .refused room (by rwa [ah]) (by rwa [ah]) en

/-- Data that there is room for are delivered in front of what the rest of the turn delivers. -/
lemma Outcome.after_data {sink later : Sink} {flow flow' source t} {bytes : Bytes}
    (oc : Outcome later flow' source t) (ne : bytes ≠ []) (fits : sink.Fits bytes)
    (rm : later.room = sink.room.map (· - bytes.length))
    (ff : later.flushFault = sink.flushFault) :
    Outcome sink flow (.data bytes :: source) (t.after bytes) := by
  have ps := Source.stops_data ne
  cases oc with
  | waits pss fits' del un fl en =>
    exact .waits (by simp [ps, pss]) ((fits.append_iff rm _).mpr fits') (by simp [Turn.after, del])
      un fl en
  | unflushed pss _ ff' del en =>
    exact .unflushed (by simp [ps, pss]) (.inr (by simp [ne])) (ff.symm.trans ff')
      (by simp [Turn.after, del]) en
  | @stopped before rest stop eq pss st del en =>
    refine .stopped (congrArg _ eq) (Source.passes_cons.mpr ⟨ps, pss⟩) st ?_ (by rw [← ff]; exact en)
    simp [Turn.after, del]
  | @refused n e room lt del en =>
    have ah := Source.ahead_cons_data ne source
    cases r : sink.room with
    | none => simp [r, room] at rm
    | some m =>
      -- `n` is the room that the data have left, so what both take adds up to `m`.
      have le := fits m r
      have eq : n = m - bytes.length := by simpa [r, room] using rm
      refine .refused (n := m) r ?_ ?_ en
      · rw [ah, List.length_append]
        omega
      · simp [Turn.after, del, ah, List.take_append, List.take_of_length_le le, eq]

/-- A flow that meets the bytes it cannot write ends there. -/
lemma Outcome.of_not_fits {sink : Sink} {flow : Flow} {source : Source} {t : Turn} {bytes : Bytes}
    {e : IoFault} (ne : bytes ≠ []) (nf : ¬ sink.Fits bytes) (del : t.delivered = sink.take bytes)
    (en : t.ending = some (.error e)) : Outcome sink flow (.data bytes :: source) t := by
  have ah := Source.ahead_cons_data ne source
  obtain ⟨n, room, lt, tk⟩ := Sink.exists_room_of_not_fits nf
  refine .refused room ?_ ?_ en
  · rw [ah, List.length_append]
    omega
  · rw [del, tk, ah, List.take_append_of_le_length (Nat.le_of_lt lt)]

/-- Every turn has one of the four outcomes. -/
theorem outcome_run (sink : Sink) (flow : Flow) (source : Source) :
    Outcome sink flow source (run sink flow source) := by
  induction source generalizing sink flow with
  | nil => exact outcome_rest sink flow
  | cons arrival unread ih =>
    cases arrival with
    | finish =>
      obtain ⟨del, en⟩ := ending_finish sink flow (.finish :: unread)
      exact .stopped (List.nil_append _).symm Source.passes_nil rfl del en
    | fault e =>
      cases int : e.isInterruption with
      | true =>
        have h := (ih sink flow).interrupted int
        simpa [run, int] using h
      | false =>
        have st : (Arrival.fault e).stops = true := by simp [Arrival.stops, int]
        exact .stopped (List.nil_append _).symm Source.passes_nil st (by simp [run, int])
          (by simp [run, int, Arrival.verdict])
    | data bytes =>
      by_cases nil : bytes = []
      · subst nil
        obtain ⟨del, en⟩ := ending_finish sink flow unread
        exact .stopped (List.nil_append _).symm Source.passes_nil rfl del en
      · -- However the chunk is cut into buffers, pouring them is one write of the chunk.
        obtain ⟨acc, rfd, rm, ff⟩ := pour_spec sink (cut bufferSize bytes)
        rw [flatten_cut] at acc rfd rm
        simp only [run, nil, if_false]
        split
        case h_1 e back ref =>
          have nf : ¬ sink.Fits bytes := by simp [← rfd, ref]
          exact .of_not_fits nil nf acc rfl
        case h_2 ref =>
          have fits := rfd.mp ref
          rw [fits.take_eq] at acc rm
          rw [acc]
          exact (ih _ _).after_data nil fits rm ff

/-- A turn uses up the room of its writer by what it delivers, and leaves the flushing as it was. -/
lemma sink_run (sink : Sink) (flow : Flow) (source : Source) :
    (run sink flow source).sink.room =
        sink.room.map (· - (run sink flow source).delivered.length) ∧
      (run sink flow source).sink.flushFault = sink.flushFault := by
  -- This closes every case in which nothing is delivered.
  have idle : sink.room = sink.room.map (· - 0) := by cases sink.room <;> rfl
  induction source generalizing sink flow with
  | nil =>
    simp only [run, rest]
    split
    · split <;> exact ⟨idle, rfl⟩
    · exact ⟨idle, rfl⟩
  | cons arrival unread ih =>
    cases arrival with
    | finish =>
      simp only [run, finish]
      split <;> exact ⟨idle, rfl⟩
    | fault e =>
      simp only [run]
      split
      · exact ih sink flow idle
      · exact ⟨idle, rfl⟩
    | data bytes =>
      by_cases nil : bytes = []
      · simp only [run, nil, if_true, finish]
        split <;> exact ⟨idle, rfl⟩
      · obtain ⟨acc, -, rm, ff⟩ := pour_spec sink (cut bufferSize bytes)
        rw [← acc] at rm
        simp only [run, nil, if_false]
        split
        · exact ⟨rm, ff⟩
        · obtain ⟨rm', ff'⟩ := ih (pour sink (cut bufferSize bytes)).sink
            ⟨flow.copied + (pour sink (cut bufferSize bytes)).accepted.length, true⟩
            (by cases (pour sink (cut bufferSize bytes)).sink.room <;> rfl)
          refine ⟨?_, ff'.trans ff⟩
          rw [Turn.after, rm', rm]
          cases sink.room <;> simp [Nat.sub_sub]

/-- A stream that refuses nothing stays so. -/
lemma open_run {sink : Sink} (op : sink.Open) (flow : Flow) (source : Source) :
    (run sink flow source).sink.Open := by
  obtain ⟨rm, ff⟩ := sink_run sink flow source
  exact ⟨by simp [rm, op.room], by simp [ff, op.flush]⟩

end Flow

end MeshProxy
