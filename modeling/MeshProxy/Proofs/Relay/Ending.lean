import MeshProxy.Proofs.Relay.Conservation

/-!
# How a relay ends

What its streams hold and how they answer decides whether a direction that runs will end, and how: `Flow.due` says so
without running it. The writer may have no room for the data that lie ahead; or the reader meets an arrival that stops it;
or there is nothing more to read, and what was written cannot be flushed. `ending_run` proves that every turn ends as it
is due to.

So a relay runs as long as nothing is due in either direction, and the first step at which something is due ends it
(`ends_when_due`). It is `Closed` then: both streams are dropped, the writer of the direction that ended is asked to shut
its write half if all went well, and nothing that happens later makes a difference.
-/

namespace MeshProxy

namespace Flow

/-- Pouring is refused as one write of all bytes is, and otherwise leaves the stream refusing as before. -/
lemma refused_pour (sink : Sink) (buffers : List Bytes) :
    (¬ sink.Fits buffers.flatten →
      (pour sink buffers).refused.map (·.1) = sink.refusal?.map causeOf) ∧
    (sink.Fits buffers.flatten → (pour sink buffers).sink.refusal? = sink.refusal?) := by
  induction buffers generalizing sink with
  | nil => exact ⟨fun nf => absurd sink.fits_nil nf, fun _ => rfl⟩
  | cons buffer more ih =>
    simp only [pour, List.flatten_cons]
    split
    case h_1 refusal ref =>
      have nf : ¬ sink.Fits buffer := by simp [← Sink.refusal_writeAll, ref]
      rw [Sink.refusal_writeAll_of_not_fits nf] at ref
      exact ⟨fun _ => by simp [ref], fun fits => absurd fits (Sink.not_fits_append nf _)⟩
    case h_2 ref =>
      have fits := Sink.refusal_writeAll.mp ref
      have rm := Sink.room_writeAll sink buffer
      rw [fits.take_eq] at rm
      obtain ⟨refused, same⟩ := ih (sink.writeAll buffer).sink
      rw [← Sink.refusal?_writeAll fits, fits.append_iff rm]
      exact ⟨refused, same⟩

/-- How a flow is due to end that writes to `sink` and has `source` to read: not at all if it will have to wait. -/
def due (sink : Sink) (unflushed : Bool) (source : Source) : Option (Except IoFault Unit) :=
  if sink.Fits source.ahead then
    match source.find? (·.stops) with
    | some stop => some (stop.verdict sink.flushFault)
    | none => if unflushed ∨ source.payload ≠ [] then sink.flushFault.map .error else none
  else (sink.refusal?.map causeOf).map .error

variable {sink : Sink} {unflushed : Bool} {source : Source}

lemma due_cons_of_stops {stop : Arrival} (st : stop.stops = true) :
    due sink unflushed (stop :: source) = some (stop.verdict sink.flushFault) := by
  simp [due, Source.ahead_cons_of_stops st, sink.fits_nil, st]

lemma due_cons_of_interruption {e : IoFault} (int : e.isInterruption = true) :
    due sink unflushed (.fault e :: source) = due sink unflushed source := by
  rw [due, due, Source.ahead_cons_interruption int,
    List.find?_cons_of_neg (by simp [Source.stops_interruption int])]
  rfl

lemma due_cons_of_fits {later : Sink} {bytes : Bytes} (ne : bytes ≠ []) (fits : sink.Fits bytes)
    (rm : later.room = sink.room.map (· - bytes.length)) (rf : later.refusal? = sink.refusal?)
    (ff : later.flushFault = sink.flushFault) :
    due sink unflushed (.data bytes :: source) = due later true source := by
  simp [due, Source.ahead_cons_data ne, Source.stops_data ne, fits.append_iff rm, rf, ff, ne]

lemma due_cons_of_not_fits {bytes : Bytes} (ne : bytes ≠ []) (nf : ¬ sink.Fits bytes) :
    due sink unflushed (.data bytes :: source) =
      (sink.refusal?.map causeOf).map .error := by
  simp [due, Source.ahead_cons_data ne, Sink.not_fits_append nf]

/-- A turn ends as it is due to. -/
theorem ending_run (sink : Sink) (flow : Flow) (source : Source) :
    (run sink flow source).ending = due sink flow.unflushed source := by
  induction source generalizing sink flow with
  | nil =>
    cases u : flow.unflushed <;> cases e : sink.flushFault <;>
      simp [run, rest, due, u, e, sink.fits_nil]
  | cons arrival unread ih =>
    cases arrival with
    | finish =>
      rw [due_cons_of_stops rfl]
      exact (ending_finish sink flow (.finish :: unread)).2
    | fault e =>
      cases int : e.isInterruption with
      | true =>
        rw [due_cons_of_interruption int, ← ih]
        simp [run, int]
      | false =>
        have st : (Arrival.fault e).stops = true := by simp [Arrival.stops, int]
        rw [due_cons_of_stops st]
        simp [run, int, Arrival.verdict]
    | data bytes =>
      by_cases nil : bytes = []
      · subst nil
        rw [due_cons_of_stops rfl]
        exact (ending_finish sink flow unread).2
      · -- Pouring the buffers of a chunk is refused when one write of the chunk is, and for the same cause.
        obtain ⟨acc, rfd, rm, ff⟩ := pour_spec sink (cut bufferSize bytes)
        obtain ⟨cause, same⟩ := refused_pour sink (cut bufferSize bytes)
        rw [flatten_cut] at acc rfd rm cause same
        simp only [run, nil, if_false]
        split
        case h_1 e back ref =>
          have nf : ¬ sink.Fits bytes := by simp [← rfd, ref]
          rw [due_cons_of_not_fits nil nf, ← cause nf, ref]
          rfl
        case h_2 ref =>
          have fits := rfd.mp ref
          rw [fits.take_eq] at rm
          rw [due_cons_of_fits nil fits rm (same fits) ff]
          exact ih _ _

/-- The reader has met its end, there was room for everything in front of it, and it can be flushed. -/
structure RunsDry (sink : Sink) (source : Source) : Prop where
  ends : ∃ stop, source.find? (·.stops) = some stop ∧ ∀ e, stop ≠ .fault e
  fits : sink.Fits source.ahead
  flush : sink.flushFault = none

/-- A flow is due to end well exactly if it runs dry. -/
theorem due_eq_ok_iff : due sink unflushed source = some (.ok ()) ↔ RunsDry sink source := by
  constructor
  · intro ok
    rw [due] at ok
    split at ok
    case isFalse => cases rf : sink.refusal? <;> simp [rf] at ok
    case isTrue fits =>
      split at ok
      case h_1 stop found =>
        rw [Option.some.injEq] at ok
        have no : ∀ e, stop ≠ .fault e := by
          rintro e rfl
          cases ok
        refine ⟨⟨stop, found, no⟩, fits, ?_⟩
        cases ff : sink.flushFault with
        | none => rfl
        | some e => cases stop <;> simp [Arrival.verdict, ff] at ok
      case h_2 =>
        split at ok
        · cases ff : sink.flushFault <;> simp [ff] at ok
        · cases ok
  · rintro ⟨⟨stop, found, no⟩, fits, flush⟩
    rw [due, if_pos fits, found]
    cases stop with
    | fault e => exact absurd rfl (no e)
    | data bytes => simp [Arrival.verdict, flush]
    | finish => simp [Arrival.verdict, flush]

end Flow

namespace Relay

variable {r : Relay} {d d' : Direction} {result : Except IoFault Unit}

/-- How a direction is due to end as the streams stand. -/
def due (r : Relay) (d : Direction) : Option (Except IoFault Unit) :=
  Flow.due (r.sink d) (r.flow d).unflushed (r.unread d)

/-- Neither stream is dropped or has its write half shut. -/
def Intact (r : Relay) : Prop :=
  ∀ side, (r.endpoint side).dropped = false ∧ (r.endpoint side).shut = false

/-- A direction has ended the relay. -/
structure Closed (r : Relay) (d : Direction) (result : Except IoFault Unit) : Prop where
  ending : r.ending = some (d, result)
  /-- The session around the relay ends well, or with the fault of that direction. -/
  session : r.result? = some (result.mapError .relay)
  dropped : ∀ side, (r.endpoint side).dropped = true
  /-- A write half is shut if it is that of the writer and all went well, and no other is. -/
  shut : ∀ side, (r.endpoint side).shut = true ↔ side = d.goal ∧ result = .ok ()

lemma ending_turn (r : Relay) (d : Direction) : (r.turn d).ending = r.due d := by
  rw [turn_eq, Flow.ending_run]
  rfl

/-- The backward direction, which runs first, makes no difference to what is due in the forward one. -/
lemma due_forward_advance (run : r.ending = none) :
    (r.advance .backward).due .forward = r.due .forward := by
  have ne : Direction.forward ≠ .backward := nofun
  simp only [due, sink_advance run, flow_advance run, unread_advance run, if_neg ne]

/-- A direction in which nothing is due leaves the relay running and its streams open. -/
lemma Intact.advance (it : r.Intact) (run : r.ending = none) (no : r.due d = none) :
    (r.advance d).Intact ∧ (r.advance d).ending = none := by
  rw [← ending_turn] at no
  constructor
  · intro side
    obtain ⟨dropped, shut⟩ := it side
    simp only [Relay.advance, run, no]
    cases d <;> cases side <;> exact ⟨dropped, shut⟩
  · rw [ending_advance run, no]
    rfl

/-- A direction in which something is due closes the relay. -/
lemma Intact.closed_advance (it : r.Intact) (run : r.ending = none) (du : r.due d = some result) :
    (r.advance d).Closed d result := by
  rw [← ending_turn] at du
  have en : (r.advance d).ending = some (d, result) := by
    rw [ending_advance run, du]
    rfl
  refine ⟨en, ?_, ?_, ?_⟩
  · cases result <;> simp [result?, en, Except.mapError]
  · intro side
    simp only [Relay.advance, run, du]
    cases d <;> cases side <;> rfl
  · intro side
    obtain ⟨-, shut⟩ := it side
    simp only [Relay.advance, run, du]
    cases d <;> cases side <;> cases result <;> simp_all [close, absorb, endpoint, Direction.goal]

lemma Intact.settle (it : r.Intact) (run : r.ending = none) (no : ∀ d, r.due d = none) :
    r.settle.Intact ∧ r.settle.ending = none := by
  obtain ⟨it', run'⟩ := it.advance run (no .backward)
  exact it'.advance run' (by rw [due_forward_advance run, no])

lemma Intact.closed_settle (it : r.Intact) (run : r.ending = none) (du : r.due d = some result)
    (no : r.due d.opposite = none) : r.settle.Closed d result := by
  cases d with
  | backward =>
    have closed := it.closed_advance run du
    rw [Relay.settle, advance_of_ended closed.ending]
    exact closed
  | forward =>
    -- The backward direction has run by then and has ended nothing.
    have no : r.due .backward = none := no
    obtain ⟨it', run'⟩ := it.advance run no
    exact it'.closed_advance run' (by rw [due_forward_advance run, du])

lemma due_eq_none (run : r.ending = none) (on : r.settle.ending = none) (d : Direction) :
    r.due d = none := by
  have backward : r.due .backward = none := by
    rw [← ending_turn]
    cases turn : (r.turn .backward).ending with
    | none => rfl
    | some result =>
      have en := ending_advance (d := .backward) run
      rw [turn, Option.map_some] at en
      rw [settle, advance_of_ended en, en] at on
      cases on
  cases d with
  | backward => exact backward
  | forward =>
    have run' : (r.advance .backward).ending = none := by
      rw [ending_advance run, ending_turn, backward]
      rfl
    rw [settle, ending_advance run', ending_turn, due_forward_advance run] at on
    exact Option.map_eq_none_iff.mp on

/-! ## Whole runs -/

variable {client upstream : Endpoint} {es taken : List Happening}

lemma Intact.meet (it : r.Intact) (e : Happening) : (r.meet e.1 e.2).Intact := by
  obtain ⟨place, event⟩ := e
  intro side
  have kept := it side
  cases place <;> cases side <;> cases event <;> exact kept

/-- A relay that runs until the last thing that happens lets everything run once more then. -/
lemma after_eq_settle (before : ∀ earlier, earlier <+: es → earlier ≠ es →
      ((start client upstream).after earlier).ending = none) :
    (start client upstream).after es = (eve client upstream es).settle ∧
      (eve client upstream es).ending = none := by
  cases es using List.reverseRecOn with
  | nil => exact ⟨rfl, rfl⟩
  | append_singleton es e _ =>
    have run := before es (List.prefix_append _ _) (by simp)
    rw [eve_concat, after_append, after_cons, after_nil, step_of_running run, ending_meet]
    exact ⟨rfl, run⟩

/-- What happens last finds the streams of a running relay as intact as they were. -/
lemma intact_eve (fresh : Intact { client, upstream })
    (before : ∀ earlier, earlier <+: es → earlier ≠ es → ((start client upstream).after earlier).Intact) :
    (eve client upstream es).Intact := by
  cases es using List.reverseRecOn with
  | nil => exact fresh
  | append_singleton es e _ =>
    rw [eve_concat]
    exact (before es (List.prefix_append _ _) (by simp)).meet e

/-- As long as nothing is due, a relay runs and its streams are intact. -/
lemma intact_after (fresh : Intact { client, upstream })
    (no : ∀ taken, taken <+: es → ∀ d, (eve client upstream taken).due d = none) :
    ((start client upstream).after es).Intact ∧ ((start client upstream).after es).ending = none := by
  induction es using List.reverseRecOn with
  | nil => exact fresh.settle rfl (no [] List.prefix_rfl)
  | append_singleton es e ih =>
    obtain ⟨it, run⟩ := ih (fun taken pre => no taken (pre.trans (List.prefix_append _ _)))
    have none := no (es ++ [e]) List.prefix_rfl
    rw [eve_concat] at none
    rw [after_append, after_cons, after_nil, step_of_running run]
    exact (it.meet e).settle (by rw [ending_meet, run]) none

/-- Before the first step at which something is due, a relay runs and its streams are intact. -/
lemma intact_before (fresh : Intact { client, upstream })
    (no : ∀ earlier, earlier <+: es → earlier ≠ es → ∀ d, (eve client upstream earlier).due d = none) :
    ∀ earlier, earlier <+: es → earlier ≠ es →
      ((start client upstream).after earlier).Intact ∧
        ((start client upstream).after earlier).ending = none := by
  intro earlier pre ne
  apply intact_after fresh
  intro taken pre'
  refine no taken (pre'.trans pre) ?_
  -- If all of `es` came before a part of it, the part would be all of it.
  rintro rfl
  exact ne (pre.eq_of_length (Nat.le_antisymm pre.length_le pre'.length_le))

lemma closed_after (fresh : Intact { client, upstream })
    (no : ∀ earlier, earlier <+: es → earlier ≠ es → ∀ d, (eve client upstream earlier).due d = none)
    (du : (eve client upstream es).due d = some result)
    (alone : (eve client upstream es).due d.opposite = none) :
    ((start client upstream).after es).Closed d result := by
  have before := intact_before fresh no
  obtain ⟨eq, run⟩ := after_eq_settle (fun earlier pre ne => (before earlier pre ne).2)
  have it := intact_eve fresh (fun earlier pre ne => (before earlier pre ne).1)
  rw [eq]
  exact it.closed_settle run du alone

lemma not_due_of_running (run : ((start client upstream).after es).ending = none)
    (pre : taken <+: es) (d : Direction) : (eve client upstream taken).due d = none := by
  have running : ∀ earlier, earlier <+: taken → ((start client upstream).after earlier).ending = none :=
    fun earlier pre' => ending_of_prefix (pre'.trans pre) run
  obtain ⟨eq, run'⟩ := after_eq_settle (fun earlier pre' _ => running earlier pre')
  apply due_eq_none run'
  rw [← eq]
  exact running taken List.prefix_rfl

/-- If one stream holds nothing at the start, nothing is ever due in both directions at once. -/
lemma due_alone (cr : client.received = []) (ur : upstream.received = [])
    (one : client.source = [] ∨ upstream.source = [])
    (before : ∀ earlier, earlier <+: es → earlier ≠ es →
      ((start client upstream).after earlier).ending = none) :
    ∃ d, (eve client upstream es).due d = none := by
  have idle (r : Relay) : (∃ d, r.unread d = [] ∧ (r.flow d).unflushed = false) → ∃ d, r.due d = none := by
    rintro ⟨d, un, fl⟩
    exact ⟨d, by simp [due, un, fl, Flow.due, Sink.fits_nil]⟩
  apply idle
  cases es using List.reverseRecOn with
  | nil =>
    rcases one with cs | us
    · exact ⟨.forward, cs, rfl⟩
    · exact ⟨.backward, us, rfl⟩
  | append_singleton es e _ =>
    have run := before es (List.prefix_append _ _) (by simp)
    rw [eve_concat]
    exact idle_of_waiting ((conserved_after cr ur one es).1 run) e

/-- How a run of a relay ends. -/
structure EndsWhenDue (client upstream : Endpoint) (es : List Happening) : Prop where
  /-- The relay runs as long as nothing has been due. -/
  running : ((start client upstream).after es).ending = none ↔
    ∀ taken, taken <+: es → ∀ d, (eve client upstream taken).due d = none
  /-- Its streams are intact then. -/
  intact : ((start client upstream).after es).ending = none →
    ((start client upstream).after es).Intact
  /-- The first step at which something is due in one direction closes it, and what happens later changes nothing. -/
  ended : ∀ taken d result, taken <+: es →
    (∀ earlier, earlier <+: taken → earlier ≠ taken → ∀ d, (eve client upstream earlier).due d = none) →
    (eve client upstream taken).due d = some result →
    (eve client upstream taken).due d.opposite = none →
    ((start client upstream).after taken).Closed d result ∧
      (start client upstream).after es = (start client upstream).after taken
  /-- The session ends well exactly if the direction has run dry. -/
  well : ∀ taken d, (eve client upstream taken).due d = some (.ok ()) ↔
    Flow.RunsDry ((eve client upstream taken).sink d) ((eve client upstream taken).unread d)
  /-- If one stream holds nothing at the start, no step finds something due in both directions. -/
  alone : client.source = [] ∨ upstream.source = [] → ∀ taken, taken <+: es →
    (∀ earlier, earlier <+: taken → earlier ≠ taken → ∀ d, (eve client upstream earlier).due d = none) →
    ∃ d, (eve client upstream taken).due d = none

/-- Between any two streams, a relay ends when something is due and as it is due. -/
theorem ends_when_due (clientReads upstreamReads : Source) (clientSink upstreamSink : Sink)
    (es : List Happening) :
    EndsWhenDue { source := clientReads, sink := clientSink }
      { source := upstreamReads, sink := upstreamSink } es := by
  have fresh : Intact
      { client := { source := clientReads, sink := clientSink }
        upstream := { source := upstreamReads, sink := upstreamSink } } := by
    intro side
    cases side <;> exact ⟨rfl, rfl⟩
  constructor
  case running =>
    constructor
    · intro run taken pre d
      exact not_due_of_running run pre d
    · intro no
      exact (intact_after fresh no).2
  case intact =>
    intro run
    exact (intact_after fresh (fun taken pre d => not_due_of_running run pre d)).1
  case ended =>
    intro taken d result pre no du alone
    have closed := closed_after fresh no du alone
    refine ⟨closed, ?_⟩
    obtain ⟨later, rfl⟩ := pre
    rw [after_append, after_of_ended closed.ending]
  case well =>
    intro taken d
    exact Flow.due_eq_ok_iff
  case alone =>
    intro one taken pre no
    exact due_alone rfl rfl one (fun earlier pre' ne => (intact_before fresh no earlier pre' ne).2)

end Relay

end MeshProxy
