import MeshProxy.Proofs.Persona.Course

/-!
# Relays whose writers refuse nothing

If both writers of a relay take every byte and every flush, only an arrival can end it (`Unhindered.stopped`). When, on
top of that, one reader meets nothing but chunks of data and the other one chunks and then perhaps the end, the relay
does what is hoped for: it delivers everything both ways, or ends well with everything delivered that came before the
end (`Unhindered.cases_of_orderly`).
-/

namespace MeshProxy

namespace Relay

variable {r : Relay} {d : Direction} {base : Direction → Bytes} {script : Direction → Source}

/-- A faithful relay whose writers refuse nothing. -/
structure Unhindered (r : Relay) (base : Direction → Bytes) (script : Direction → Source) : Prop
    extends r.Faithful base script where
  open_sinks : ∀ d, (r.sink d).Open
  /-- Only an arrival ends the relay. -/
  stopped : ∀ d result, r.ending = some (d, result) →
    ∃ stop ∈ script d, stop.stops = true ∧ result = stop.verdict none
  /-- The backward direction runs first, so nothing is left in it when the forward one ends. -/
  drained : ∀ result, r.ending = some (.forward, result) → r.unread .backward = []

/-- Letting a direction run leaves its writer as it was. -/
lemma open_advance (run : r.ending = none) (op : ∀ d, (r.sink d).Open) (d' : Direction) :
    ((r.advance d).sink d').Open := by
  rw [sink_advance run]
  split
  · rw [turn_eq]
    exact Flow.open_run (op d) _ _
  · exact op d'

/-- Letting both directions run leaves their writers as they were. -/
lemma open_settle (run : r.ending = none) (op : ∀ d, (r.sink d).Open) (d : Direction) :
    (r.settle.sink d).Open := by
  have op' := open_advance (d := .backward) run op
  cases en : (r.advance .backward).ending with
  | none => exact open_advance en op' d
  | some x =>
    rw [settle, advance_of_ended en]
    exact op' d

/-- Directions under way between writers that refuse nothing make an unhindered relay as soon as they have run. -/
lemma unhindered_settle (run : r.ending = none) (op : ∀ d, (r.sink d).Open)
    (pd : ∀ d, r.Pending d (base d) (script d)) : r.settle.Unhindered base script := by
  refine ⟨faithful_settle run pd, open_settle run op, ?_, ?_⟩
  · -- Of the three ways to end, two need a writer that refuses something.
    intro d result en
    rcases settle_cases run pd with ⟨run', _⟩ | ⟨d', result', en', ed, _⟩
    · rw [run'] at en
      cases en
    · rw [en] at en'
      cases en'
      cases ed with
      | @stopped _ _ stop eq _ st _ =>
        refine ⟨stop, ?_, st, ?_⟩
        · rw [eq]
          exact List.mem_append_right _ List.mem_cons_self
        · rw [(op d).flush]
      | unflushed _ ff =>
        rw [(op d).flush] at ff
        cases ff
      | refused room =>
        rw [(op d).room] at room
        cases room
  · intro result en
    rcases settle_cases run pd with ⟨run', _⟩ | ⟨d', result', en', _, _, un⟩
    · rw [run'] at en
      cases en
    · rw [en] at en'
      cases en'
      exact un

/-- A new relay between streams that refuse nothing is unhindered. -/
lemma unhindered_start {client upstream : Endpoint} (cs : client.sink.Open) (us : upstream.sink.Open)
    (bs : ∀ d, delivered { client, upstream } d = base d)
    (sc : ∀ d, unread { client, upstream } d = script d) :
    (start client upstream).Unhindered base script := by
  apply unhindered_settle rfl
  · intro d
    cases d
    · exact us
    · exact cs
  · intro d
    exact ⟨[], (sc d).symm, Source.passes_nil, by simp [bs d]⟩

/-- What arrives leaves the writers of a relay as they are. -/
lemma sink_meet (r : Relay) (side : Side) (a : Arrival) (d : Direction) :
    (r.meet side (.arrives a)).sink d = r.sink d := by
  cases side <;> cases d <;> rfl

/-- An unhindered relay stays so whatever arrives. -/
lemma Unhindered.step (un : r.Unhindered base script) (side : Side) (a : Arrival) :
    (r.step side (.arrives a)).Unhindered base
      (fun d => script d ++ arrivals d.origin [(side, .arrives a)]) := by
  cases en : r.ending with
  | none =>
    rw [step_of_running en (side, .arrives a)]
    apply unhindered_settle
    · rw [ending_meet r (side, .arrives a), en]
    · intro d
      rw [sink_meet]
      exact un.open_sinks d
    · exact fun d => (un.waiting en d).pending.meet (side, .arrives a)
  | some x =>
    have fa := un.toFaithful.step (side, .arrives a)
    rw [step_of_ended en] at fa ⊢
    refine ⟨fa, un.open_sinks, fun d result en' => ?_, un.drained⟩
    obtain ⟨stop, mem, st, eq⟩ := un.stopped d result en'
    exact ⟨stop, List.mem_append_left _ mem, st, eq⟩

/-- An unhindered relay stays so whatever arrives from its client. -/
lemma Unhindered.step_client {c u : Source} (un : r.Unhindered base (Direction.each c u)) (a : Arrival) :
    (r.step .client (.arrives a)).Unhindered base (Direction.each (c ++ [a]) u) := by
  have un := un.step .client a
  have eq : (fun d => Direction.each c u d ++ arrivals d.origin [(.client, .arrives a)]) =
      Direction.each (c ++ [a]) u := by
    rw [Direction.each_append]
    exact congrArg _ (List.append_nil u)
  rwa [eq] at un

/-- An unhindered relay stays so whatever arrives from its upstream. -/
lemma Unhindered.step_upstream {c u : Source} (un : r.Unhindered base (Direction.each c u))
    (a : Arrival) :
    (r.step .upstream (.arrives a)).Unhindered base (Direction.each c (u ++ [a])) := by
  have un := un.step .upstream a
  have eq : (fun d => Direction.each c u d ++ arrivals d.origin [(.upstream, .arrives a)]) =
      Direction.each c (u ++ [a]) := by
    rw [Direction.each_append]
    exact congrArg (Direction.each · (u ++ [a])) (List.append_nil c)
  rwa [eq] at un

/-- An unhindered relay between orderly readers, of which only the client ends: it runs and has delivered everything, or
it has met the end of the client and ended well. -/
lemma Unhindered.cases_of_orderly (un : r.Unhindered base script)
    (fw : (script .forward).Orderly) (bw : (script .backward).Orderly)
    (endless : .finish ∉ script .backward) :
    (.finish ∉ script .forward ∧ r.ending = none ∧
      ∀ d, r.delivered d = base d ++ (script d).payload) ∨
    (.finish ∈ script .forward ∧ r.ending = some (.forward, .ok ()) ∧
      r.delivered .forward = base .forward ++ (script .forward).payload ∧
      r.unread .backward = []) := by
  cases en : r.ending with
  | none =>
    refine .inl ⟨fun mem => ?_, rfl, fun d => (un.waiting en d).delivered⟩
    have st := (un.waiting en .forward).passes _ mem
    cases st
  | some x =>
    obtain ⟨d, result⟩ := x
    obtain ⟨stop, mem, st, rfl⟩ := un.stopped d result en
    cases d with
    | backward =>
      cases bw.eq_finish mem st
      exact absurd mem endless
    | forward =>
      cases fw.eq_finish mem st
      refine .inr ⟨mem, rfl, ?_, un.drained _ en⟩
      rw [(un.complete .forward en).1, fw.ahead_eq]

end Relay

end MeshProxy
