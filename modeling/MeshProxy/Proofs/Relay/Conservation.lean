import MeshProxy.Proofs.Relay.Step
import Mathlib.Data.List.Induction

/-!
# A relay neither loses nor changes bytes

Two accounts of a run of a relay, both by the step lemma `Relay.settle_cases`.

`Relay.Faithful` is the invariant of every relay: what a direction has delivered is, behind what its writer had before,
the data that lie ahead in all that its reader was supplied with. It is what sessions that end in a relay build on.

`Relay.conserves` is exact, for relays whose streams do not both hold data at the start. While the relay runs,
everything is delivered. The event that ends it leaves the opposite direction with nothing unread, so that nothing
supplied to that direction is lost, and the direction that ended has delivered what `Relay.Ended` says.
-/

namespace MeshProxy

namespace Relay

variable {r : Relay} {base : Direction → Bytes} {script : Direction → Source}

/-! ## Every relay -/

/-- What a relay owes its two writers, when the readers were supplied with `script`. -/
structure Faithful (r : Relay) (base : Direction → Bytes) (script : Direction → Source) : Prop where
  /-- While the relay runs, both directions have delivered all. -/
  waiting : r.ending = none → ∀ d, r.Waiting d (base d) (script d)
  /-- What is delivered lies ahead. -/
  delivered : ∀ d, r.delivered d <+: base d ++ (script d).ahead
  /-- A direction that ended well has met an end and delivered what lies ahead of it. -/
  complete : ∀ d, r.ending = some (d, .ok ()) →
    r.delivered d = base d ++ (script d).ahead ∧ ¬ (script d).Passes

/-- Directions under way make a faithful relay as soon as they have run. -/
lemma faithful_settle (run : r.ending = none) (pd : ∀ d, r.Pending d (base d) (script d)) :
    r.settle.Faithful base script := by
  rcases settle_cases run pd with ⟨run', wt⟩ | ⟨d, result, en, ed, pd', -⟩
  · exact ⟨fun _ => wt, fun d => (wt d).pending.delivered_prefix, fun d h => by simp [run'] at h⟩
  · refine ⟨fun h => by simp [en] at h, fun d' => ?_, fun d' h => ?_⟩
    · by_cases eq : d' = d
      · subst eq
        exact ed.delivered_prefix
      · cases Direction.eq_opposite_of_ne eq
        exact pd'.delivered_prefix
    · rw [en, Option.some.injEq, Prod.mk.injEq] at h
      obtain ⟨rfl, rfl⟩ := h
      exact ed.complete

/-- A new relay is faithful to what is in its two streams. -/
lemma faithful_start {client upstream : Endpoint}
    (bs : ∀ d, delivered { client, upstream } d = base d)
    (sc : ∀ d, unread { client, upstream } d = script d) :
    (start client upstream).Faithful base script := by
  apply faithful_settle rfl
  intro d
  exact ⟨[], (sc d).symm, Source.passes_nil, by simp [bs d]⟩

/-- A faithful relay stays so when something happens. -/
lemma Faithful.step (fa : r.Faithful base script) (e : Happening) :
    (r.step e.1 e.2).Faithful base (fun d => script d ++ arrivals d.origin [e]) := by
  cases en : r.ending with
  | none =>
    rw [step_of_running en]
    apply faithful_settle
    · rw [ending_meet, en]
    · exact fun d => (fa.waiting en d).pending.meet e
  | some x =>
    rw [step_of_ended en]
    -- The script grows behind what ended the relay, and that keeps it from lying ahead.
    refine ⟨fun h => by simp [en] at h, fun d => ?_, fun d h => ?_⟩
    · apply (fa.delivered d).trans
      exact (List.prefix_append_right_inj _).mpr (Source.ahead_prefix_append _ _)
    · obtain ⟨del, np⟩ := fa.complete d h
      rw [Source.ahead_append_of_not_passes np]
      exact ⟨del, fun ps => np (Source.passes_append.mp ps).1⟩

/-- A faithful relay stays so whatever happens. -/
theorem Faithful.after (fa : r.Faithful base script) (es : List Happening) :
    (r.after es).Faithful base (fun d => script d ++ arrivals d.origin es) := by
  induction es generalizing r script with
  | nil => simpa using fa
  | cons e es ih =>
    have h := ih (fa.step e)
    simp only [List.append_assoc, ← arrivals_cons] at h
    exact h

/-! ## Relays with data on one side at the start -/

/-- What the reader of a direction was supplied with: what its stream held, and what arrived. -/
def supplied (client upstream : Endpoint) (es : List Happening) (d : Direction) : Source :=
  unread { client, upstream } d ++ arrivals d.origin es

/-- The relay just before anything runs for the last time. -/
def eve (client upstream : Endpoint) (es : List Happening) : Relay :=
  match es.getLast? with
  | none => { client, upstream }
  | some e => ((start client upstream).after es.dropLast).meet e.1 e.2

/-- The account of a run between two streams that had received nothing before. -/
structure Conserved (client upstream : Endpoint) (es : List Happening) : Prop where
  /-- While the relay runs, each direction has delivered everything its reader was supplied with. -/
  running : ((start client upstream).after es).ending = none → ∀ d,
    ((start client upstream).after es).delivered d = (supplied client upstream es d).payload ∧
      ((start client upstream).after es).unread d = []
  /-- Once a direction has ended the relay, `taken` is what happened until then. The opposite direction has
  delivered everything, and the direction itself has spent what it was supplied with as `Ended` says. -/
  ended : ∀ d result, ((start client upstream).after es).ending = some (d, result) →
    ∃ taken ignored, es = taken ++ ignored ∧
      (start client upstream).after es = (start client upstream).after taken ∧
      (∀ earlier, earlier <+: taken → earlier ≠ taken →
        ((start client upstream).after earlier).ending = none) ∧
      ((start client upstream).after es).delivered d.opposite =
        (supplied client upstream taken d.opposite).payload ∧
      Ended (eve client upstream taken) ((start client upstream).after es) d []
        (supplied client upstream taken d) result

/-- If one direction has nothing to read and to flush, it has delivered everything when the other ends the
relay. -/
lemma settle_cases_of_idle (run : r.ending = none) (pd : ∀ d, r.Pending d (base d) (script d))
    (idle : ∃ d, r.unread d = [] ∧ (r.flow d).unflushed = false) :
    (r.settle.ending = none ∧ ∀ d, r.settle.Waiting d (base d) (script d)) ∨
      ∃ d result, r.settle.ending = some (d, result) ∧
        Ended r r.settle d (base d) (script d) result ∧
        r.settle.delivered d.opposite = base d.opposite ++ (script d.opposite).payload := by
  refine (settle_cases run pd).imp_right ?_
  rintro ⟨d, result, en, ed, ⟨spent, eq, ps, del⟩, un⟩
  refine ⟨d, result, en, ed, ?_⟩
  obtain ⟨d', un', fl⟩ := idle
  have ne : d' ≠ d := (ne_of_idle run un' fl en).symm
  cases Direction.eq_opposite_of_ne ne
  rw [un', ite_self] at un
  rw [del, eq, un, List.append_nil]

/-- Of a running relay that something happens to, one direction stays idle. -/
lemma idle_of_waiting (wt : ∀ d, r.Waiting d (base d) (script d)) (e : Happening) :
    ∃ d, (r.meet e.1 e.2).unread d = [] ∧ ((r.meet e.1 e.2).flow d).unflushed = false := by
  obtain ⟨side, event⟩ := e
  cases side with
  | client =>
    refine ⟨.backward, ?_, by rw [flow_meet, (wt _).flushed]⟩
    rw [unread_meet, (wt _).unread]
    rfl
  | upstream =>
    refine ⟨.forward, ?_, by rw [flow_meet, (wt _).flushed]⟩
    rw [unread_meet, (wt _).unread]
    rfl

/-- What happens before a relay ends leaves it running. -/
lemma ending_of_prefix {es earlier : List Happening} (pre : earlier <+: es)
    (run : (r.after es).ending = none) : (r.after earlier).ending = none := by
  obtain ⟨rest, rfl⟩ := pre
  cases en : (r.after earlier).ending with
  | none => rfl
  | some x => rw [after_append, after_of_ended en, en] at run; exact run

/-- What comes before the last of some happenings comes before it or is all of them. -/
lemma prefix_of_ne {es earlier : List Happening} {e : Happening} (pre : earlier <+: es ++ [e])
    (ne : earlier ≠ es ++ [e]) : earlier <+: es :=
  (List.prefix_concat_iff.mp pre).resolve_left ne

/-- The last thing that happens is met by the relay as it was before. -/
lemma eve_concat (client upstream : Endpoint) (es : List Happening) (e : Happening) :
    eve client upstream (es ++ [e]) = ((start client upstream).after es).meet e.1 e.2 := by
  simp [eve]

/-- The account holds if one direction is idle when everything runs for the last time, and the relay was not
over before. -/
lemma conserved_of_idle {client upstream : Endpoint} {es : List Happening}
    (eq : (start client upstream).after es = (eve client upstream es).settle)
    (run : (eve client upstream es).ending = none)
    (pd : ∀ d, (eve client upstream es).Pending d [] (supplied client upstream es d))
    (idle : ∃ d, (eve client upstream es).unread d = [] ∧
      ((eve client upstream es).flow d).unflushed = false)
    (before : ∀ earlier, earlier <+: es → earlier ≠ es →
      ((start client upstream).after earlier).ending = none) :
    (((start client upstream).after es).ending = none → ∀ d,
      ((start client upstream).after es).Waiting d [] (supplied client upstream es d)) ∧
    Conserved client upstream es := by
  rcases settle_cases_of_idle run pd idle with ⟨run', wt⟩ | ⟨d, result, en, ed, opp⟩
  · rw [← eq] at run' wt
    refine ⟨fun _ => wt, fun _ d => ⟨(wt d).delivered, (wt d).unread⟩, fun d result en => ?_⟩
    simp [run'] at en
  · rw [← eq] at en ed opp
    refine ⟨fun h => by simp [en] at h, fun h => by simp [en] at h, fun d' result' en' => ?_⟩
    rw [en, Option.some.injEq, Prod.mk.injEq] at en'
    obtain ⟨rfl, rfl⟩ := en'
    exact ⟨es, [], (List.append_nil es).symm, rfl, before, opp, ed⟩

/-- The account holds, and while the relay runs both directions wait. -/
lemma conserved_after {client upstream : Endpoint} (cr : client.received = [])
    (ur : upstream.received = []) (one : client.source = [] ∨ upstream.source = [])
    (es : List Happening) :
    (((start client upstream).after es).ending = none → ∀ d,
      ((start client upstream).after es).Waiting d [] (supplied client upstream es d)) ∧
    Conserved client upstream es := by
  -- The last thing that happens finds both directions waiting, so one of them stays idle; or it finds the relay
  -- over, and then the account is that of the happenings before it.
  induction es using List.reverseRecOn with
  | nil =>
    apply conserved_of_idle rfl rfl
    · intro d
      refine ⟨[], by simp [supplied]; rfl, Source.passes_nil, ?_⟩
      cases d
      · exact ur
      · exact cr
    · rcases one with cs | us
      · exact ⟨.forward, cs, rfl⟩
      · exact ⟨.backward, us, rfl⟩
    · intro earlier pre ne
      exact absurd (List.prefix_nil.mp pre) ne
  | append_singleton es e ih =>
    obtain ⟨wt, cons⟩ := ih
    have grow (d) : supplied client upstream (es ++ [e]) d =
        supplied client upstream es d ++ arrivals d.origin [e] := by
      simp [supplied]
    cases en : ((start client upstream).after es).ending with
    | none =>
      have wt := wt en
      apply conserved_of_idle
      · rw [eve_concat, after_append, after_cons, after_nil, step_of_running en]
      · rw [eve_concat, ending_meet, en]
      · intro d
        rw [eve_concat, grow]
        exact (wt d).pending.meet e
      · rw [eve_concat]
        exact idle_of_waiting wt e
      · intro earlier pre ne
        exact ending_of_prefix (prefix_of_ne pre ne) en
    | some x =>
      have eq : (start client upstream).after (es ++ [e]) = (start client upstream).after es := by
        rw [after_append, after_of_ended en]
      refine ⟨fun h => by simp [eq, en] at h, fun h => by simp [eq, en] at h, fun d result en' => ?_⟩
      rw [eq] at en'
      obtain ⟨taken, ignored, split, same, before, opp, ed⟩ := cons.ended d result en'
      rw [eq]
      exact ⟨taken, ignored ++ [e], by rw [split, List.append_assoc], same, before, opp, ed⟩

/-- Conservation: between two streams that hold data on at most one side at the start, every run of a relay is
accounted for. -/
theorem conserves (clientReads upstreamReads : Source) (clientSink upstreamSink : Sink)
    (one : clientReads = [] ∨ upstreamReads = []) (es : List Happening) :
    Conserved { source := clientReads, sink := clientSink }
      { source := upstreamReads, sink := upstreamSink } es :=
  (conserved_after rfl rfl one es).2

/-- A client that sends in two pieces, to an upstream that resets after three bytes. -/
theorem conserves_until_reset :
    ([.data [1, 2]] = ([] : Source) ∨ ([] : Source) = []) ∧
      Conserved { source := [.data [1, 2]] } { sink := { fault := some (3, .fails (.system 104)) } }
        [(.upstream, .arrives (.data [7])), (.client, .arrives (.data [3, 4]))] :=
  ⟨.inr rfl, conserves [.data [1, 2]] [] {} { fault := some (3, .fails (.system 104)) } (.inr rfl) _⟩

end Relay

end MeshProxy
