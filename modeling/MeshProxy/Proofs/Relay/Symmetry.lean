import MeshProxy.Proofs.Relay.Step

/-!
# The two directions of a relay are alike

`mirror` exchanges the two sides of a relay, and with them its directions. Letting one direction run commutes with that
(`mirror_advance`), but letting both run need not: the backward direction always goes first, and if it ends the relay the
forward one does not run at all. The order makes no difference once one of the two directions is `Idle`, with nothing to
read and nothing to flush (`settle_of_idle`).

While a relay runs, both of its directions are idle between events (`Settled`), and an event on one side makes no more
than one of them busy. So if only one stream holds something at the start, every run commutes with the exchange of the
sides (`relay_symmetric`).
-/

namespace MeshProxy

def Relay.Side.opposite : Relay.Side → Relay.Side
  | .client => .upstream
  | .upstream => .client

/-- What is reported when the sides are exchanged: a half-close is that of the opposite direction. -/
def SessionEvent.mirror : SessionEvent → SessionEvent
  | .halfClosed direction bytes => .halfClosed direction.opposite bytes
  | event => event

namespace Relay

variable {r : Relay} {d d' : Direction}

def mirror (r : Relay) : Relay where
  client := r.upstream
  upstream := r.client
  forward := r.backward
  backward := r.forward
  ending := r.ending.map fun (direction, result) => (direction.opposite, result)

def Happening.mirror (e : Happening) : Happening := (e.1.opposite, e.2)

/-- A direction with nothing to read and nothing to flush. -/
structure Idle (r : Relay) (d : Direction) : Prop where
  unread : r.unread d = []
  flushed : (r.flow d).unflushed = false

/-- As long as the relay runs, both directions are idle. -/
def Settled (r : Relay) : Prop := r.ending = none → ∀ d, r.Idle d

lemma turn_mirror (r : Relay) (d : Direction) : r.mirror.turn d.opposite = r.turn d := by cases d <;> rfl

lemma absorb_mirror (r : Relay) (d : Direction) (t : Flow.Turn) :
    r.mirror.absorb d.opposite t = (r.absorb d t).mirror := by cases d <;> rfl

lemma close_mirror (r : Relay) (d : Direction) (result : Except IoFault Unit) :
    r.mirror.close d.opposite result = (r.close d result).mirror := by cases d <;> rfl

lemma ending_mirror_eq_none : r.mirror.ending = none ↔ r.ending = none := Option.map_eq_none_iff

/-- A direction runs as the opposite one does when the sides are exchanged. -/
lemma mirror_advance (r : Relay) (d : Direction) : (r.advance d).mirror = r.mirror.advance d.opposite := by
  cases en : r.ending with
  | some x =>
    have en' : r.mirror.ending = some (x.1.opposite, x.2) := by simp [mirror, en]
    rw [advance_of_ended en, advance_of_ended en']
  | none =>
    have en' := ending_mirror_eq_none.mpr en
    simp only [advance, en, en', turn_mirror]
    split
    · rw [absorb_mirror]
    · rw [absorb_mirror, close_mirror]

/-! ## Idle directions -/

lemma Idle.mirror (id : r.Idle d) : r.mirror.Idle d.opposite := by
  obtain ⟨un, fl⟩ := id
  cases d <;> exact ⟨un, fl⟩

/-- An idle direction that runs does nothing. -/
lemma Idle.advance_eq (id : r.Idle d) (run : r.ending = none) : r.advance d = r := by
  obtain ⟨un, fl⟩ := id
  have turn : r.turn d = ⟨[], [], r.sink d, r.flow d, none⟩ := by
    rw [turn_eq, un]
    simp [Flow.run, Flow.rest, fl]
  simp only [advance, run, turn]
  obtain ⟨client, upstream, forward, backward, ending⟩ := r
  cases d with
  | forward =>
    have nil : client.source = [] := un
    simp [absorb, sink, flow, endpoint, Direction.goal, ← nil]
  | backward =>
    have nil : upstream.source = [] := un
    simp [absorb, sink, flow, endpoint, Direction.goal, ← nil]

lemma Idle.advance_of_ne (id : r.Idle d) (run : r.ending = none) (ne : d ≠ d') : (r.advance d').Idle d where
  unread := by rw [unread_advance run, if_neg ne, id.unread]
  flushed := by rw [flow_advance run, if_neg ne, id.flushed]

/-- A direction that has run without ending the relay is idle. -/
lemma idle_advance (run : r.ending = none) (run' : (r.advance d).ending = none) : (r.advance d).Idle d := by
  have oc := Flow.outcome_run (r.sink d) (r.flow d) (r.unread d)
  rw [← turn_eq] at oc
  rw [ending_advance run, Option.map_eq_none_iff] at run'
  cases oc with
  | waits _ _ _ un fl =>
    refine ⟨?_, ?_⟩
    · rw [unread_advance run, if_pos rfl, un]
    · rw [flow_advance run, if_pos rfl, fl]
  | unflushed _ _ _ _ en => cases run'.symm.trans en
  | stopped _ _ _ _ en => cases run'.symm.trans en
  | refused _ _ _ en => cases run'.symm.trans en

/-- Where one direction is idle, letting everything run is letting the opposite one run. -/
lemma settle_of_idle (id : r.Idle d) (run : r.ending = none) : r.settle = r.advance d.opposite := by
  cases d with
  | backward => rw [settle, id.advance_eq run]; rfl
  | forward =>
    have id' : (r.advance .backward).Idle .forward := id.advance_of_ne run (by decide)
    cases run' : (r.advance .backward).ending with
    | none => exact id'.advance_eq run'
    | some x => exact advance_of_ended run'

/-- So the order in which the directions run is no matter there. -/
lemma mirror_settle (id : r.Idle d) (run : r.ending = none) : r.settle.mirror = r.mirror.settle := by
  have run' := ending_mirror_eq_none.mpr run
  rw [settle_of_idle id run, settle_of_idle id.mirror run', mirror_advance]

lemma settled_settle (run : r.ending = none) : r.settle.Settled := by
  intro run'' d
  -- The backward direction did not end the relay, since nothing runs after an end.
  have run' : (r.advance .backward).ending = none := by
    cases en : (r.advance .backward).ending with
    | none => rfl
    | some x => rw [settle, advance_of_ended en, en] at run''; cases run''
  cases d with
  | backward => exact (idle_advance run run').advance_of_ne run' (by decide)
  | forward => exact idle_advance run' run''

/-! ## Whole runs -/

lemma meet_mirror (r : Relay) (e : Happening) :
    r.mirror.meet e.mirror.1 e.mirror.2 = (r.meet e.1 e.2).mirror := by
  obtain ⟨side, event⟩ := e
  cases side <;> rfl

/-- An event on one side leaves the direction from the other side idle. -/
lemma exists_idle_meet (idle : ∀ d, r.Idle d) (e : Happening) : ∃ d, (r.meet e.1 e.2).Idle d := by
  obtain ⟨side, event⟩ := e
  cases side with
  | client => exact ⟨.backward, (idle .backward).unread, (idle .backward).flushed⟩
  | upstream => exact ⟨.forward, (idle .forward).unread, (idle .forward).flushed⟩

lemma Settled.step (st : r.Settled) (e : Happening) : (r.step e.1 e.2).Settled := by
  cases en : r.ending with
  | some x => rwa [step_of_ended en]
  | none =>
    rw [step_of_running en]
    exact settled_settle (by rw [ending_meet, en])

/-- A step commutes with the exchange of the sides. -/
lemma Settled.mirror_step (st : r.Settled) (e : Happening) :
    (r.step e.1 e.2).mirror = r.mirror.step e.mirror.1 e.mirror.2 := by
  cases en : r.ending with
  | some x =>
    have en' : r.mirror.ending = some (x.1.opposite, x.2) := by simp [mirror, en]
    rw [step_of_ended en, step_of_ended en']
  | none =>
    obtain ⟨d, id⟩ := exists_idle_meet (st en) e
    have run : (r.meet e.1 e.2).ending = none := by rw [ending_meet, en]
    rw [step_of_running en, step_of_running (ending_mirror_eq_none.mpr en), mirror_settle id run, meet_mirror]

lemma Settled.mirror_after (st : r.Settled) (es : List Happening) :
    (r.after es).mirror = r.mirror.after (es.map Happening.mirror) := by
  induction es generalizing r with
  | nil => rfl
  | cons e es ih => rw [after_cons, ih (st.step e), st.mirror_step, List.map_cons, after_cons]

/-- One relay is the other with the sides exchanged. -/
structure Mirrored (r r' : Relay) : Prop where
  state : r' = r.mirror
  delivered : ∀ d, r'.delivered d = r.delivered d.opposite
  /-- A stream is what the stream on the opposite side is: open, shut or dropped, with the same bytes received. -/
  streams : ∀ side, r'.endpoint side = r.endpoint side.opposite
  result : r'.result? = r.result?
  /-- A half-close has the opposite label and the same number of bytes. -/
  events : r'.sessionEvents = r.sessionEvents.map SessionEvent.mirror

lemma mirrored_mirror (r : Relay) : Mirrored r r.mirror where
  state := rfl
  delivered d := by cases d <;> rfl
  streams side := by cases side <;> rfl
  result := by
    simp only [result?, mirror]
    cases r.ending <;> rfl
  events := by
    obtain ⟨client, upstream, forward, backward, ending⟩ := r
    cases ending with
    | none => rfl
    | some x =>
      obtain ⟨d, result⟩ := x
      cases d <;> cases result <;> rfl

/-- Symmetry: between two streams of which only one holds something at the start, every run of a relay is the mirror
image of the run with the sides exchanged. -/
theorem relay_symmetric (client upstream : Endpoint) (one : client.source = [] ∨ upstream.source = [])
    (es : List Happening) :
    Mirrored ((start client upstream).after es)
      ((start upstream client).after (es.map Happening.mirror)) := by
  have idle : ∃ d, Idle { client, upstream } d := by
    rcases one with nil | nil
    · exact ⟨.forward, nil, rfl⟩
    · exact ⟨.backward, nil, rfl⟩
  obtain ⟨d, id⟩ := idle
  have exchanged : (start client upstream).mirror = start upstream client := mirror_settle id rfl
  have settled : (start client upstream).Settled := settled_settle rfl
  rw [← exchanged, ← settled.mirror_after]
  exact mirrored_mirror _

/-- A client that sends to an upstream that takes four bytes at most, and then ends. -/
theorem relay_symmetric_to_the_end :
    ([.data [1, 2, 3]] = ([] : Source) ∨ ([] : Source) = []) ∧
      Mirrored
        ((start { source := [.data [1, 2, 3]] } { sink := { limit := some 4 } }).after
          [(.upstream, .arrives (.data [7])), (.client, .arrives .finish)])
        ((start { sink := { limit := some 4 } } { source := [.data [1, 2, 3]] }).after
          [(.client, .arrives (.data [7])), (.upstream, .arrives .finish)]) :=
  ⟨.inr rfl, relay_symmetric { source := [.data [1, 2, 3]] } { sink := { limit := some 4 } } (.inr rfl)
    [(.upstream, .arrives (.data [7])), (.client, .arrives .finish)]⟩

end Relay

end MeshProxy
