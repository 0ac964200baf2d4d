import MeshProxy.Proofs.Relay.Ending

/-!
# What a relay counts

A flow counts the bytes that it writes, however they are cut and whatever is refused, so what a direction has copied is
what its writer has received since the relay began (`Relay.Counts`). A relay that runs has its streams intact, and one
that is over was closed by a single direction (`Relay.Accounted`). Both hold whatever happens
(`Relay.Accounted.after`), also if more than one direction could have ended the relay, since the first that runs keeps
the other from it.
-/

namespace MeshProxy

namespace Flow

/-- A turn counts what it delivers. -/
lemma copied_run (sink : Sink) (flow : Flow) (source : Source) :
    (run sink flow source).flow.copied = flow.copied + (run sink flow source).delivered.length := by
  induction source generalizing sink flow with
  | nil =>
    simp only [run, rest]
    split
    · split <;> rfl
    · rfl
  | cons arrival unread ih =>
    cases arrival with
    | finish =>
      simp only [run, finish]
      split <;> rfl
    | fault e =>
      simp only [run]
      split
      · exact ih sink flow
      · rfl
    | data bytes =>
      simp only [run]
      split
      · simp only [finish]
        split <;> rfl
      · -- What the buffers of this chunk take is counted before the flow reads on.
        split
        · rfl
        · rw [Turn.after, ih, List.length_append, Nat.add_assoc]

end Flow

namespace Relay

variable {r : Relay} {base : Direction → Bytes}

/-- Since its writer had `before`, a direction has copied as many bytes as the writer has received. -/
def Counts (r : Relay) (before : Bytes) (d : Direction) : Prop :=
  ∃ relayed, r.delivered d = before ++ relayed ∧ r.copied d = relayed.length

/-- The account that a relay can be held to. -/
structure Accounted (r : Relay) (base : Direction → Bytes) : Prop where
  counts : ∀ d, r.Counts (base d) d
  running : r.ending = none → r.Intact
  ended : ∀ d result, r.ending = some (d, result) → r.Closed d result

lemma copied_eq (r : Relay) (d : Direction) : r.copied d = (r.flow d).copied := by
  cases d <;> rfl

lemma Counts.advance {before : Bytes} {d d' : Direction} (ct : r.Counts before d') (run : r.ending = none) :
    (r.advance d).Counts before d' := by
  obtain ⟨relayed, delivered, copied⟩ := ct
  by_cases own : d' = d
  · subst own
    refine ⟨relayed ++ (r.turn d').delivered, ?_, ?_⟩
    · rw [delivered_advance run, if_pos rfl, delivered, List.append_assoc]
    · rw [copied_eq, flow_advance run, if_pos rfl, turn_eq, Flow.copied_run, ← turn_eq, ← copied_eq, copied,
        List.length_append]
  · refine ⟨relayed, ?_, ?_⟩
    · rw [delivered_advance run, if_neg own, delivered]
    · rw [copied_eq, flow_advance run, if_neg own, ← copied_eq, copied]

lemma Counts.settle {before : Bytes} {d : Direction} (ct : r.Counts before d) (run : r.ending = none) :
    r.settle.Counts before d := by
  have backward := ct.advance (d := .backward) run
  cases en : (r.advance .backward).ending with
  | some x =>
    rw [Relay.settle, advance_of_ended en]
    exact backward
  | none => exact backward.advance en

lemma Counts.meet {before : Bytes} {d : Direction} (ct : r.Counts before d) (e : Happening) :
    (r.meet e.1 e.2).Counts before d := by
  obtain ⟨relayed, delivered, copied⟩ := ct
  refine ⟨relayed, ?_, ?_⟩
  · rw [delivered_meet, delivered]
  · rw [copied_eq, flow_meet, ← copied_eq, copied]

/-- Of two directions that could end a relay, the backward one does, and then the forward one does not run. -/
lemma Intact.settle_or_closed (it : r.Intact) (run : r.ending = none) :
    (r.settle.Intact ∧ r.settle.ending = none) ∨ ∃ d result, r.settle.Closed d result := by
  cases backward : r.due .backward with
  | some result =>
    have closed := it.closed_advance run backward
    rw [Relay.settle, advance_of_ended closed.ending]
    exact .inr ⟨_, _, closed⟩
  | none =>
    obtain ⟨it', run'⟩ := it.advance run backward
    cases forward : (r.advance .backward).due .forward with
    | some result => exact .inr ⟨_, _, it'.closed_advance run' forward⟩
    | none => exact .inl (it'.advance run' forward)

lemma accounted_settle (it : r.Intact) (run : r.ending = none) (counts : ∀ d, r.Counts (base d) d) :
    r.settle.Accounted base where
  counts d := (counts d).settle run
  running := by
    intro run'
    obtain ⟨it', -⟩ | ⟨d, result, closed⟩ := it.settle_or_closed run
    · exact it'
    · rw [closed.ending] at run'
      cases run'
  ended := by
    intro d result en
    obtain ⟨-, run'⟩ | ⟨d', result', closed⟩ := it.settle_or_closed run
    · rw [run'] at en
      cases en
    · have same := closed.ending
      rw [en] at same
      cases same
      exact closed

/-- A new relay has copied nothing yet, whatever its writers have received. -/
lemma accounted_start {client upstream : Endpoint} (it : Intact { client, upstream })
    (before : ∀ d, delivered { client, upstream } d = base d) : (start client upstream).Accounted base := by
  refine accounted_settle it rfl ?_
  intro d
  refine ⟨[], ?_, ?_⟩
  · rw [before, List.append_nil]
  · cases d <;> rfl

lemma Accounted.step (ac : r.Accounted base) (e : Happening) : (r.step e.1 e.2).Accounted base := by
  cases en : r.ending with
  | some x => rwa [step_of_ended en]
  | none =>
    rw [step_of_running en]
    refine accounted_settle ((ac.running en).meet e) ?_ ?_
    · rw [ending_meet, en]
    · exact fun d => (ac.counts d).meet e

lemma Accounted.after (ac : r.Accounted base) (es : List Happening) : (r.after es).Accounted base := by
  induction es generalizing r with
  | nil => exact ac
  | cons e es ih => exact ih (ac.step e)

/-- Bytes that are written in pieces count like any others. -/
example : (start { source := [.data [1, 2, 3], .finish] } { sink := { limit := some 2 } }).sessionEvents =
    [.halfClosed .forward 3, .closed] := by
  decide +kernel

end Relay

end MeshProxy
