import MeshProxy.Proofs.Relay.Flow
import MeshProxy.Relay.Duplex
import Mathlib.Data.List.Infix

/-!
# What a step of a relay does

The two directions of a relay are alike, so everything is said of a direction `d`: what it has not read
(`Relay.unread`), the sink it writes to (`Relay.sink`), and what it has delivered (`Relay.delivered`). Letting one
direction run changes nothing of the other.

What a direction owes is measured against its `script`, all arrivals that its reader was ever supplied with, and the
bytes `base` that its writer had before the relay. A direction is `Pending` while it has spent a part of its script, and
`Waiting` when it has spent it all; `Relay.Ended` says how the script was spent by a direction that ended the relay.
`settle_cases` describes a step by these three.
-/

namespace MeshProxy

namespace Direction

/-- The side whose data a direction carries. -/
def origin : Direction → Relay.Side
  | .forward => .client
  | .backward => .upstream

/-- The side that a direction delivers to. -/
def goal : Direction → Relay.Side
  | .forward => .upstream
  | .backward => .client

def opposite : Direction → Direction
  | .forward => .backward
  | .backward => .forward

@[simp] lemma opposite_ne (d : Direction) : d.opposite ≠ d := by cases d <;> nofun

lemma eq_opposite_of_ne {d d' : Direction} (ne : d' ≠ d) : d' = d.opposite := by
  cases d <;> cases d' <;> first | rfl | exact absurd rfl ne

end Direction

namespace Relay

variable {r : Relay} {d d' : Direction} {base : Bytes} {script : Source}

/-- The stream on a side. -/
def endpoint (r : Relay) : Side → Endpoint
  | .client => r.client
  | .upstream => r.upstream

/-- What a direction remembers between its turns. -/
def flow (r : Relay) : Direction → Flow
  | .forward => r.forward
  | .backward => r.backward

/-- The arrivals that a direction has not read. -/
def unread (r : Relay) (d : Direction) : Source := (r.endpoint d.origin).source

/-- The sink that a direction writes to. -/
def sink (r : Relay) (d : Direction) : Sink := (r.endpoint d.goal).sink

/-- What the writer of a direction has received. -/
def delivered (r : Relay) (d : Direction) : Bytes := (r.endpoint d.goal).received

/-- The turn of a direction depends on its own reader, flow and writer only. -/
lemma turn_eq (r : Relay) (d : Direction) : r.turn d = Flow.run (r.sink d) (r.flow d) (r.unread d) := by
  cases d <;> rfl

/-! ## One direction runs -/

lemma advance_of_ended {x} (en : r.ending = some x) : r.advance d = r := by
  simp [advance, en]

/-- A turn that ends its direction ends the relay. -/
lemma ending_advance (run : r.ending = none) :
    (r.advance d).ending = (r.turn d).ending.map (d, ·) := by
  simp only [advance, run]
  split <;> rename_i e <;> cases d <;> simp [e, absorb, close, run]

/-- A turn leaves unread what it says, in its own direction. -/
lemma unread_advance (run : r.ending = none) :
    (r.advance d).unread d' = if d' = d then (r.turn d).unread else r.unread d' := by
  simp only [advance, run]
  split <;> cases d <;> cases d' <;> rfl

/-- A turn delivers in its own direction. -/
lemma delivered_advance (run : r.ending = none) :
    (r.advance d).delivered d' =
      if d' = d then r.delivered d ++ (r.turn d).delivered else r.delivered d' := by
  simp only [advance, run]
  split <;> cases d <;> cases d' <;> rfl

/-- A turn uses the sink of its own direction. -/
lemma sink_advance (run : r.ending = none) :
    (r.advance d).sink d' = if d' = d then (r.turn d).sink else r.sink d' := by
  simp only [advance, run]
  split <;> cases d <;> cases d' <;> rfl

/-- A turn moves its own flow on. -/
lemma flow_advance (run : r.ending = none) :
    (r.advance d).flow d' = if d' = d then (r.turn d).flow else r.flow d' := by
  simp only [advance, run]
  split <;> cases d <;> cases d' <;> rfl

/-! ## How a direction has spent its script -/

/-- A direction under way: what it has spent of its script is delivered, and the rest is unread. -/
def Pending (r : Relay) (d : Direction) (base : Bytes) (script : Source) : Prop :=
  ∃ spent : Source, script = spent ++ r.unread d ∧ spent.Passes ∧
    r.delivered d = base ++ spent.payload

/-- A direction that waits: nothing is unread, unflushed or undelivered. -/
structure Waiting (r : Relay) (d : Direction) (base : Bytes) (script : Source) : Prop where
  unread : r.unread d = []
  flushed : (r.flow d).unflushed = false
  passes : script.Passes
  delivered : r.delivered d = base ++ script.payload

/-- How the direction that ended a relay has spent its script; `eve` is the relay before its last turns. -/
inductive Ended (eve r : Relay) (d : Direction) (base : Bytes) (script : Source) :
    Except IoFault Unit → Prop where
  /-- An arrival ended the reader, and what came before it is delivered. -/
  | stopped {before rest : Source} {stop : Arrival} :
    script = before ++ stop :: rest →
    before.Passes →
    stop.stops = true →
    r.delivered d = base ++ before.payload →
    Ended eve r d base script (stop.verdict (eve.sink d).flushFault)
  /-- Everything is delivered, but it could not be flushed. -/
  | unflushed {e} :
    script.Passes →
    (eve.sink d).flushFault = some e →
    r.delivered d = base ++ script.payload →
    Ended eve r d base script (.error e)
  /-- A write failed, when the writer had taken all it had room for. -/
  | refused {n e} :
    (eve.sink d).room = some n →
    (eve.delivered d).length + n < (base ++ script.ahead).length →
    r.delivered d = (base ++ script.ahead).take ((eve.delivered d).length + n) →
    Ended eve r d base script (.error e)

/-- A direction that waits is under way with nothing unread. -/
lemma Waiting.pending (wt : r.Waiting d base script) : r.Pending d base script :=
  ⟨script, by simp [wt.unread], wt.passes, wt.delivered⟩

/-- What a direction under way has delivered lies ahead in its script. -/
lemma Pending.delivered_prefix (pd : r.Pending d base script) :
    r.delivered d <+: base ++ script.ahead := by
  obtain ⟨spent, rfl, ps, del⟩ := pd
  rw [del, ps.ahead_append, ← List.append_assoc]
  exact List.prefix_append _ _

/-- What a direction that ended has delivered lies ahead in its script. -/
lemma Ended.delivered_prefix {eve result} (ed : Ended eve r d base script result) :
    r.delivered d <+: base ++ script.ahead := by
  cases ed with
  | stopped eq ps st del =>
    rw [del, eq, ps.ahead_append, ← List.append_assoc]
    exact List.prefix_append _ _
  | unflushed ps _ del => rw [del, ps.ahead_eq]
  | refused _ _ del =>
    rw [del]
    exact List.take_prefix _ _

/-- A direction that ended well has delivered all that lies ahead in its script, which has an end. -/
lemma Ended.complete {eve} (ed : Ended eve r d base script (.ok ())) :
    r.delivered d = base ++ script.ahead ∧ ¬ script.Passes := by
  -- The cases split on the result, so it has to be a variable.
  generalize ok : (.ok () : Except IoFault Unit) = result at ed
  cases ed with
  | stopped eq ps st del =>
    rw [del, eq, ps.ahead_append, Source.ahead_cons_of_stops st, List.append_nil]
    exact ⟨rfl, by simp [st]⟩
  | unflushed => cases ok
  | refused => cases ok

/-- Only the sink and the bytes of the direction itself matter on the eve of its end. -/
lemma Ended.congr {eve eve' result} (ed : Ended eve r d base script result)
    (sk : eve.sink d = eve'.sink d) (dl : eve.delivered d = eve'.delivered d) :
    Ended eve' r d base script result := by
  cases ed with
  | stopped eq ps st del =>
    rw [sk]
    exact .stopped eq ps st del
  | unflushed ps ff del => exact .unflushed ps (sk ▸ ff) del
  | refused room lt del => exact .refused (sk ▸ room) (dl ▸ lt) (dl ▸ del)

/-- A direction under way stays so while the opposite one runs. -/
lemma Pending.advance_of_ne (pd : r.Pending d base script) (run : r.ending = none) (ne : d ≠ d') :
    (r.advance d').Pending d base script := by
  obtain ⟨spent, eq, ps, del⟩ := pd
  refine ⟨spent, ?_, ps, ?_⟩
  · rwa [unread_advance run, if_neg ne]
  · rwa [delivered_advance run, if_neg ne]

/-- A direction waits on while the opposite one runs. -/
lemma Waiting.advance_of_ne (wt : r.Waiting d base script) (run : r.ending = none) (ne : d ≠ d') :
    (r.advance d').Waiting d base script where
  unread := by rw [unread_advance run, if_neg ne, wt.unread]
  flushed := by rw [flow_advance run, if_neg ne, wt.flushed]
  passes := wt.passes
  delivered := by rw [delivered_advance run, if_neg ne, wt.delivered]

/-- A direction under way that runs comes to wait, or ends the relay. -/
lemma Pending.advance (pd : r.Pending d base script) (run : r.ending = none) :
    ((r.advance d).ending = none ∧ (r.advance d).Waiting d base script) ∨
      ∃ result, (r.advance d).ending = some (d, result) ∧
        Ended r (r.advance d) d base script result := by
  obtain ⟨spent, eq, ps, del⟩ := pd
  -- The turn speaks of what is unread; what was spent before stands in front of it throughout.
  have oc := Flow.outcome_run (r.sink d) (r.flow d) (r.unread d)
  have ah : script.ahead = spent.payload ++ (r.unread d).ahead := by rw [eq, ps.ahead_append]
  have del' : (r.advance d).delivered d = base ++ spent.payload ++ (r.turn d).delivered := by
    rw [delivered_advance run, if_pos rfl, del]
  rw [← turn_eq] at oc
  rw [ending_advance run]
  cases oc with
  | waits pss _ dl un fl en =>
    refine .inl ⟨by simp [en], ?_, ?_, by simp [eq, ps, pss], ?_⟩
    · rw [unread_advance run, if_pos rfl, un]
    · rw [flow_advance run, if_pos rfl, fl]
    · rw [del', dl, eq, Source.payload_append, List.append_assoc]
  | unflushed pss _ ff dl en =>
    refine .inr ⟨_, by rw [en]; rfl, .unflushed (by simp [eq, ps, pss]) ff ?_⟩
    rw [del', dl, eq, Source.payload_append, List.append_assoc]
  | @stopped before rest stop un pss st dl en =>
    have split : script = (spent ++ before) ++ stop :: rest := by rw [eq, un, List.append_assoc]
    refine .inr ⟨_, by rw [en]; rfl, .stopped split (by simp [ps, pss]) st ?_⟩
    rw [del', dl, Source.payload_append, List.append_assoc]
  | @refused n e room lt dl en =>
    refine .inr ⟨_, by rw [en]; rfl, .refused room ?_ ?_⟩
    · rw [del, ah]
      simp only [List.length_append]
      omega
    · rw [del', dl, del, ah, ← List.append_assoc, List.take_length_add_append]

/-- A direction with nothing to read and nothing to flush does not end the relay. -/
lemma ending_advance_of_idle (run : r.ending = none) (un : r.unread d = [])
    (fl : (r.flow d).unflushed = false) : (r.advance d).ending = none := by
  rw [ending_advance run, turn_eq, un]
  simp [Flow.run, Flow.rest, fl]

/-! ## Both directions run -/

/-- Something that happens on one side. -/
abbrev Happening := Side × StreamEvent

/-- What an event adds to what is to be read. -/
def arrivalsOf : StreamEvent → Source
  | .arrives arrival => [arrival]
  | _ => []

/-- What a reader on `side` is supplied with by what happens. -/
def arrivals (side : Side) (es : List Happening) : Source :=
  es.flatMap fun (place, event) => if place = side then arrivalsOf event else []

/-- The relay with an event on one of its streams, before anything runs. -/
def meet (r : Relay) (side : Side) (event : StreamEvent) : Relay :=
  match side with
  | .client => { r with client := r.client.apply event }
  | .upstream => { r with upstream := r.upstream.apply event }

@[simp] lemma arrivals_nil (side : Side) : arrivals side [] = [] := rfl

/-- What happens in a row brings its arrivals in a row. -/
@[simp] lemma arrivals_append (side : Side) (es es' : List Happening) :
    arrivals side (es ++ es') = arrivals side es ++ arrivals side es' :=
  List.flatMap_append

/-- What happens first brings its arrivals first. -/
lemma arrivals_cons (side : Side) (e : Happening) (es : List Happening) :
    arrivals side (e :: es) = arrivals side [e] ++ arrivals side es :=
  arrivals_append side [e] es

/-- An event adds its arrivals to what is unread on its side. -/
lemma source_apply (e : Endpoint) (event : StreamEvent) :
    (e.apply event).source = e.source ++ arrivalsOf event := by
  cases event <;> simp [Endpoint.apply, Endpoint.arrive, arrivalsOf]

/-- An event does not reach what has been received. -/
@[simp] lemma received_apply (e : Endpoint) (event : StreamEvent) :
    (e.apply event).received = e.received := by
  cases event <;> rfl

/-- An event adds its arrivals to what the direction from its side has not read. -/
lemma unread_meet (r : Relay) (d : Direction) (e : Happening) :
    (r.meet e.1 e.2).unread d = r.unread d ++ arrivals d.origin [e] := by
  obtain ⟨side, event⟩ := e
  cases side <;> cases d <;>
    simp [unread, endpoint, meet, Direction.origin, arrivals, source_apply]

/-- An event delivers nothing. -/
@[simp] lemma delivered_meet (r : Relay) (d : Direction) (e : Happening) :
    (r.meet e.1 e.2).delivered d = r.delivered d := by
  obtain ⟨side, event⟩ := e
  cases side <;> cases d <;> simp [delivered, endpoint, meet, Direction.goal]

/-- An event does not reach the flows. -/
@[simp] lemma flow_meet (r : Relay) (d : Direction) (e : Happening) :
    (r.meet e.1 e.2).flow d = r.flow d := by
  obtain ⟨side, event⟩ := e
  cases side <;> cases d <;> rfl

/-- An event does not end a relay by itself. -/
@[simp] lemma ending_meet (r : Relay) (e : Happening) : (r.meet e.1 e.2).ending = r.ending := by
  obtain ⟨side, event⟩ := e
  cases side <;> rfl

/-- A direction under way stays so when its reader is supplied with more. -/
lemma Pending.meet (pd : r.Pending d base script) (e : Happening) :
    (r.meet e.1 e.2).Pending d base (script ++ arrivals d.origin [e]) := by
  obtain ⟨spent, eq, ps, del⟩ := pd
  refine ⟨spent, ?_, ps, ?_⟩
  · rw [unread_meet, eq, List.append_assoc]
  · rw [delivered_meet, del]

/-- A running relay takes an event and then runs until it waits. -/
lemma step_of_running (run : r.ending = none) (e : Happening) :
    r.step e.1 e.2 = (r.meet e.1 e.2).settle := by
  obtain ⟨side, event⟩ := e
  cases side <;> simp [step, run, Relay.meet]

/-- Nothing changes a relay that has ended. -/
lemma step_of_ended {x} (en : r.ending = some x) (side : Side) (event : StreamEvent) :
    r.step side event = r := by
  simp [step, en]

/-- A relay that runs until it waits either has both directions wait, or is ended by one of them. The
other is under way then; the backward direction waits already if the forward one ends the relay, and the forward
one has not run if the backward one does. -/
lemma settle_cases {base : Direction → Bytes} {script : Direction → Source} (run : r.ending = none)
    (pd : ∀ d, r.Pending d (base d) (script d)) :
    (r.settle.ending = none ∧ ∀ d, r.settle.Waiting d (base d) (script d)) ∨
      ∃ d result, r.settle.ending = some (d, result) ∧
        Ended r r.settle d (base d) (script d) result ∧
        r.settle.Pending d.opposite (base d.opposite) (script d.opposite) ∧
        r.settle.unread d.opposite = if d = .forward then [] else r.unread d.opposite := by
  -- The backward direction runs first, and the forward one only if the relay still runs then.
  rcases (pd .backward).advance run with ⟨run', wt⟩ | ⟨result, en, ed⟩
  · have pd' : (r.advance .backward).Pending .forward (base .forward) (script .forward) :=
      (pd .forward).advance_of_ne run nofun
    rcases pd'.advance run' with ⟨run'', wt'⟩ | ⟨result, en, ed⟩
    · refine .inl ⟨run'', fun d => ?_⟩
      cases d with
      | forward => exact wt'
      | backward => exact wt.advance_of_ne run' nofun
    · have wt' : ((r.advance .backward).advance .forward).Waiting .backward (base .backward)
          (script .backward) := wt.advance_of_ne run' nofun
      refine .inr ⟨.forward, result, en, ed.congr ?_ ?_, wt'.pending, wt'.unread⟩
      · rw [sink_advance run, if_neg nofun]
      · rw [delivered_advance run, if_neg nofun]
  · have eq : r.settle = r.advance .backward := advance_of_ended en
    rw [eq]
    refine .inr ⟨.backward, result, en, ed, (pd .forward).advance_of_ne run nofun, ?_⟩
    rw [unread_advance run, if_neg nofun]
    rfl

/-- A direction with nothing to read and nothing to flush is not the one that ends a relay. -/
lemma ne_of_idle {result} (run : r.ending = none) (un : r.unread d' = [])
    (fl : (r.flow d').unflushed = false) (en : r.settle.ending = some (d, result)) : d ≠ d' := by
  rintro rfl
  cases d with
  | backward =>
    have run' := ending_advance_of_idle run un fl
    rw [settle, ending_advance run'] at en
    cases e : ((r.advance .backward).turn .forward).ending <;> simp [e] at en
  | forward =>
    -- Here the relay is either over already, by the backward direction, or this one still is idle.
    cases e : (r.advance .backward).ending with
    | some x =>
      rw [settle, advance_of_ended e, ending_advance run] at en
      cases e' : (r.turn .backward).ending <;> simp [e'] at en
    | none =>
      have un' : (r.advance .backward).unread .forward = [] := by
        rw [unread_advance run, if_neg nofun, un]
      have fl' : ((r.advance .backward).flow .forward).unflushed = false := by
        rw [flow_advance run, if_neg nofun, fl]
      rw [settle, ending_advance_of_idle e un' fl'] at en
      cases en

/-- Letting a direction run takes back nothing that was delivered. -/
lemma delivered_prefix_advance (r : Relay) (d d' : Direction) :
    r.delivered d' <+: (r.advance d).delivered d' := by
  cases en : r.ending with
  | some x => rw [advance_of_ended en]
  | none =>
    rw [delivered_advance en]
    split
    case isTrue eq =>
      rw [eq]
      exact List.prefix_append _ _
    case isFalse => exact List.prefix_refl _

/-- Letting both directions run takes back nothing that was delivered. -/
lemma delivered_prefix_settle (r : Relay) (d : Direction) : r.delivered d <+: r.settle.delivered d :=
  (delivered_prefix_advance r .backward d).trans (delivered_prefix_advance _ .forward d)

/-- Whatever happens, nothing that was delivered is taken back. -/
lemma delivered_prefix_step (r : Relay) (d : Direction) (e : Happening) :
    r.delivered d <+: (r.step e.1 e.2).delivered d := by
  cases en : r.ending with
  | some x => rw [step_of_ended en]
  | none =>
    rw [step_of_running en, ← delivered_meet r d e]
    exact delivered_prefix_settle _ d

/-- A relay after all that happens. -/
def after (r : Relay) (es : List Happening) : Relay := es.foldl (fun r e => r.step e.1 e.2) r

@[simp] lemma after_nil (r : Relay) : r.after [] = r := rfl

@[simp] lemma after_cons (r : Relay) (e : Happening) (es : List Happening) :
    r.after (e :: es) = (r.step e.1 e.2).after es := rfl

@[simp] lemma after_append (r : Relay) (es es' : List Happening) :
    r.after (es ++ es') = (r.after es).after es' :=
  List.foldl_append

/-- Whatever happens, an ended relay stays as it is. -/
lemma after_of_ended {x} (en : r.ending = some x) (es : List Happening) : r.after es = r := by
  induction es with
  | nil => rfl
  | cons e es ih => rw [after_cons, step_of_ended en, ih]

end Relay

end MeshProxy
