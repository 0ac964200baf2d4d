import MeshProxy.Listening.Service
import Mathlib.Data.List.Induction
import Mathlib.Tactic.Common

/-!
# What a listener hands over

Anything may come to a listener at any time, and its loop may take a turn at any time, so a list of moments is a run,
and every order of arrivals, accept errors, requests to stop and turns is one. `AcceptLoop.Turned` says what a turn can
come to. From it follows what every moment keeps: the answers to the accepts are taken in the order in which they came
in, each once (`Service.Accepted`), and what is handed over does not hang on the sessions, which can be left out
altogether (`Service.bare`). `Service.accepts_until_stopped` puts this together with the end of the loop, which comes
with the first turn behind a request to stop.
-/

namespace MeshProxy

namespace AcceptLoop

/-- What a turn makes of a loop, and what it hands over. -/
inductive Turned (loop : AcceptLoop) : AcceptLoop → Option Connection → Prop where
  | rests :
    loop.closed = true →
    Turned loop loop none
  | stops :
    loop.closed = false →
    loop.stopping = true →
    Turned loop { loop with events := loop.events ++ [.closed], closed := true } none
  | waits :
    loop.closed = false →
    loop.stopping = false →
    loop.pending = [] →
    Turned loop loop none
  | takes {i : Incoming} {rest : List Incoming} :
    loop.closed = false →
    loop.stopping = false →
    loop.pending = i :: rest →
    Turned loop { loop with pending := rest, events := loop.events ++ [i.event] } i.connection?

lemma turned_turn (loop : AcceptLoop) : Turned loop loop.turn.1 loop.turn.2 := by
  simp only [turn]
  split
  case isTrue closed => exact .rests closed
  case isFalse live =>
    rw [Bool.not_eq_true] at live
    split
    case isTrue stop => exact .stops live stop
    case isFalse on =>
      rw [Bool.not_eq_true] at on
      split
      case h_1 none => exact .waits live on none
      case h_2 some => exact .takes live on some

variable {loop next : AcceptLoop} {c : Option Connection}

lemma Turned.stopping (td : Turned loop next c) : next.stopping = loop.stopping := by
  cases td <;> rfl

lemma Turned.nothing (td : Turned loop next c) (stop : loop.stopping = true) : c = none := by
  cases td with
  | rests => rfl
  | stops => rfl
  | waits => rfl
  | takes _ on => rw [on] at stop; cases stop

lemma Turned.closed_iff (td : Turned loop next c) :
    next.closed = true ↔ loop.closed = true ∨ loop.stopping = true := by
  cases td with
  | rests closed => simp [closed]
  | stops _ stop => simp [stop]
  | waits live on => simp [live, on]
  | takes live on => simp [live, on]

/-- A loop that goes on takes the first pending answer, if there is one. -/
lemma Turned.first (td : Turned loop next c) (live : loop.closed = false) (on : loop.stopping = false) :
    next.pending = loop.pending.drop 1 ∧ c.toList = (loop.pending.take 1).filterMap Incoming.connection? := by
  cases td with
  | rests closed => rw [live] at closed; cases closed
  | stops _ stop => rw [on] at stop; cases stop
  | waits _ _ none => simp [none]
  | @takes i rest _ _ pending =>
    rw [pending]
    refine ⟨rfl, ?_⟩
    cases connection : i.connection? <;> simp [connection]

end AcceptLoop

namespace Moment

variable {ι : Type}

/-- The answer to an accept that comes in at a moment. -/
def incoming? : Moment ι → Option Incoming
  | .event (.incoming i) => some i
  | _ => none

/-- What comes to the session with this number at a moment. -/
def input? (number : Nat) : Moment ι → Option ι
  | .session n input => if n = number then some input else none
  | _ => none

/-- A moment, unless it is about a session. -/
def heard? : Moment ι → Option (Moment Empty)
  | .event e => some (.event e)
  | .turn => some .turn
  | .session _ _ => none

end Moment

namespace Service

variable {σ ι : Type} {handling : Handling σ ι} {s : Service σ} {ms : List (Moment ι)}

/-- All answers to accepts that come in, in order. -/
def incomings (ms : List (Moment ι)) : List Incoming := ms.filterMap Moment.incoming?

/-- All that comes to the session with this number, in order. -/
def inputsTo (number : Nat) (ms : List (Moment ι)) : List ι := ms.filterMap (Moment.input? number)

/-! ## Single moments -/

@[simp] lemma after_nil : after handling s [] = s := rfl

@[simp] lemma after_cons (m : Moment ι) : after handling s (m :: ms) = after handling (s.step handling m) ms := rfl

lemma after_append (more : List (Moment ι)) :
    after handling s (ms ++ more) = after handling (after handling s ms) more :=
  List.foldl_append

@[simp] lemma dispatched_dispatch (c : Option Connection) :
    (dispatch handling s c).dispatched = s.dispatched ++ c.toList := by
  cases c <;> simp [dispatch, dispatched]

@[simp] lemma loop_dispatch (c : Option Connection) : (dispatch handling s c).loop = s.loop := by
  cases c <;> rfl

/-- A session that goes on stays where it is, and with its connection. -/
lemma dispatched_session (number : Nat) (input : ι) :
    (s.step handling (.session number input)).dispatched = s.dispatched := by
  -- `List.modify` keeps the length, and what is looked at here is not what it changes
  apply List.ext_getElem?
  intro n
  simp only [step, dispatched, List.getElem?_map, List.getElem?_modify]
  cases s.handed[n]? with
  | none => rfl
  | some h =>
    simp only [Option.map_eq_map, Option.map_some, Option.some.injEq]
    split <;> rfl

lemma dispatched_turn : (s.step handling .turn).dispatched = s.dispatched ++ s.loop.turn.2.toList :=
  dispatched_dispatch _

lemma loop_turn : (s.step handling .turn).loop = s.loop.turn.1 := loop_dispatch _

/-! ## What is taken -/

/-- The accepts have taken these answers, which came in first, and what was handed over and reported is theirs. -/
structure Accepted (taken incomings : List Incoming) (s : Service σ) : Prop where
  order : incomings = taken ++ s.loop.pending
  dispatched : s.dispatched = taken.filterMap Incoming.connection?
  events : s.loop.events = taken.map Incoming.event ++ if s.loop.closed then [.closed] else []

namespace Accepted

variable {taken incomings : List Incoming} {t : Service σ}

lemma turned (ac : Accepted taken incomings s) {next : AcceptLoop} {c : Option Connection}
    (td : s.loop.Turned next c) (loop : t.loop = next) (handed : t.dispatched = s.dispatched ++ c.toList) :
    ∃ taken', Accepted taken' incomings t := by
  cases td with
  | stops live =>
    refine ⟨taken, ?_, ?_, ?_⟩
    · rw [loop, ac.order]
    · simp [handed, ac.dispatched]
    · simp [loop, ac.events, live]
  | rests | waits =>
    refine ⟨taken, ?_, ?_, ?_⟩
    · rw [loop, ac.order]
    · simp [handed, ac.dispatched]
    · rw [loop, ac.events]
  | @takes i rest live _ pending =>
    refine ⟨taken ++ [i], ?_, ?_, ?_⟩
    · simp [loop, ac.order, pending]
    · cases connection : i.connection? <;> simp [handed, ac.dispatched, connection]
    · simp [loop, ac.events, live]

lemma step (ac : Accepted taken incomings s) (handling : Handling σ ι) (m : Moment ι) :
    ∃ taken', Accepted taken' (incomings ++ m.incoming?.toList) (s.step handling m) := by
  cases m with
  | turn =>
    simp only [Moment.incoming?, Option.toList_none, List.append_nil]
    exact ac.turned s.loop.turned_turn loop_turn dispatched_turn
  | session number input =>
    refine ⟨taken, ?_, ?_, ac.events⟩
    · simp [Moment.incoming?, ac.order, Service.step]
    · rw [dispatched_session, ac.dispatched]
  | event e =>
    cases e with
    | stop =>
      refine ⟨taken, ?_, ac.dispatched, ac.events⟩
      simp [Moment.incoming?, ac.order, Service.step, AcceptLoop.note]
    | incoming i =>
      refine ⟨taken, ?_, ac.dispatched, ac.events⟩
      simp [Moment.incoming?, ac.order, Service.step, AcceptLoop.note]

lemma after (ac : Accepted taken incomings s) (handling : Handling σ ι) (ms : List (Moment ι)) :
    ∃ taken', Accepted taken' (incomings ++ Service.incomings ms) (after handling s ms) := by
  -- what has been taken grows along the run, and what has come in with it
  induction ms generalizing s taken incomings with
  | nil =>
    refine ⟨taken, ?_⟩
    simpa [Service.incomings] using ac
  | cons m ms ih =>
    obtain ⟨taken', ac'⟩ := ac.step handling m
    obtain ⟨taken'', ac''⟩ := ih ac'
    refine ⟨taken'', ?_⟩
    have split : Service.incomings (m :: ms) = m.incoming?.toList ++ Service.incomings ms := by
      simp only [Service.incomings, List.filterMap_cons]
      cases m.incoming? <;> rfl
    rw [split, ← List.append_assoc]
    exact ac''

end Accepted

lemma accepted_start : Accepted [] [] ({} : Service σ) := ⟨rfl, rfl, rfl⟩

/-! ## The end of the loop -/

lemma stopping_step (m : Moment ι) :
    (s.step handling m).loop.stopping = true ↔ s.loop.stopping = true ∨ m = .event .stop := by
  cases m with
  | turn => simp [loop_turn, s.loop.turned_turn.stopping]
  | session number input => simp [step]
  | event e => cases e <;> simp [step, AcceptLoop.note]

lemma stopping_iff :
    (after handling s ms).loop.stopping = true ↔ s.loop.stopping = true ∨ .event .stop ∈ ms := by
  induction ms generalizing s with
  | nil => simp
  | cons m ms ih => rw [after_cons, ih, stopping_step, or_assoc, List.mem_cons, eq_comm (a := m)]

/-- Nothing is handed over behind a request to stop. -/
lemma dispatched_of_stopping (stop : s.loop.stopping = true) (ms : List (Moment ι)) :
    (after handling s ms).dispatched = s.dispatched := by
  induction ms generalizing s with
  | nil => rfl
  | cons m ms ih =>
    rw [after_cons, ih ((stopping_step m).mpr (.inl stop))]
    cases m with
    | turn =>
      rw [dispatched_turn, s.loop.turned_turn.nothing stop]
      exact List.append_nil _
    | session number input => exact dispatched_session number input
    | event e => rfl

lemma closed_step (m : Moment ι) :
    (s.step handling m).loop.closed = true ↔ s.loop.closed = true ∨ m = .turn ∧ s.loop.stopping = true := by
  cases m with
  | turn => simp [loop_turn, s.loop.turned_turn.closed_iff]
  | session number input => simp [step]
  | event e => cases e <;> simp [step, AcceptLoop.note]

/-- A run closes a listener by a turn, in front of which the loop was told to stop, before the run or in it. -/
lemma closed_iff :
    (after handling s ms).loop.closed = true ↔
      s.loop.closed = true ∨ s.loop.stopping = true ∧ .turn ∈ ms ∨ [.event .stop, .turn].Sublist ms := by
  induction ms generalizing s with
  | nil => simp
  | cons m ms ih =>
    -- a request to stop now counts for every later turn
    have sub : [.event .stop, .turn].Sublist (m :: ms) ↔
        [.event .stop, .turn].Sublist ms ∨ m = .event .stop ∧ .turn ∈ ms := by
      simp [List.sublist_cons_iff, eq_comm (a := m)]
    rw [after_cons, ih, closed_step, stopping_step, sub, List.mem_cons, eq_comm (a := Moment.turn), or_and_right,
      and_or_left, and_comm (a := m = .turn)]
    exact iff_of_eq (by ac_rfl)

/-! ## Going on -/

/-- Turns alone take what is pending, one after the other, if there is no request to stop. -/
lemma dispatched_turns (live : s.loop.closed = false) (on : s.loop.stopping = false) {n : Nat}
    (enough : s.loop.pending.length ≤ n) :
    (after handling s (List.replicate n .turn)).dispatched =
      s.dispatched ++ s.loop.pending.filterMap Incoming.connection? := by
  induction n generalizing s with
  | zero =>
    have none : s.loop.pending = [] := List.eq_nil_of_length_eq_zero (Nat.le_zero.mp enough)
    simp [none]
  | succ n ih =>
    have td := s.loop.turned_turn
    obtain ⟨rest, first⟩ := td.first live on
    have live' : (s.step handling .turn).loop.closed = false := by
      rw [← Bool.not_eq_true, loop_turn, td.closed_iff]
      simp [live, on]
    have on' : (s.step handling .turn).loop.stopping = false := by rw [loop_turn, td.stopping, on]
    have enough' : (s.step handling .turn).loop.pending.length ≤ n := by
      rw [loop_turn, rest, List.length_drop]
      exact Nat.sub_le_of_le_add enough
    rw [List.replicate_succ, after_cons, ih live' on' enough', dispatched_turn, first, loop_turn, rest,
      List.append_assoc, ← List.filterMap_append, List.take_append_drop]

/-! ## The sessions -/

/-- How connections are handled by a listener that does nothing with them. -/
def idle : Handling Unit Empty where
  start _ := ()
  step _ := nofun

/-- A service without its sessions. -/
def bare (s : Service σ) : Service Unit where
  loop := s.loop
  handed := s.dispatched.map fun c => ⟨c, ()⟩

@[simp] lemma dispatched_bare : s.bare.dispatched = s.dispatched := by
  simp only [bare, dispatched, List.map_map]
  rfl

lemma bare_congr {t : Service σ} (loop : t.loop = s.loop) (same : t.dispatched = s.dispatched) : t.bare = s.bare := by
  rw [bare, bare, loop, same]

/-- Without the sessions a moment is the same, or nothing if it is about one of them. -/
lemma bare_step (m : Moment ι) : (s.step handling m).bare = after idle s.bare m.heard?.toList := by
  cases m with
  | event e => rfl
  | session number input => exact bare_congr rfl (dispatched_session number input)
  | turn =>
    show _ = dispatch idle { s.bare with loop := s.loop.turn.1 } s.loop.turn.2
    rw [bare, loop_turn, dispatched_turn]
    cases s.loop.turn.2 <;> simp [dispatch, bare, idle]

lemma bare_after : (after handling s ms).bare = after idle s.bare (ms.filterMap Moment.heard?) := by
  induction ms generalizing s with
  | nil => rfl
  | cons m ms ih =>
    rw [after_cons, ih, bare_step, ← after_append]
    congr 1
    rw [List.filterMap_cons]
    cases m.heard? <;> rfl

variable {number : Nat} {h : Handed σ}

/-- A session has been there before a moment and has met what came to it, or it begins with the moment. -/
lemma handed_step {m : Moment ι} (there : (s.step handling m).handed[number]? = some h) :
    (∃ before, s.handed[number]? = some before ∧ h.connection = before.connection ∧
      h.session = (m.input? number).toList.foldl handling.step before.session) ∨
    h.session = handling.start h.connection := by
  cases m with
  | event e => exact .inl ⟨h, there, rfl, rfl⟩
  | turn =>
    simp only [step, dispatch] at there
    split at there
    case h_1 => exact .inl ⟨h, there, rfl, rfl⟩
    case h_2 c _ =>
      rw [List.getElem?_append] at there
      split at there
      case isTrue => exact .inl ⟨h, there, rfl, rfl⟩
      case isFalse =>
        obtain rfl := List.mem_singleton.mp (List.mem_of_getElem? there)
        exact .inr rfl
  | session n input =>
    simp only [step, List.getElem?_modify, Option.map_eq_map, Option.map_eq_some_iff] at there
    obtain ⟨before, there, rfl⟩ := there
    refine .inl ⟨before, there, ?_, ?_⟩
    · split <;> rfl
    · rw [Moment.input?]
      split <;> rfl

/-- A session has met nothing but what came to it. -/
lemma handed_after (there : (after handling ({} : Service σ) ms).handed[number]? = some h) :
    ∃ inputs, inputs <:+ inputsTo number ms ∧ h.session = inputs.foldl handling.step (handling.start h.connection) := by
  -- along the moments from the last one back: a session may begin at any of them
  induction ms using List.reverseRecOn generalizing h with
  | nil => cases there
  | append_singleton ms m ih =>
    rw [after_append, after_cons, after_nil] at there
    obtain ⟨before, there, same, session⟩ | start := handed_step there
    · obtain ⟨inputs, ⟨missed, eq⟩, met⟩ := ih there
      refine ⟨inputs ++ (m.input? number).toList, ⟨missed, ?_⟩, ?_⟩
      · rw [← List.append_assoc, eq, inputsTo, inputsTo, List.filterMap_append]
        rfl
      · rw [session, met, same, List.foldl_append]
    · exact ⟨[], List.nil_suffix, start⟩

/-! ## A whole run -/

/-- What a listener has done by the end of a run. -/
structure Account (handling : Handling σ ι) (ms : List (Moment ι)) (s : Service σ) : Prop where
  /-- The answers to the accepts are taken in the order in which they came in. Of these each connection is handed over
  once and each error is reported and passed over, and the last thing reported is that the listener is closed. -/
  accepted : ∃ taken, Accepted taken (incomings ms) s
  /-- The listener is closed exactly if its loop has taken a turn behind a request to stop. -/
  closed : s.loop.closed = true ↔ [.event .stop, .turn].Sublist ms
  /-- Nothing is handed over behind a request to stop, whatever is pending. -/
  stopped : ∀ before behind, ms = before ++ .event .stop :: behind →
    s.dispatched = (after handling {} before).dispatched
  /-- Until there is a request to stop the loop goes on: enough turns take everything that has come in. -/
  going : .event .stop ∉ ms → ∀ n, s.loop.pending.length ≤ n →
    (after handling s (List.replicate n .turn)).dispatched = (incomings ms).filterMap Incoming.connection?
  /-- Every connection handed over has a session of its own, which has met nothing but what came to it. -/
  handled : ∀ number h, s.handed[number]? = some h → ∃ inputs,
    inputs <:+ inputsTo number ms ∧ h.session = inputs.foldl handling.step (handling.start h.connection)
  /-- It makes no difference to the loop how connections are handled, and what comes to their sessions. -/
  apart : ∀ {σ' ι' : Type} (handling' : Handling σ' ι') (ms' : List (Moment ι')),
    ms'.filterMap Moment.heard? = ms.filterMap Moment.heard? →
    (after handling' {} ms').loop = s.loop ∧ (after handling' {} ms').dispatched = s.dispatched

/-- However connections are handled and whatever happens in whatever order, a listener hands over what it accepts, in
order, until it is told to stop. -/
theorem accepts_until_stopped (handling : Handling σ ι) (ms : List (Moment ι)) :
    Account handling ms (after handling {} ms) where
  accepted := accepted_start.after handling ms
  closed := by
    rw [closed_iff]
    simp
  stopped := by
    rintro before behind rfl
    rw [after_append, after_cons]
    exact dispatched_of_stopping rfl behind
  going := by
    intro on n enough
    obtain ⟨taken, ac⟩ := accepted_start.after handling ms
    have live : ¬ (after handling ({} : Service σ) ms).loop.closed = true := by
      rw [closed_iff]
      simpa using fun sub : [.event .stop, .turn].Sublist ms => on (sub.subset List.mem_cons_self)
    have on : ¬ (after handling ({} : Service σ) ms).loop.stopping = true := by
      rw [stopping_iff]
      simpa using on
    rw [Bool.not_eq_true] at live on
    have order : incomings ms = taken ++ _ := ac.order
    rw [dispatched_turns live on enough, ac.dispatched, order, List.filterMap_append]
  handled _ _ there := handed_after there
  apart := by
    intro σ' ι' handling' ms' same
    have eq : (after handling' {} ms').bare = (after handling {} ms).bare := by
      rw [bare_after, bare_after, same]
      rfl
    exact ⟨congrArg loop eq, by rw [← dispatched_bare, eq, dispatched_bare]⟩

/-- The error between two connections is passed over, and a connection that is pending when the loop stops is not handed
over. -/
example (a b c : Connection) (cause : IoFault) :
    (after idle {} [.event (.incoming (.connection a)), .event (.incoming (.fault cause)),
      .event (.incoming (.connection b)), .turn, .turn, .turn, .event (.incoming (.connection c)), .event .stop,
      .turn, .turn]).dispatched = [a, b] := rfl

end Service

end MeshProxy
