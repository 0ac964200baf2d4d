import MeshProxy.Persona.Outbound
import MeshProxy.Proofs.Persona.Course

/-!
# What an outbound session meets

Once its dial is answered a session meets `Occurrence`s: something happens on one of its streams, the TLS handshake with a
server comes to an end, or the time for a handshake passes. They lead on from a course (`meetAll_follow`), and what each
peer supplies is read off them alone (`supplied`). None of them changes where a session goes (`meetAll_eq`), and nothing
changes one that is refused.

A handshake with a server goes on, and its two streams collect what happens, until something settles it
(`stage_of_unsettled`, `meetAll_of_settled`).
-/

namespace MeshProxy

open Relay (Side Happening arrivals arrivalsOf)

namespace Outbound

/-- What the upstream has received. -/
def toUpstream (s : Outbound) : Bytes := (s.upstream?.map (·.received)).getD []

/-- What the client has received. -/
def toClient (s : Outbound) : Bytes := s.client.received

/-- A session after all that happens on its streams. -/
def after (s : Outbound) (es : List Happening) : Outbound := es.foldl (fun s e => s.step e.1 e.2) s

/-- The state that a course leads to. -/
def follow (plan : Plan) (dest : Destination) (course : Course) : Outbound :=
  (((dial plan dest course.client).after course.early).answer course.reach course.peer).after
    course.later

/-- Something that a session meets once its dial is answered. -/
inductive Occurrence where
  /-- Something happens on one of its streams. -/
  | happens (e : Happening)
  /-- The TLS handshake with a server has come to an end. -/
  | concluded (outcome : Tls.Outcome)
  /-- The time for the TLS handshake has passed. -/
  | lapse
deriving DecidableEq

namespace Occurrence

/-- Whether it ends a TLS handshake with a server. -/
def settles : Occurrence → Bool
  | .happens _ => false
  | _ => true

def happening? : Occurrence → Option Happening
  | .happens e => some e
  | _ => none

end Occurrence

/-- What happens on the streams of a session. -/
def happenings (os : List Occurrence) : List Happening := os.filterMap Occurrence.happening?

/-- What a peer supplies. -/
def supplied (side : Side) (os : List Occurrence) : Source := arrivals side (happenings os)

/-- A session after something it meets. -/
def meet (s : Outbound) : Occurrence → Outbound
  | .happens e => s.step e.1 e.2
  | .concluded outcome => s.conclude outcome
  | .lapse => s.expire

/-- A session after all that it meets. -/
def meetAll (s : Outbound) (os : List Occurrence) : Outbound := os.foldl meet s

/-- All that a session meets in a course and after it, from the answer to its dial on. -/
def met (course : Course) (os : List Occurrence) : List Occurrence := course.later.map .happens ++ os

/-- All that the client supplies in a course and after it. -/
def ofClient (course : Course) (os : List Occurrence) : Source := course.fromClient ++ supplied .client os

/-- All that the peer behind the connection supplies. -/
def ofPeer (course : Course) (os : List Occurrence) : Source := course.fromPeer ++ supplied .upstream os

variable {s : Outbound}

@[simp] lemma happenings_append (os os' : List Occurrence) : happenings (os ++ os') = happenings os ++ happenings os' :=
  List.filterMap_append

@[simp] lemma happenings_happens (es : List Happening) : happenings (es.map .happens) = es := by
  induction es with
  | nil => rfl
  | cons e es ih => exact congrArg (e :: ·) ih

/-- What happens on the streams settles nothing. -/
lemma unsettled_of_happens (es : List Happening) : ∀ o ∈ es.map Occurrence.happens, o.settles = false := by
  intro o mem
  obtain ⟨e, -, rfl⟩ := List.mem_map.mp mem
  rfl

@[simp] lemma supplied_nil (side : Side) : supplied side [] = [] := rfl

@[simp] lemma supplied_append (side : Side) (os os' : List Occurrence) :
    supplied side (os ++ os') = supplied side os ++ supplied side os' := by
  simp [supplied]

lemma supplied_cons (side : Side) (o : Occurrence) (os : List Occurrence) :
    supplied side (o :: os) = supplied side [o] ++ supplied side os :=
  supplied_append side [o] os

/-- A stream that nobody reads keeps what is supplied. -/
lemma source_supplied (e : Endpoint) (side : Side) (event : StreamEvent) :
    (e.apply event).source = e.source ++ supplied side [.happens (side, event)] := by
  simp [Relay.source_apply, supplied, happenings, Occurrence.happening?, arrivals]

lemma supplied_met (side : Side) (course : Course) (os : List Occurrence) :
    supplied side (met course os) = arrivals side course.later ++ supplied side os := by
  simp [met, supplied]

/-- Nothing arrives with an occurrence that settles a handshake. -/
lemma supplied_of_settles {o : Occurrence} (st : o.settles = true) (side : Side) : supplied side [o] = [] := by
  cases o with
  | happens e => cases st
  | concluded outcome => rfl
  | lapse => rfl

@[simp] lemma meetAll_nil (s : Outbound) : s.meetAll [] = s := rfl

lemma meetAll_append (s : Outbound) (os os' : List Occurrence) :
    s.meetAll (os ++ os') = (s.meetAll os).meetAll os' := List.foldl_append

lemma after_eq_meetAll (s : Outbound) (es : List Happening) : s.after es = s.meetAll (es.map .happens) :=
  (List.foldl_map (f := Occurrence.happens) (g := meet)).symm

/-- What holds on whatever a session meets holds after all that it meets. -/
lemma meetAll_of_meet (Kept : Outbound → Prop) (kept : ∀ s o, Kept s → Kept (s.meet o)) (now : Kept s)
    (os : List Occurrence) : Kept (s.meetAll os) := by
  induction os generalizing s with
  | nil => exact now
  | cons o os ih => exact ih (kept s o now)

/-- What a session meets changes only how far it has come. -/
lemma meetAll_eq (s : Outbound) (os : List Occurrence) : s.meetAll os = { s with stage := (s.meetAll os).stage } := by
  refine meetAll_of_meet (fun t => t = { s with stage := t.stage }) ?_ rfl os
  intro t o eq
  have only : t.meet o = { t with stage := (t.meet o).stage } := by
    cases o with
    | happens e => rfl
    | concluded outcome =>
      simp only [meet, conclude]
      split <;> rfl
    | lapse =>
      simp only [meet, expire]
      split <;> rfl
  exact only.trans (congrArg (fun u : Outbound => { u with stage := (t.meet o).stage }) eq)

lemma hop_meetAll (s : Outbound) (os : List Occurrence) :
    (s.meetAll os).hop = s.hop ∧ (s.meetAll os).dials = s.dials := by
  rw [meetAll_eq]
  exact ⟨rfl, rfl⟩

lemma target_meetAll (s : Outbound) (os : List Occurrence) : (s.meetAll os).target = s.target := by
  rw [meetAll_eq]
  rfl

/-- A session that is over meets nothing more. -/
lemma stage_meetAll_of_refused {refused : Refused} (eq : s.stage = .refused refused)
    (os : List Occurrence) : (s.meetAll os).stage = .refused refused := by
  refine meetAll_of_meet (fun t => t.stage = .refused refused) ?_ eq os
  intro t o ended
  cases o <;> simp [meet, step, conclude, expire, ended]

lemma result_meetAll_of_refused {refused : Refused} (eq : s.stage = .refused refused) (os : List Occurrence) :
    (s.meetAll os).result? = some (.error refused.failure) := by
  simp only [result?, stage_meetAll_of_refused eq]

/-- A handshake with a server goes on until something settles it, and both streams collect what happens. -/
lemma stage_of_unsettled {client upstream : Endpoint} (eq : s.stage = .agreeing client upstream)
    {os : List Occurrence} (quiet : ∀ o ∈ os, o.settles = false) :
    (s.meetAll os).stage =
      .agreeing (client.after .client (happenings os)) (upstream.after .upstream (happenings os)) := by
  induction os generalizing s client upstream with
  | nil => exact eq
  | cons o os ih =>
    obtain ⟨now, later⟩ := List.forall_mem_cons.mp quiet
    cases o with
    | concluded outcome => cases now
    | lapse => cases now
    | happens e =>
      obtain ⟨side, event⟩ := e
      cases side with
      | client =>
        have next : (s.step .client event).stage = .agreeing (client.apply event) upstream := by simp [step, eq]
        exact ih next later
      | upstream =>
        have next : (s.step .upstream event).stage = .agreeing client (upstream.apply event) := by simp [step, eq]
        exact ih next later

/-- The first occurrence that settles the handshake finds in the streams what has happened until then. -/
lemma meetAll_of_settled {client upstream : Endpoint} (eq : s.stage = .agreeing client upstream)
    {before : List Occurrence} (quiet : ∀ o ∈ before, o.settles = false) (o : Occurrence) (later : List Occurrence) :
    s.meetAll (before ++ o :: later) =
      (Outbound.meet
        { s with
          stage := .agreeing (client.after .client (happenings before))
            (upstream.after .upstream (happenings before)) } o).meetAll later := by
  rw [meetAll_append, meetAll_eq s before, stage_of_unsettled eq quiet]
  rfl

lemma takeWhile_of_unsettled {before : List Occurrence} (quiet : ∀ o ∈ before, o.settles = false) {o : Occurrence}
    (st : o.settles = true) (later : List Occurrence) : (before ++ o :: later).takeWhile (!·.settles) = before := by
  rw [List.takeWhile_append_of_pos (by simpa using quiet), List.takeWhile_cons_of_neg (by simp [st]), List.append_nil]

/-! ## From a course on -/

/-- A session whose dial is answered at once follows a course. -/
theorem after_start (plan : Plan) (dest : Destination) (reach : Reach) (reads : Source) (sink : Sink)
    (es : List Happening) :
    (start plan dest reach { source := reads, sink }).after es =
      follow plan dest { reads, sink, reach, later := es } := rfl

/-- Until the dial is answered, the client's stream collects what arrives. -/
lemma dial_after (plan : Plan) (dest : Destination) (client : Endpoint) (es : List Happening) :
    (dial plan dest client).after es = dial plan dest (client.after .client es) := by
  induction es generalizing client with
  | nil => rfl
  | cons e es ih =>
    obtain ⟨side, event⟩ := e
    cases side with
    | client => exact ih (client.apply event)
    | upstream => exact ih client

/-- Whatever happens, no other dial is issued. -/
lemma dials_after (s : Outbound) (es : List Happening) : (s.after es).dials = s.dials := by
  rw [after_eq_meetAll, (hop_meetAll s _).2]

lemma dials_conclude (s : Outbound) (outcome : Tls.Outcome) : (s.conclude outcome).dials = s.dials :=
  (hop_meetAll s [.concluded outcome]).2

/-- The answer to a dial changes only how far a session has come. -/
lemma answer_eq (s : Outbound) (reach : Reach) (peer : Endpoint) :
    s.answer reach peer = { s with stage := (s.answer reach peer).stage } := by
  simp only [answer]
  split <;> rfl

lemma dials_answer (s : Outbound) (reach : Reach) (peer : Endpoint) : (s.answer reach peer).dials = s.dials := by
  rw [answer_eq]

lemma hop_answer (s : Outbound) (reach : Reach) (peer : Endpoint) : (s.answer reach peer).hop = s.hop := by
  rw [answer_eq]
  rfl

lemma target_answer (s : Outbound) (reach : Reach) (peer : Endpoint) : (s.answer reach peer).target = s.target := by
  rw [answer_eq]
  rfl

/-- The state in which the dial of a course has its answer. -/
def answered (plan : Plan) (dest : Destination) (course : Course) : Outbound :=
  (dial plan dest (course.client.after .client course.early)).answer course.reach course.peer

/-- The answer is where all that a session meets starts from. -/
lemma meetAll_follow (plan : Plan) (dest : Destination) (course : Course) (os : List Occurrence) :
    (follow plan dest course).meetAll os = (answered plan dest course).meetAll (met course os) := by
  rw [follow, dial_after, after_eq_meetAll, ← meetAll_append]
  rfl

/-- Every course issues the one dial. -/
lemma dials_follow (plan : Plan) (dest : Destination) (course : Course) :
    (follow plan dest course).dials = [(plan.nextHop dest).toText] := by
  rw [follow, dials_after, dials_answer, dials_after]
  rfl

end Outbound

end MeshProxy
