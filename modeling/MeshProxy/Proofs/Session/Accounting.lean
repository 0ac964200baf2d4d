import MeshProxy.Listening.Role
import MeshProxy.Proofs.Persona.Atomicity
import MeshProxy.Proofs.Relay.Counting

/-!
# What the log of a session accounts for

While a session runs, its log says neither that it is over nor that a direction has closed. When it is over, the last
record says how, and a single half-close in front of it says how much was relayed, if all went well (`Session.Logged`).
Nothing in the log is ever taken back.

A session writes more than it relays: the rendezvous goes to its client, or the preamble to its upstream. Each persona
has an invariant, `Booked`, by which a relay begins with just this written, so what the relay counts from then on is what
it relays (`Relay.Accounted`). `Session.logs_account` puts the three kinds of session together.
-/

namespace MeshProxy

open Relay (Side Happening)

namespace Relay

variable {r : Relay}

lemma sessionEvents_of_running (run : r.ending = none) : r.sessionEvents = [] := by
  rw [sessionEvents, result?, run]
  rfl

lemma sessionEvents_prefix_after (r : Relay) (es : List Happening) :
    r.sessionEvents <+: (r.after es).sessionEvents := by
  cases en : r.ending with
  | some x => rw [after_of_ended en]
  | none =>
    rw [sessionEvents_of_running en]
    exact List.nil_prefix

end Relay

namespace Session

variable {span : Log.Span} {before : Direction → Bytes}

/-- A record that neither concludes a session nor tells of a half-close. -/
def Plain (r : Log.Record) : Prop := r.target ≠ "sidecar::session" ∧ r.message ≠ "half-close"

/-- The record that concludes a session in which a failure happened. -/
inductive Concludes (span : Log.Span) : Failure → Log.Record → Prop where
  | ordinary (cause : IoFault) :
    Concludes span (.relay cause)
      { level := .debug, target := "sidecar::session", message := "session closed", span := some span
        fields := [("kind", .text "relay"), ("error", .text (Failure.relay cause).message)] }
  | loop (target : String) :
    Concludes span (.loopback target)
      { level := .warn, target := "sidecar::session", span := some span
        message := "refusing session; check next-hop configuration"
        fields := [("kind", .text "loopback"), ("error", .text (Failure.loopback target).message)] }
  | failed {failure : Failure} :
    failure.kind ∈ ["resolution", "dial", "handshake"] →
    Concludes span failure
      { level := .warn, target := "sidecar::session", message := "session failed", span := some span
        fields := [("kind", .text failure.kind), ("error", .text failure.message)] }

/-- The log of a session of which `result` is the result so far, and `relay` the relay if it has come to one; the
writers of the relay had received `before` when it began. -/
inductive Logged (span : Log.Span) (before : Direction → Bytes) (relay : Option Relay) :
    Option (Except Failure Unit) → List Log.Record → Prop where
  | running {log : List Log.Record} :
    (∀ r ∈ log, Plain r) →
    Logged span before relay none log
  /-- One direction has closed the relay, and `relayed` is what it has delivered. -/
  | closed {log : List Log.Record} {r : Relay} {d : Direction} {relayed : Bytes} :
    (∀ r ∈ log, Plain r) →
    relay = some r →
    r.Closed d (.ok ()) →
    r.delivered d = before d ++ relayed →
    Logged span before relay (some (.ok ())) (log ++ [
      { level := .debug, target := "sidecar::relay", message := "half-close"
        fields := [("label", .text d.label), ("bytes", .number relayed.length)]
        span := if d = .forward then none else some span },
      { level := .debug, target := "sidecar::session", message := "session closed", span := some span }])
  | failed {log : List Log.Record} {failure : Failure} {last : Log.Record} :
    (∀ r ∈ log, Plain r) →
    Concludes span failure last →
    Logged span before relay (some (.error failure)) (log ++ [last])

/-- The records of events. -/
def log (span : Log.Span) (events : List SessionEvent) : List Log.Record := events.map (SessionEvent.record span)

lemma plain_nil : ∀ r ∈ log span [], Plain r := nofun

lemma plain_singleton {event : SessionEvent} (plain : Plain (event.record span)) :
    ∀ r ∈ log span [event], Plain r := by
  intro r mem
  rw [log, List.map_singleton, List.mem_singleton] at mem
  rwa [mem]

lemma concludes_record (span : Log.Span) (failure : Failure) :
    Concludes span failure ((SessionEvent.failed failure).record span) := by
  cases failure with
  | relay cause => exact .ordinary cause
  | loopback target => exact .loop target
  | resolution => exact .failed (by simp [Failure.kind])
  | dial => exact .failed (by simp [Failure.kind])
  | handshake => exact .failed (by simp [Failure.kind])

lemma logged_of_refused {relay : Option Relay} {opening : List SessionEvent} {failure : Failure}
    (plain : ∀ r ∈ log span opening, Plain r) :
    Logged span before relay (some (.error failure)) (log span (opening ++ [.failed failure])) := by
  rw [log, List.map_append]
  exact .failed plain (concludes_record span failure)

/-- A relay has its log accounted for behind whatever the session has reported before. -/
lemma logged_of_accounted {r : Relay} {opening : List SessionEvent} (ac : r.Accounted before)
    (plain : ∀ r ∈ log span opening, Plain r) :
    Logged span before (some r) r.result? (log span (opening ++ r.sessionEvents)) := by
  cases en : r.ending with
  | none =>
    have result : r.result? = none := Option.map_eq_none_iff.mpr en
    rw [Relay.sessionEvents_of_running en, result, List.append_nil]
    exact .running plain
  | some ended =>
    obtain ⟨d, result⟩ := ended
    have closed := ac.ended d result en
    rw [Relay.sessionEvents, closed.session]
    cases result with
    | error cause =>
      have none : r.events = [] := by rw [Relay.events, en]
      rw [none]
      exact logged_of_refused plain
    | ok =>
      -- What was copied is what was delivered behind what the writer had before.
      obtain ⟨relayed, delivered, copied⟩ := ac.counts d
      have one : r.events = [.halfClosed d relayed.length] := by rw [Relay.events, en, ← copied]
      rw [one, log, List.map_append]
      exact .closed plain rfl closed delivered

end Session

/-! ## Streams that nothing was written to -/

/-- A stream that is held, and to which nothing was written. -/
structure Endpoint.Fresh (e : Endpoint) : Prop where
  held : e.Held
  received : e.received = []

lemma Endpoint.Fresh.apply {e : Endpoint} (fr : e.Fresh) (event : StreamEvent) : (e.apply event).Fresh where
  held := fr.held.apply event
  received := by rw [Relay.received_apply, fr.received]

/-- A relay between streams that are held is accounted for. -/
lemma Relay.accounted_of_held {client upstream : Endpoint} {forward backward : Bytes} (ch : client.Held)
    (uh : upstream.Held) (up : upstream.received = forward) (down : client.received = backward) :
    (start client upstream).Accounted (Direction.each forward backward) := by
  refine accounted_start ?_ (Direction.eq_each up down)
  intro side
  cases side
  · exact ⟨ch.dropped, ch.shut⟩
  · exact ⟨uh.dropped, uh.shut⟩

/-! ## Inbound sessions -/

namespace Inbound

/-- The relay of a session, once there is one. -/
def relay? : Inbound → Option Relay
  | .relaying _ relay => some relay
  | _ => none

/-- Before the relay nothing is written to the client but the rendezvous. -/
inductive Booked : Inbound → Prop where
  | greeting {client : Endpoint} :
    client.Fresh →
    Booked (.greeting client)
  | dialing {client : Endpoint} {target : String} :
    client.Fresh →
    Booked (.dialing client target)
  | refused {client : Endpoint} {dialed : Option String} {upstream : Option Endpoint} {failure : Failure} :
    Booked (.refused client dialed upstream failure)
  | relaying {target : String} {relay : Relay} :
    relay.Accounted (Direction.each [] [Rendezvous.byte]) →
    Booked (.relaying target relay)

variable {s : Inbound} {client upstream : Endpoint}

lemma booked_greet (own : String) (fr : client.Fresh) : (greet own client).Booked := by
  have rest (source : Source) : Endpoint.Fresh { client with source } :=
    ⟨⟨fr.held.dropped, fr.held.shut⟩, fr.received⟩
  simp only [greet]
  split
  case h_1 => exact .greeting (rest _)
  case h_2 => exact .refused
  case h_3 =>
    simp only [dial]
    split
    · exact .refused
    · exact .dialing (rest _)

lemma booked_connect (target : String) (fr : client.Fresh) (up : upstream.Fresh) :
    (connect client upstream target).Booked := by
  simp only [connect]
  split
  case h_1 => exact .refused
  case h_2 sent =>
    refine .relaying (Relay.accounted_of_held ⟨fr.held.dropped, fr.held.shut⟩ up.held up.received ?_)
    simp [Endpoint.absorb, fr.received, (Rendezvous.fault_send sent).1]

lemma Booked.react (bk : s.Booked) (own : String) (side : Side) (event : StreamEvent) :
    (s.react own side event).Booked := by
  cases bk with
  | greeting fr =>
    cases side with
    | client => exact booked_greet own (fr.apply event)
    | upstream => exact .greeting fr
  | dialing fr =>
    cases side with
    | client => exact .dialing (fr.apply event)
    | upstream => exact .dialing fr
  | refused => exact .refused
  | relaying ac => exact .relaying (ac.step (side, event))

lemma Booked.after (bk : s.Booked) (own : String) (es : List Happening) : (s.after own es).Booked := by
  induction es generalizing s with
  | nil => exact bk
  | cons e es ih => exact ih (bk.react own e.1 e.2)

lemma Booked.answer (bk : s.Booked) (reach : Reach) (up : upstream.Fresh) : (s.answer reach upstream).Booked := by
  cases bk with
  | greeting fr => exact .greeting fr
  | refused => exact .refused
  | relaying ac => exact .relaying ac
  | dialing fr =>
    cases reach with
    | silent => exact .dialing fr
    | refused cause => exact .refused
    | connected far => exact booked_connect _ fr up

lemma booked_follow (own : String) (course : Course) : (follow own course).Booked := by
  have client : course.client.Fresh := ⟨⟨rfl, rfl⟩, rfl⟩
  have peer : course.peer.Fresh := ⟨⟨rfl, rfl⟩, rfl⟩
  exact (((booked_greet own client).after own course.early).answer course.reach peer).after own course.later

lemma Booked.logged (bk : s.Booked) (span : Log.Span) :
    Session.Logged span (Direction.each [] [Rendezvous.byte]) s.relay? s.result? (Session.log span s.events) := by
  cases bk with
  | greeting => exact .running nofun
  | dialing => exact .running nofun
  | refused => exact Session.logged_of_refused Session.plain_nil
  | @relaying target relay ac =>
    have plain : Session.Plain ((SessionEvent.destinationConnected target).record span) := by
      simp [Session.Plain, SessionEvent.record]
    exact Session.logged_of_accounted ac (Session.plain_singleton plain)

lemma events_prefix_react (s : Inbound) (own : String) (side : Side) (event : StreamEvent) :
    s.events <+: (s.react own side event).events := by
  cases s with
  | greeting => exact List.nil_prefix
  | dialing => exact List.nil_prefix
  | refused => exact List.prefix_rfl
  | relaying target relay =>
    exact (List.prefix_cons_inj _).mpr (relay.sessionEvents_prefix_after [(side, event)])

lemma events_prefix_after (s : Inbound) (own : String) (es : List Happening) :
    s.events <+: (s.after own es).events := by
  induction es generalizing s with
  | nil => exact List.prefix_rfl
  | cons e es ih => exact (s.events_prefix_react own e.1 e.2).trans (ih _)

lemma events_prefix_answer (s : Inbound) (reach : Reach) (upstream : Endpoint) :
    s.events <+: (s.answer reach upstream).events := by
  cases s with
  | dialing => exact List.nil_prefix
  | _ => exact List.prefix_rfl

end Inbound

/-! ## Outbound sessions -/

namespace Outbound

/-- The relay of a session, once there is one. -/
def relay? (s : Outbound) : Option Relay :=
  match s.stage with
  | .relaying relay => some relay
  | _ => none

namespace Stage

/-- Before the relay nothing is written to the upstream but the preamble. -/
inductive Booked (target : String) : Stage → Prop where
  | dialing {client : Endpoint} :
    client.Fresh →
    Booked target (.dialing client)
  | securing {client upstream : Endpoint} {tls : Tls.Client} :
    client.Fresh →
    upstream.Fresh →
    Booked target (.securing client upstream tls)
  | agreeing {client upstream : Endpoint} :
    client.Fresh →
    upstream.Fresh →
    Booked target (.agreeing client upstream)
  | greeting {client upstream : Endpoint} :
    client.Fresh →
    upstream.Held →
    upstream.received = bytesOf target →
    Booked target (.greeting client upstream)
  | refused {refused : Refused} :
    Booked target (.refused refused)
  | relaying {relay : Relay} :
    relay.Accounted (Direction.each (bytesOf target) []) →
    Booked target (.relaying relay)

variable {target host : String} {client upstream : Endpoint}

lemma booked_await (fr : client.Fresh) (uh : upstream.Held) (sent : upstream.received = bytesOf target) :
    (await client upstream).Booked target := by
  simp only [await]
  split
  case h_1 => exact .greeting fr ⟨uh.dropped, uh.shut⟩ sent
  case h_2 => exact .refused
  case h_3 => exact .relaying (Relay.accounted_of_held fr.held ⟨uh.dropped, uh.shut⟩ sent fr.received)

lemma booked_greet (fr : client.Fresh) (up : upstream.Fresh) : (greet client upstream target).Booked target := by
  simp only [greet]
  split
  case h_1 => exact .refused
  case h_2 ok =>
    refine booked_await fr ⟨up.held.dropped, up.held.shut⟩ ?_
    simp [Endpoint.absorb, up.received, (Preamble.fault_send ok).1]

lemma booked_secure (fr : client.Fresh) (up : upstream.Fresh) (tls : Tls.Client) :
    (secure client upstream tls host).Booked target := by
  rcases secure_cases client upstream tls host with eq | ⟨refused, cause, rest, eq, -⟩
  · rw [eq]
    exact .securing fr up
  · rw [eq]
    exact .refused

lemma booked_handshake (fr : client.Fresh) (up : upstream.Fresh) (policy : Tls.Policy) (far : Far) :
    (handshake client upstream policy far host).Booked target := by
  simp only [handshake]
  split
  case h_1 => exact .refused
  case h_2 => exact .refused
  case h_3 => exact booked_secure fr up _
  case h_4 => exact .agreeing fr up

lemma booked_conclude (fr : client.Fresh) (up : upstream.Fresh) (outcome : Tls.Outcome) :
    (conclude client upstream outcome host target).Booked target := by
  cases outcome with
  | agreed => exact booked_greet fr up
  | refusedByClient fault => exact .refused
  | refusedByServer fault => exact .refused
  | broken cause => exact .refused

end Stage

variable {s : Outbound} {target : String} {upstream : Endpoint}

lemma booked_step (bk : s.stage.Booked target) (e : Happening) : (s.step e.1 e.2).stage.Booked target := by
  obtain ⟨plan, dest, dials, stage⟩ := s
  obtain ⟨side, event⟩ := e
  cases bk with
  | refused => exact .refused
  | relaying ac => exact .relaying (ac.step (side, event))
  | dialing fr =>
    cases side with
    | client => exact .dialing (fr.apply event)
    | upstream => exact .dialing fr
  | securing fr up =>
    cases side with
    | client => exact .securing (fr.apply event) up
    | upstream => exact Stage.booked_secure fr (up.apply event) _
  | agreeing fr up =>
    cases side with
    | client => exact .agreeing (fr.apply event) up
    | upstream => exact .agreeing fr (up.apply event)
  | greeting fr uh sent =>
    cases side with
    | client => exact .greeting (fr.apply event) uh sent
    | upstream => exact Stage.booked_await fr (uh.apply event) (by rw [Relay.received_apply, sent])

lemma booked_meet (bk : s.stage.Booked s.target) (o : Occurrence) : (s.meet o).stage.Booked s.target := by
  cases o with
  | happens e => exact booked_step bk e
  | concluded outcome =>
    obtain ⟨plan, dest, dials, stage⟩ := s
    cases stage with
    | agreeing client upstream =>
      cases bk with
      | agreeing fr up => exact Stage.booked_conclude fr up outcome
    | _ => exact bk
  | lapse =>
    obtain ⟨plan, dest, dials, stage⟩ := s
    cases stage with
    | securing client upstream tls => exact .refused
    | agreeing client upstream => exact .refused
    | _ => exact bk

lemma booked_meetAll (bk : s.stage.Booked s.target) (os : List Occurrence) :
    (s.meetAll os).stage.Booked s.target := by
  refine (meetAll_of_meet (fun t => t.stage.Booked s.target ∧ t.target = s.target) ?_ ⟨bk, rfl⟩ os).1
  rintro t o ⟨kept, same⟩
  rw [← same] at kept ⊢
  exact ⟨booked_meet kept o, target_meetAll t [o]⟩

lemma booked_answer (plan : Plan) (dest : Destination) {client : Endpoint} (fr : client.Fresh) (up : upstream.Fresh)
    (reach : Reach) : ((dial plan dest client).answer reach upstream).stage.Booked dest.toText := by
  cases reach with
  | silent => exact .dialing fr
  | refused cause => exact .refused
  | connected far =>
    simp only [dial, answer]
    split
    · exact Stage.booked_greet fr up
    · exact .refused
    · exact Stage.booked_handshake fr up _ _

/-- Until its dial is answered, a session only collects what its client sends. -/
lemma booked_follow (plan : Plan) (dest : Destination) (course : Course) (os : List Occurrence) :
    ((follow plan dest course).meetAll os).stage.Booked dest.toText := by
  have client : (course.client.after .client course.early).Fresh := by
    have held : course.client.Held := ⟨rfl, rfl⟩
    exact ⟨held.after .client course.early, Endpoint.received_after _ _ _⟩
  have peer : course.peer.Fresh := ⟨⟨rfl, rfl⟩, rfl⟩
  have target : (answered plan dest course).target = dest.toText := target_answer _ _ _
  have bk : (answered plan dest course).stage.Booked dest.toText := booked_answer plan dest client peer course.reach
  rw [← target] at bk ⊢
  rw [meetAll_follow]
  exact booked_meetAll bk _

lemma logged_of_booked (bk : s.stage.Booked target) (span : Log.Span) :
    Session.Logged span (Direction.each (bytesOf target) []) s.relay? s.result? (Session.log span s.events) := by
  have plain : Session.Plain (s.connectedEvent.record span) := by
    simp [Session.Plain, connectedEvent, SessionEvent.record]
  obtain ⟨plan, dest, dials, stage⟩ := s
  cases bk with
  | dialing => exact .running Session.plain_nil
  | securing => exact .running Session.plain_nil
  | agreeing => exact .running Session.plain_nil
  | greeting => exact .running (Session.plain_singleton plain)
  | relaying ac => exact Session.logged_of_accounted ac (Session.plain_singleton plain)
  | @refused refused =>
    simp only [relay?, result?, events]
    split
    · exact Session.logged_of_refused (Session.plain_singleton plain)
    · exact Session.logged_of_refused Session.plain_nil

lemma events_prefix_meet (s : Outbound) (o : Occurrence) : s.events <+: (s.meet o).events := by
  obtain ⟨plan, dest, dials, stage⟩ := s
  cases stage with
  | dialing => exact List.nil_prefix
  | securing => exact List.nil_prefix
  | agreeing => exact List.nil_prefix
  | refused => cases o <;> exact List.prefix_rfl
  | relaying relay =>
    cases o with
    | concluded => exact List.prefix_rfl
    | lapse => exact List.prefix_rfl
    | happens e => exact (List.prefix_cons_inj _).mpr (relay.sessionEvents_prefix_after [e])
  | greeting client upstream =>
    cases o with
    | concluded => exact List.prefix_rfl
    | lapse => exact List.prefix_rfl
    | happens e =>
      obtain ⟨side, event⟩ := e
      cases side with
      | client => exact List.prefix_rfl
      | upstream =>
        -- However the wait goes on, the next hop stays connected.
        simp only [meet, step, Stage.await]
        split
        case h_1 => exact List.prefix_rfl
        case h_2 => exact List.prefix_append _ _
        case h_3 => exact List.prefix_append _ _

lemma events_prefix_meetAll (s : Outbound) (os : List Occurrence) : s.events <+: (s.meetAll os).events :=
  meetAll_of_meet (fun t => s.events <+: t.events) (fun t o pre => pre.trans (t.events_prefix_meet o)) List.prefix_rfl os

lemma events_prefix_answer (s : Outbound) (reach : Reach) (upstream : Endpoint) :
    s.events <+: (s.answer reach upstream).events := by
  obtain ⟨plan, dest, dials, stage⟩ := s
  cases stage with
  | dialing => exact List.nil_prefix
  | _ => exact List.prefix_rfl

end Outbound

/-! ## Every session -/

namespace Session

open Outbound (Occurrence)

/-- What the logs of sessions with this span account for. -/
structure Account (span : Log.Span) : Prop where
  /-- A session that is a relay alone. -/
  relay : ∀ (clientReads upstreamReads : Source) (clientSink upstreamSink : Sink) (es : List Happening) (r : Relay),
    r = (Relay.start { source := clientReads, sink := clientSink }
      { source := upstreamReads, sink := upstreamSink }).after es →
    Logged span (Direction.each [] []) (some r) r.result? (log span r.sessionEvents)
  inbound : ∀ (own : String) (course : Course) (s : Inbound), s = Inbound.follow own course →
    Logged span (Direction.each [] [Rendezvous.byte]) s.relay? s.result? (log span s.events)
  outbound : ∀ (plan : Plan) (dest : Destination) (course : Course) (os : List Occurrence) (s : Outbound),
    s = (Outbound.follow plan dest course).meetAll os →
    Logged span (Direction.each (bytesOf dest.toText) []) s.relay? s.result? (log span s.events)
  /-- A session that fails before a persona takes it on. -/
  unstarted : ∀ (before : Direction → Bytes) (failure : Failure),
    Logged span before none (some (.error failure)) (log span [.failed failure])
  /-- Nothing is taken back, whatever happens. -/
  relay_grows : ∀ (r : Relay) (es : List Happening), log span r.sessionEvents <+: log span (r.after es).sessionEvents
  inbound_grows : ∀ s : Inbound, (∀ own es, log span s.events <+: log span (s.after own es).events) ∧
    ∀ reach upstream, log span s.events <+: log span (s.answer reach upstream).events
  outbound_grows : ∀ s : Outbound, (∀ os, log span s.events <+: log span (s.meetAll os).events) ∧
    ∀ reach upstream, log span s.events <+: log span (s.answer reach upstream).events

/-- Whatever the role and the peer of a session are and whatever happens to it, its log accounts for it. -/
theorem logs_account (role : Role) (peer : SocketAddress) : Account (.of role peer) where
  relay := by
    rintro clientReads upstreamReads clientSink upstreamSink es _ rfl
    have client : Endpoint.Held { source := clientReads, sink := clientSink } := ⟨rfl, rfl⟩
    have upstream : Endpoint.Held { source := upstreamReads, sink := upstreamSink } := ⟨rfl, rfl⟩
    exact logged_of_accounted ((Relay.accounted_of_held client upstream rfl rfl).after es) plain_nil
  inbound := by
    rintro own course _ rfl
    exact (Inbound.booked_follow own course).logged _
  outbound := by
    rintro plan dest course os _ rfl
    exact Outbound.logged_of_booked (Outbound.booked_follow plan dest course os) _
  unstarted before failure := logged_of_refused plain_nil
  relay_grows r es := (r.sessionEvents_prefix_after es).map _
  inbound_grows s := by
    constructor
    · exact fun own es => (s.events_prefix_after own es).map _
    · exact fun reach upstream => (s.events_prefix_answer reach upstream).map _
  outbound_grows s := by
    constructor
    · exact fun os => (s.events_prefix_meetAll os).map _
    · exact fun reach upstream => (s.events_prefix_answer reach upstream).map _

end Session

end MeshProxy
