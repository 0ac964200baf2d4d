import MeshProxy.Proofs.Handshake.Exchange
import MeshProxy.Proofs.Persona.Outbound.Meeting

/-!
# The phases of an outbound session

A session that `Admits` the preamble sends it over the stream that is open by then (`opened`): at once to a plain peer, and
behind the handshake to a TLS server.

From then on a session is one of two things. It is `Barred`: no peer has taken the whole preamble, and nothing else will
ever travel. Or it is `Through`: the preamble is sent and flushed, and what the session does next hangs on how waiting for
the rendezvous goes over all that the peer has supplied. Either is kept by whatever is met (`Stage.Barred.meet`,
`Stage.Through.meet`), and `meetAll_cases` says which of the two all that is met leads to.

While it is through, a session reads nothing of its client before the rendezvous, and leaves to the relay exactly what
follows the rendezvous; so the relay's own account (`Relay.Faithful`) becomes one of the whole session.
-/

namespace MeshProxy

open Relay (Side Happening arrivals arrivalsOf)

namespace Outbound

/-- The preamble may be sent: to a plain peer if there is no TLS policy, and under a policy to a server once their
handshake has ended well. -/
def Admits (plan : Plan) (dest : Destination) (reach : Reach) (os : List Occurrence) : Prop :=
  match reach with
  | .connected .plain => plan.tls = none
  | .connected (.tls _) => ∃ policy expected, plan.tls = some policy ∧
      policy.expectedName? (plan.nextHop dest).host = some expected ∧
      os.find? (·.settles) = some (.concluded .agreed)
  | _ => False

/-- The stream behind a connection when the preamble may be sent over it. While a handshake goes on it collects what
happens. -/
def opened (reach : Reach) (peer : Endpoint) (os : List Occurrence) : Endpoint :=
  match reach with
  | .connected (.tls _) => peer.after .upstream (happenings (os.takeWhile (!·.settles)))
  | _ => peer

/-- The preamble can be sent: it may be, and the peer takes all of it and its flush. -/
def Sendable (plan : Plan) (dest : Destination) (reach : Reach) (peer : Endpoint) (os : List Occurrence) : Prop :=
  Admits plan dest reach os ∧ (Preamble.send (opened reach peer os).sink dest.toText).fault = none

namespace Stage

variable {target : String} {fromClient fromPeer : Source}

/-- Nothing but a part of the preamble has travelled, and nothing of the client is read. -/
inductive Barred (target : String) (fromClient : Source) : Stage → Prop where
  | dialing {client : Endpoint} :
    client.source = fromClient →
    client.received = [] →
    Barred target fromClient (.dialing client)
  | securing {client upstream : Endpoint} {tls : Tls.Client} :
    client.source = fromClient →
    client.received = [] →
    upstream.received = [] →
    Barred target fromClient (.securing client upstream tls)
  | refused {refused : Refused} :
    refused.client.source <+: fromClient →
    refused.client.received = [] →
    (∀ upstream, refused.upstream = some upstream → upstream.received <+: bytesOf target) →
    Barred target fromClient (.refused refused)

/-- The preamble is sent, and what follows hangs on the rendezvous. -/
inductive Through (target : String) (fromClient fromPeer : Source) : Stage → Prop where
  | greeting {client upstream : Endpoint} :
    client.source = fromClient →
    client.received = [] →
    upstream.received = bytesOf target →
    (Rendezvous.await fromPeer).1 = .waits →
    upstream.source = [] →
    Through target fromClient fromPeer (.greeting client upstream)
  | refused {refused : Refused} {upstream : Endpoint} {fault : HandshakeFault} :
    refused.client.source <+: fromClient →
    refused.client.received = [] →
    refused.client.dropped = true →
    refused.upstream = some upstream →
    upstream.received = bytesOf target →
    (Rendezvous.await fromPeer).1 = .failed fault →
    refused.failure = .handshake fault →
    Through target fromClient fromPeer (.refused refused)
  | relaying {relay : Relay} {rest : Source} :
    Rendezvous.await fromPeer = (.arrived (), rest) →
    relay.Faithful (Direction.each (bytesOf target) []) (Direction.each fromClient rest) →
    Through target fromClient fromPeer (.relaying relay)

/-- Waiting for the rendezvous takes a session through, if it goes over the upstream's stream as over all that the
peer has supplied. -/
lemma through_await {client upstream : Endpoint} (src : client.source = fromClient)
    (rcv : client.received = []) (sent : upstream.received = bytesOf target)
    (eq : Rendezvous.await fromPeer = Rendezvous.await upstream.source) :
    Through target fromClient fromPeer (await client upstream) := by
  simp only [await]
  split
  case h_1 rest aw =>
    -- What waiting leaves undecided it has read, so the stream is empty afterwards.
    have wt : (Rendezvous.await upstream.source).1 = .waits := by rw [aw]
    have nil := (Rendezvous.await_append_of_waits wt []).1
    rw [aw] at nil
    exact .greeting src rcv sent (by rw [eq, aw]) nil
  case h_2 fault rest aw =>
    exact .refused (by simp [Endpoint.drop, src]) rcv rfl rfl sent (by rw [eq, aw]) rfl
  case h_3 rest aw =>
    refine .relaying (eq.trans aw) (Relay.faithful_start ?_ ?_)
    · exact Direction.eq_each sent rcv
    · exact Direction.eq_each src rfl

/-- Sending the preamble takes a session through, or bars it if the preamble is not sent well. -/
lemma greet_cases (target : String) {client upstream : Endpoint} (src : client.source = fromClient)
    (rcv : client.received = []) (fresh : upstream.received = []) :
    ((Preamble.send upstream.sink target).fault = none ∧
      Through target fromClient upstream.source (greet client upstream target)) ∨
    ((Preamble.send upstream.sink target).fault ≠ none ∧
      Barred target fromClient (greet client upstream target)) := by
  simp only [greet]
  split
  case h_1 fault e =>
    refine .inr ⟨by simp [e], .refused (by simp [Endpoint.drop, src]) rcv ?_⟩
    rintro _ ⟨⟩
    simpa [Endpoint.absorb, Endpoint.drop, fresh] using Preamble.accepted_send upstream.sink target
  case h_2 e =>
    refine .inl ⟨e, through_await src rcv ?_ rfl⟩
    simp [Endpoint.absorb, fresh, (Preamble.fault_send e).1]

/-- Giving up both streams bars a session if nothing was sent over them. -/
lemma barred_of_silent {client given : Endpoint} (src : client.source = fromClient) (rcv : client.received = [])
    {refused : Refused} (eq : refused.client = client.drop) (up : refused.upstream = some given)
    (fresh : given.received = []) :
    Barred target fromClient (.refused refused) := by
  refine .refused (by simp [eq, Endpoint.drop, src]) (by rw [eq]; exact rcv) ?_
  rw [up]
  rintro _ ⟨⟩
  simp [fresh]

lemma barred_insecure {client upstream : Endpoint} (src : client.source = fromClient) (rcv : client.received = [])
    (fresh : upstream.received = []) (host : String) (fault : Tls.Fault) (farFault : Option Tls.Fault) :
    Barred target fromClient (insecure client upstream host fault farFault) :=
  barred_of_silent src rcv rfl rfl fresh

lemma barred_misread {client upstream : Endpoint} (src : client.source = fromClient) (rcv : client.received = [])
    (fresh : upstream.received = []) (text : String) : Barred target fromClient (misread client upstream text) := by
  refine .refused (by simp [Endpoint.drop, src]) rcv ?_
  rintro _ ⟨⟩
  simp [Endpoint.drop, fresh]

/-- In a TLS handshake with a peer that does not speak TLS a session waits, or gives up both streams. -/
lemma secure_cases (client upstream : Endpoint) (tls : Tls.Client) (host : String) :
    secure client upstream tls host = .securing client upstream tls ∨
      ∃ refused cause rest, secure client upstream tls host = .refused refused ∧ refused.client = client.drop ∧
        refused.upstream = some (Endpoint.drop { upstream with source := rest }) ∧ refused.failure = .dial host cause := by
  simp only [secure]
  split
  case h_1 => exact .inr ⟨_, _, _, rfl, rfl, rfl, rfl⟩
  case h_2 => exact .inr ⟨_, _, _, rfl, rfl, rfl, rfl⟩
  case h_3 => exact .inr ⟨_, _, _, rfl, rfl, rfl, rfl⟩
  case h_4 => exact .inl rfl

lemma barred_secure {client upstream : Endpoint} (src : client.source = fromClient)
    (rcv : client.received = []) (fresh : upstream.received = []) (tls : Tls.Client) (host : String) :
    Barred target fromClient (secure client upstream tls host) := by
  rcases secure_cases client upstream tls host with eq | ⟨refused, cause, rest, eq, given, up, -⟩
  · rw [eq]
    exact .securing src rcv fresh
  · rw [eq]
    exact barred_of_silent src rcv given up fresh

/-- What happens to a barred session leaves it barred. -/
lemma Barred.step {s : Outbound} (bd : s.stage.Barred target fromClient) (e : Happening) :
    (s.step e.1 e.2).stage.Barred target (fromClient ++ arrivals .client [e]) := by
  obtain ⟨plan, dest, dials, stage⟩ := s
  obtain ⟨side, event⟩ := e
  have still : arrivals .client [(.upstream, event)] = [] := rfl
  cases bd with
  | @dialing client src rcv =>
    cases side with
    | client => exact .dialing (by simp [Relay.source_apply, src, arrivals]) (by simp [rcv])
    | upstream =>
      rw [still, List.append_nil]
      exact .dialing src rcv
  | @securing client upstream tls src rcv fresh =>
    cases side with
    | client => exact .securing (by simp [Relay.source_apply, src, arrivals]) (by simp [rcv]) fresh
    | upstream =>
      rw [still, List.append_nil]
      exact barred_secure src rcv (by simp [fresh]) _ _
  | refused pre rcv sent =>
    exact .refused (pre.trans (List.prefix_append _ _)) rcv sent

/-- What happens to a session that is through leaves it so. -/
lemma Through.step {s : Outbound} (th : s.stage.Through target fromClient fromPeer) (e : Happening) :
    (s.step e.1 e.2).stage.Through target (fromClient ++ arrivals .client [e])
      (fromPeer ++ arrivals .upstream [e]) := by
  obtain ⟨plan, dest, dials, stage⟩ := s
  cases th with
  | @greeting client upstream src rcv sent wt nil =>
    obtain ⟨side, event⟩ := e
    cases side with
    | client =>
      have still : arrivals .upstream [(.client, event)] = [] := rfl
      rw [still, List.append_nil]
      exact .greeting (by simp [Relay.source_apply, src, arrivals]) (by simp [rcv]) sent wt nil
    | upstream =>
      have still : arrivals .client [(.upstream, event)] = [] := rfl
      rw [still, List.append_nil]
      -- The session looks only at what arrives now, and that decides as all that was supplied does.
      refine through_await src rcv (by simp [sent]) ?_
      rw [(Rendezvous.await_append_of_waits wt _).2, Relay.source_apply, nil]
      simp [arrivals]
  | refused pre rcv drop up sent aw eq =>
    refine .refused (pre.trans (List.prefix_append _ _)) rcv drop up sent ?_ eq
    rw [Rendezvous.await_append_of_ne (by simp [aw]), aw]
  | @relaying relay rest aw fa =>
    -- The rendezvous is decided, so what arrives goes to the relay alone.
    have fa' := fa.step e
    rw [Direction.each_append] at fa'
    refine .relaying ?_ fa'
    rw [Rendezvous.await_append_of_ne (by simp [aw]), aw]

/-- Whatever a barred session meets leaves it barred. -/
lemma Barred.meet {s : Outbound} (bd : s.stage.Barred target fromClient) (o : Occurrence) :
    (s.meet o).stage.Barred target (fromClient ++ supplied .client [o]) := by
  cases o with
  | happens e => exact bd.step e
  | concluded outcome =>
    rw [supplied_of_settles rfl, List.append_nil]
    obtain ⟨plan, dest, dials, stage⟩ := s
    cases stage with
    | agreeing client upstream => cases bd
    | _ => exact bd
  | lapse =>
    rw [supplied_of_settles rfl, List.append_nil]
    obtain ⟨plan, dest, dials, stage⟩ := s
    cases stage with
    | agreeing client upstream => cases bd
    | securing client upstream tls =>
      cases bd with
      | securing src rcv fresh => exact barred_insecure src rcv fresh _ _ _
    | _ => exact bd

lemma Barred.meetAll {s : Outbound} (bd : s.stage.Barred target fromClient) (os : List Occurrence) :
    (s.meetAll os).stage.Barred target (fromClient ++ supplied .client os) := by
  induction os generalizing s fromClient with
  | nil => simpa using bd
  | cons o os ih =>
    rw [supplied_cons, ← List.append_assoc]
    exact ih (bd.meet o)

/-- Whatever a session meets that is through leaves it so. -/
lemma Through.meet {s : Outbound} (th : s.stage.Through target fromClient fromPeer) (o : Occurrence) :
    (s.meet o).stage.Through target (fromClient ++ supplied .client [o]) (fromPeer ++ supplied .upstream [o]) := by
  cases o with
  | happens e => exact th.step e
  | _ =>
    -- There is no TLS handshake any more, so nothing comes of it.
    rw [supplied_of_settles rfl, supplied_of_settles rfl, List.append_nil, List.append_nil]
    obtain ⟨plan, dest, dials, stage⟩ := s
    cases stage with
    | securing client upstream tls => cases th
    | agreeing client upstream => cases th
    | _ => exact th

lemma Through.meetAll {s : Outbound} (th : s.stage.Through target fromClient fromPeer) (os : List Occurrence) :
    (s.meetAll os).stage.Through target (fromClient ++ supplied .client os) (fromPeer ++ supplied .upstream os) := by
  induction os generalizing s fromClient fromPeer with
  | nil => simpa using th
  | cons o os ih =>
    rw [supplied_cons .client, supplied_cons .upstream, ← List.append_assoc, ← List.append_assoc]
    exact ih (th.meet o)

/-- A session that is barred, or in a handshake with a server that nothing has settled. -/
inductive Withheld (target : String) (fromClient : Source) : Stage → Prop where
  | barred {stage : Stage} :
    Barred target fromClient stage →
    Withheld target fromClient stage
  | agreeing {client upstream : Endpoint} :
    client.source = fromClient →
    client.received = [] →
    upstream.received = [] →
    Withheld target fromClient (.agreeing client upstream)

/-- A handshake with a server that is settled in any other way than by agreement bars a session. -/
lemma barred_of_settled {s : Outbound} {client upstream : Endpoint} (eq : s.stage = .agreeing client upstream)
    (src : client.source = fromClient) (rcv : client.received = []) (fresh : upstream.received = [])
    {o : Occurrence} (st : o.settles = true) (no : o ≠ .concluded .agreed) :
    (s.meet o).stage.Barred target fromClient := by
  obtain ⟨plan, dest, dials, stage⟩ := s
  cases eq
  cases o with
  | happens e => cases st
  | lapse => exact barred_insecure src rcv fresh _ _ _
  | concluded outcome =>
    cases outcome with
    | agreed => exact absurd rfl no
    | refusedByClient fault => exact barred_insecure src rcv fresh _ _ _
    | refusedByServer fault => exact barred_of_silent src rcv rfl rfl fresh
    | broken cause => exact barred_of_silent src rcv rfl rfl fresh

end Stage

variable {plan : Plan} {dest : Destination} {fromClient : Source} {client peer : Endpoint} {reach : Reach}
  {os : List Occurrence}

/-- Under a policy that has a name for the host, a TLS server is one to agree with. -/
lemma agreeing_answer {policy : Tls.Policy} (tls : plan.tls = some policy) {expected : Tls.ServerName}
    (name : policy.expectedName? (plan.nextHop dest).host = some expected) (client peer : Endpoint)
    (server : Tls.Server) :
    ((dial plan dest client).answer (.connected (.tls server)) peer).stage = .agreeing client peer := by
  simp only [dial, answer, tls, hop, Stage.handshake, name]

/-- Any answer bars a session but that of a plain peer in the clear and that of a server to agree with. -/
lemma answer_cases (plan : Plan) (dest : Destination) (target : String) (src : client.source = fromClient)
    (rcv : client.received = []) (fresh : peer.received = []) (reach : Reach) :
    ((dial plan dest client).answer reach peer).stage.Barred target fromClient ∨
      (reach = .connected .plain ∧ plan.tls = none) ∨
      ∃ server policy expected, reach = .connected (.tls server) ∧ plan.tls = some policy ∧
        policy.expectedName? (plan.nextHop dest).host = some expected := by
  cases reach with
  | refused cause =>
    refine .inl (.refused (by simp [Endpoint.drop, src]) rcv ?_)
    rintro _ ⟨⟩
  | silent => exact .inl (.dialing src rcv)
  | connected far =>
    cases tls : plan.tls with
    | none =>
      cases far with
      | plain => exact .inr (.inl ⟨rfl, rfl⟩)
      | tls server =>
        simp only [dial, answer, tls]
        exact .inl (Stage.barred_misread src rcv fresh _)
    | some policy =>
      cases name : policy.expectedName? (plan.nextHop dest).host with
      | none =>
        simp only [dial, answer, tls, hop, Stage.handshake, name]
        cases far <;> exact .inl (Stage.barred_insecure src rcv fresh _ _ _)
      | some expected =>
        cases far with
        | tls server => exact .inr (.inr ⟨server, policy, expected, rfl, rfl, name⟩)
        | plain =>
          simp only [dial, answer, tls, hop, Stage.handshake, name]
          exact .inl (Stage.barred_secure src rcv fresh _ _)

/-- A session that may send the preamble sends it over the stream that is open by then. -/
lemma exists_greet_of_admits (ad : Admits plan dest reach os) (client peer : Endpoint) :
    ∃ before later, os = before ++ later ∧ opened reach peer os = peer.after .upstream (happenings before) ∧
      (((dial plan dest client).answer reach peer).meetAll before).stage =
        Stage.greet (client.after .client (happenings before)) (opened reach peer os) dest.toText := by
  cases reach with
  | refused cause => cases ad
  | silent => cases ad
  | connected far =>
    cases far with
    | plain =>
      have none : plan.tls = none := ad
      refine ⟨[], os, rfl, rfl, ?_⟩
      simp only [dial, answer, none, meetAll_nil]
      rfl
    | tls server =>
      obtain ⟨policy, expected, tls, name, agreed⟩ := ad
      obtain ⟨st, quiet, later, rfl, passed⟩ := List.find?_eq_some_iff_append.mp agreed
      have passed : ∀ o ∈ quiet, o.settles = false := by simpa using passed
      have open_at : opened (.connected (.tls server)) peer (quiet ++ .concluded .agreed :: later) =
          peer.after .upstream (happenings quiet) := by
        rw [opened, takeWhile_of_unsettled passed st]
      have none : happenings (quiet ++ [.concluded .agreed]) = happenings quiet := by
        rw [happenings_append]
        exact List.append_nil _
      refine ⟨quiet ++ [.concluded .agreed], later, by simp, by rw [none, open_at], ?_⟩
      rw [meetAll_of_settled (agreeing_answer tls name client peer server) passed, none, open_at]
      simp only [meetAll_nil, meet, conclude, Stage.conclude]
      exact congrArg _ (target_answer _ _ _)

/-- A session that may not send the preamble withholds everything, whatever preamble it is. -/
lemma withheld_of_not_admits (target : String) (src : client.source = fromClient) (rcv : client.received = [])
    (fresh : peer.received = []) (no : ¬ Admits plan dest reach os) :
    (((dial plan dest client).answer reach peer).meetAll os).stage.Withheld target
      (fromClient ++ supplied .client os) := by
  rcases answer_cases plan dest target src rcv fresh reach with
    bd | ⟨rfl, clear⟩ | ⟨server, policy, expected, rfl, tls, name⟩
  · exact .barred (bd.meetAll os)
  · exact absurd clear no
  · have ag := agreeing_answer tls name client peer server
    cases first : os.find? (·.settles) with
    | none =>
      have quiet : ∀ o ∈ os, o.settles = false := by simpa using List.find?_eq_none.mp first
      rw [stage_of_unsettled ag quiet]
      exact .agreeing (by rw [Endpoint.source_after, src]; rfl) (by simp [rcv]) (by simp [fresh])
    | some o =>
      have ne : o ≠ .concluded .agreed := by
        rintro rfl
        exact no ⟨policy, expected, tls, name, first⟩
      obtain ⟨st, before, later, rfl, passed⟩ := List.find?_eq_some_iff_append.mp first
      have quiet : ∀ o ∈ before, o.settles = false := by simpa using passed
      have src' : (client.after .client (happenings before)).source = fromClient ++ supplied .client before := by
        rw [Endpoint.source_after, src]
        rfl
      rw [meetAll_of_settled ag quiet, supplied_append, supplied_cons, supplied_of_settles st, List.nil_append,
        ← List.append_assoc]
      refine .barred (Stage.Barred.meetAll ?_ later)
      exact Stage.barred_of_settled rfl src' (by simp [rcv]) (by simp [fresh]) st ne

/-- What the session goes on with once all has been met. -/
lemma meetAll_cases (plan : Plan) (dest : Destination) (src : client.source = fromClient) (rcv : client.received = [])
    (fresh : peer.received = []) (reach : Reach) (os : List Occurrence) :
    (Sendable plan dest reach peer os ∧
      (((dial plan dest client).answer reach peer).meetAll os).stage.Through dest.toText
        (fromClient ++ supplied .client os) (peer.source ++ supplied .upstream os)) ∨
    (¬ Sendable plan dest reach peer os ∧
      (((dial plan dest client).answer reach peer).meetAll os).stage.Withheld dest.toText
        (fromClient ++ supplied .client os)) := by
  by_cases ad : Admits plan dest reach os
  · obtain ⟨before, later, split, at_once, eq⟩ := exists_greet_of_admits ad client peer
    have src' : (client.after .client (happenings before)).source = fromClient ++ supplied .client before := by
      rw [Endpoint.source_after, src]
      rfl
    have peer' : (opened reach peer os).source = peer.source ++ supplied .upstream before := by
      rw [at_once, Endpoint.source_after]
      rfl
    have fresh' : (opened reach peer os).received = [] := by simp [at_once, fresh]
    have greeted := Stage.greet_cases dest.toText src' (by simp [rcv]) fresh'
    rw [← eq, peer'] at greeted
    -- What is met after the preamble is sent keeps the session what it has become.
    rcases greeted with ⟨ok, th⟩ | ⟨failed, bd⟩
    · refine .inl ⟨⟨ad, ok⟩, ?_⟩
      have th := th.meetAll later
      rw [← meetAll_append, List.append_assoc, List.append_assoc, ← supplied_append, ← supplied_append, ← split] at th
      exact th
    · refine .inr ⟨fun sd => failed sd.2, .barred ?_⟩
      have bd := bd.meetAll later
      rw [← meetAll_append, List.append_assoc, ← supplied_append, ← split] at bd
      exact bd
  · exact .inr ⟨fun sd => ad sd.1, withheld_of_not_admits dest.toText src rcv fresh ad⟩

end Outbound

end MeshProxy
