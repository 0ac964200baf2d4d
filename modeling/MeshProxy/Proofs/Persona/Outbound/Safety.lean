import MeshProxy.Proofs.Persona.Outbound

/-!
# Outbound sessions are safe

`Outbound.Safe` says what holds of a session in every state: what has been dialed, and how what its two peers have
received hangs on what they have supplied. `outbound_safe` proves it of every course and whatever is met after it. A
session that withholds everything has to account for no more than a part of the preamble (`safe_of_withheld`); of one that
is through, the relay accounts for the rest (`safe_of_through`).
-/

namespace MeshProxy

open Relay (Side Happening arrivals arrivalsOf)

namespace Outbound

/-- Nothing of the client has been read, and nothing but a part of the preamble has travelled. -/
structure Held (s : Outbound) (target : String) (fromClient : Source) : Prop where
  unread : s.client.source <+: fromClient
  toClient : s.toClient = []
  toUpstream : s.toUpstream <+: bytesOf target

namespace Stage

variable {s : Outbound} {target : String} {fromClient fromPeer : Source}

/-- A session that withholds everything holds it back and never relays. -/
lemma Withheld.held (wh : s.stage.Withheld target fromClient) :
    s.Held target fromClient ∧ ∀ relay, s.stage ≠ .relaying relay := by
  obtain ⟨plan, dest, dials, stage⟩ := s
  cases wh with
  | agreeing src rcv fresh =>
    exact ⟨⟨by simp [client, src], rcv, by simp [Outbound.toUpstream, upstream?, fresh]⟩, by rintro _ ⟨⟩⟩
  | barred bd =>
    cases bd with
    | dialing src rcv => exact ⟨⟨by simp [client, src], rcv, List.nil_prefix⟩, by rintro _ ⟨⟩⟩
    | securing src rcv fresh =>
      exact ⟨⟨by simp [client, src], rcv, by simp [Outbound.toUpstream, upstream?, fresh]⟩, by rintro _ ⟨⟩⟩
    | @refused refused pre rcv sent =>
      refine ⟨⟨pre, rcv, ?_⟩, by rintro _ ⟨⟩⟩
      cases e : refused.upstream with
      | none => simp [Outbound.toUpstream, upstream?, e]
      | some upstream => simpa [Outbound.toUpstream, upstream?, e] using sent upstream e

/-- A session that is through holds everything else back until it relays. -/
lemma Through.held (th : s.stage.Through target fromClient fromPeer)
    (not_relaying : ∀ relay, s.stage ≠ .relaying relay) : s.Held target fromClient := by
  obtain ⟨plan, dest, dials, stage⟩ := s
  cases th with
  | greeting src rcv sent =>
    exact ⟨by simp [client, src], rcv, by simp [Outbound.toUpstream, upstream?, sent]⟩
  | refused pre rcv _ up sent =>
    exact ⟨pre, rcv, by simp [Outbound.toUpstream, upstream?, up, sent]⟩
  | @relaying relay => exact absurd rfl (not_relaying relay)

/-- The relay of a session that is through carries the client's bytes behind the preamble, and the peer's bytes
behind the rendezvous. -/
lemma Through.relayed (th : s.stage.Through target fromClient fromPeer) {relay : Relay}
    (eq : s.stage = .relaying relay) :
    ∃ rest, Rendezvous.await fromPeer = (.arrived (), rest) ∧
      fromPeer.payload = Rendezvous.byte :: rest.payload ∧
      s.toUpstream <+: bytesOf target ++ fromClient.payload ∧ s.toClient <+: rest.payload ∧
      (relay.ending = none →
        s.toUpstream = bytesOf target ++ fromClient.payload ∧ s.toClient = rest.payload) := by
  obtain ⟨plan, dest, dials, stage⟩ := s
  cases eq
  cases th with
  | @relaying _ rest aw fa =>
    refine ⟨rest, aw, Rendezvous.payload_of_await aw, ?_, ?_, fun run => ⟨?_, ?_⟩⟩
    · apply (fa.delivered .forward).trans
      exact (List.prefix_append_right_inj _).mpr fromClient.ahead_prefix_payload
    · exact (fa.delivered .backward).trans rest.ahead_prefix_payload
    · exact (fa.waiting run .forward).delivered
    · exact (fa.waiting run .backward).delivered

/-- Something wrong in place of the rendezvous ends a session that is through. -/
lemma Through.denied (th : s.stage.Through target fromClient fromPeer) {fault : HandshakeFault}
    (aw : (Rendezvous.await fromPeer).1 = .failed fault) :
    s.result? = some (.error (.handshake fault)) ∧ s.client.dropped = true ∧
      s.toUpstream = bytesOf target ∧ ∀ relay, s.stage ≠ .relaying relay := by
  obtain ⟨plan, dest, dials, stage⟩ := s
  cases th with
  | greeting _ _ _ wt =>
    rw [wt] at aw
    cases aw
  | refused _ _ drop up sent failed eq =>
    rw [failed] at aw
    cases aw
    refine ⟨by simp [result?, eq], drop, by simp [Outbound.toUpstream, upstream?, up, sent], ?_⟩
    rintro _ ⟨⟩
  | relaying arrived =>
    rw [arrived] at aw
    cases aw

end Stage

/-- How the preamble of a session is sent, if it may be. -/
def preamble (dest : Destination) (course : Course) (os : List Occurrence) : Sent :=
  Preamble.send (opened course.reach course.peer (met course os)).sink dest.toText

/-- What holds of an outbound session in every state that a course leads to, whatever it meets then. -/
structure Safe (plan : Plan) (dest : Destination) (course : Course) (os : List Occurrence) (s : Outbound) :
    Prop where
  /-- There is one dial, and it is of the next hop. -/
  dials : s.dials = [(plan.nextHop dest).toText]
  /-- It is the first thing a session does. -/
  dials_first : (dial plan dest course.client).dials = s.dials ∧
    (dial plan dest course.client).client = course.client
  /-- Until it relays, the session holds everything but the preamble back. -/
  held : (∀ relay, s.stage ≠ .relaying relay) → s.Held dest.toText (ofClient course os)
  /-- The upstream has received a part of the preamble and the client's bytes behind it. -/
  toUpstream : s.toUpstream <+: bytesOf dest.toText ++ (ofClient course os).payload
  /-- If it has received more than the preamble, the preamble was taken whole and flushed, and the peer's first
  byte is the rendezvous. -/
  confirmed : (bytesOf dest.toText).length < s.toUpstream.length →
    Admits plan dest course.reach (met course os) ∧
    (preamble dest course os).fault = none ∧
    (preamble dest course os).written.accepted = bytesOf dest.toText ∧
    (preamble dest course os).flushes = 1 ∧
    (ofPeer course os).payload.head? = some Rendezvous.byte
  /-- If the client has received anything, it is what the peer sent behind the rendezvous. -/
  toClient : s.toClient ≠ [] → ∃ rest, (ofPeer course os).payload = Rendezvous.byte :: rest ∧
    s.toClient <+: rest
  /-- While the session relays, nothing is held back. -/
  relayed : ∀ relay, s.stage = .relaying relay → relay.ending = none →
    s.toUpstream = bytesOf dest.toText ++ (ofClient course os).payload ∧
    (ofPeer course os).payload = Rendezvous.byte :: s.toClient
  /-- If the preamble is sent and what the peer answers first, interruptions aside, is not the rendezvous, the
  session is over, and only the preamble has travelled. -/
  denied : Sendable plan dest course.reach course.peer (met course os) → ∀ passed answer rest fault,
    ofPeer course os = passed ++ answer :: rest →
    (∀ a ∈ passed, a.isInterruption = true) → answer.isInterruption = false →
    Rendezvous.objection answer = some fault →
    s.result? = some (.error (.handshake fault)) ∧ s.client.dropped = true ∧
      s.client.source <+: ofClient course os ∧ s.toClient = [] ∧
      s.toUpstream = bytesOf dest.toText
  /-- If the preamble cannot be sent, the session is over. -/
  unsent : Admits plan dest course.reach (met course os) → ∀ fault,
    (preamble dest course os).fault = some fault →
    s.result? = some (.error (.handshake fault)) ∧ s.Held dest.toText (ofClient course os)
  /-- A TLS server that is addressed in the clear answers with an alert, which is no rendezvous either. -/
  alerted : plan.tls = none → ∀ server, course.reach = .connected (.tls server) →
    s.result? = some (.error (.handshake
      ((Preamble.send course.peer.sink dest.toText).fault.getD
        (.wrongRendezvous Tls.ContentType.alert.code)))) ∧
    s.Held dest.toText (ofClient course os) ∧ s.toUpstream = []

variable {plan : Plan} {dest : Destination} {course : Course} {os : List Occurrence}

/-- A preamble that cannot be sent ends a session. -/
lemma result_of_unsent {fault : HandshakeFault} (ad : Admits plan dest course.reach (met course os))
    (no : (preamble dest course os).fault = some fault) :
    ((follow plan dest course).meetAll os).result? = some (.error (.handshake fault)) := by
  obtain ⟨before, later, split, -, eq⟩ :=
    exists_greet_of_admits ad (course.client.after .client course.early) course.peer
  rw [preamble] at no
  simp only [Stage.greet, no] at eq
  rw [meetAll_follow, answered, split, meetAll_append]
  exact result_meetAll_of_refused eq later

/-- A TLS server that is addressed in the clear ends a session with its alert and is sent nothing that it can
read. -/
lemma result_of_alerted {server : Tls.Server} (tls : plan.tls = none)
    (reach : course.reach = .connected (.tls server)) (os : List Occurrence) :
    ((follow plan dest course).meetAll os).result? = some (.error (.handshake
        ((Preamble.send course.peer.sink dest.toText).fault.getD
          (.wrongRendezvous Tls.ContentType.alert.code)))) ∧
      ((follow plan dest course).meetAll os).toUpstream = [] := by
  have eq : (answered plan dest course).stage =
      Stage.misread (course.client.after .client course.early) course.peer dest.toText := by
    rw [answered, reach]
    simp only [dial, answer, tls, target]
  rw [meetAll_follow]
  refine ⟨result_meetAll_of_refused eq _, ?_⟩
  simp only [toUpstream, upstream?, stage_meetAll_of_refused eq]
  rfl

lemma dials_meetAll_follow (plan : Plan) (dest : Destination) (course : Course) (os : List Occurrence) :
    ((follow plan dest course).meetAll os).dials = [(plan.nextHop dest).toText] := by
  rw [(hop_meetAll _ os).2, dials_follow]

/-- A session that is through is safe. -/
lemma safe_of_through (sd : Sendable plan dest course.reach course.peer (met course os))
    (th : ((follow plan dest course).meetAll os).stage.Through dest.toText (ofClient course os) (ofPeer course os)) :
    Safe plan dest course os ((follow plan dest course).meetAll os) where
  dials := dials_meetAll_follow plan dest course os
  dials_first := ⟨(dials_meetAll_follow plan dest course os).symm, rfl⟩
  held := th.held
  toUpstream := by
    by_cases rel : ∃ relay, ((follow plan dest course).meetAll os).stage = .relaying relay
    · obtain ⟨relay, eq⟩ := rel
      obtain ⟨rest, _, _, sent, _⟩ := th.relayed eq
      exact sent
    · exact (th.held (not_exists.mp rel)).toUpstream.trans (List.prefix_append _ _)
  confirmed long := by
    obtain ⟨ad, ok⟩ := sd
    obtain ⟨whole, flushed⟩ := Preamble.fault_send ok
    refine ⟨ad, ok, whole, flushed, ?_⟩
    by_cases rel : ∃ relay, ((follow plan dest course).meetAll os).stage = .relaying relay
    · obtain ⟨relay, eq⟩ := rel
      obtain ⟨rest, _, first, _⟩ := th.relayed eq
      rw [first]
      rfl
    · have le := (th.held (not_exists.mp rel)).toUpstream.length_le
      omega
  toClient some := by
    by_cases rel : ∃ relay, ((follow plan dest course).meetAll os).stage = .relaying relay
    · obtain ⟨relay, eq⟩ := rel
      obtain ⟨rest, _, first, _, back, _⟩ := th.relayed eq
      exact ⟨rest.payload, first, back⟩
    · exact absurd (th.held (not_exists.mp rel)).toClient some
  relayed relay eq run := by
    obtain ⟨rest, _, first, _, _, all⟩ := th.relayed eq
    obtain ⟨sent, back⟩ := all run
    exact ⟨sent, by rw [first, back]⟩
  denied _ passed answer rest fault supplied int deciding obj := by
    have aw : (Rendezvous.await (passed ++ answer :: rest)).1 = .failed fault :=
      Rendezvous.await_of_objection int deciding obj
    rw [← supplied] at aw
    obtain ⟨result, dropped, sent, not_relaying⟩ := th.denied aw
    have hd := th.held not_relaying
    exact ⟨result, dropped, hd.unread, hd.toClient, sent⟩
  unsent _ fault no := by
    rw [preamble, sd.2] at no
    cases no
  alerted tls server reach := by
    -- A TLS server admits the preamble only under a policy.
    obtain ⟨ad, -⟩ := sd
    rw [reach] at ad
    obtain ⟨policy, _, some, _⟩ := ad
    rw [tls] at some
    cases some

/-- A session that withholds everything is safe. -/
lemma safe_of_withheld (no : ¬ Sendable plan dest course.reach course.peer (met course os))
    (wh : ((follow plan dest course).meetAll os).stage.Withheld dest.toText (ofClient course os)) :
    Safe plan dest course os ((follow plan dest course).meetAll os) where
  dials := dials_meetAll_follow plan dest course os
  dials_first := ⟨(dials_meetAll_follow plan dest course os).symm, rfl⟩
  held _ := wh.held.1
  toUpstream := wh.held.1.toUpstream.trans (List.prefix_append _ _)
  confirmed long := by
    have le := wh.held.1.toUpstream.length_le
    omega
  toClient some := absurd wh.held.1.toClient some
  relayed relay eq := absurd eq (wh.held.2 relay)
  denied sd := absurd sd no
  unsent ad fault eq := ⟨result_of_unsent ad eq, wh.held.1⟩
  alerted tls server reach := by
    obtain ⟨result, nothing⟩ := result_of_alerted tls reach os
    exact ⟨result, wh.held.1, nothing⟩

/-- Safety: whatever comes from outside, an outbound session is safe in every state. -/
theorem outbound_safe (plan : Plan) (dest : Destination) (course : Course) (os : List Occurrence) :
    Safe plan dest course os ((follow plan dest course).meetAll os) := by
  have src := Endpoint.source_after course.client .client course.early
  have rcv : (course.client.after .client course.early).received = [] := Endpoint.received_after _ _ _
  have fresh : course.peer.received = [] := rfl
  have client : course.client.source ++ arrivals .client course.early ++ supplied .client (met course os) =
      ofClient course os := by
    simp [supplied_met, ofClient, Course.fromClient, Course.client]
  have peer : course.peer.source ++ supplied .upstream (met course os) = ofPeer course os := by
    simp [supplied_met, ofPeer, Course.fromPeer, Course.peer]
  have cases := meetAll_cases plan dest src rcv fresh course.reach (met course os)
  rw [client, peer, ← answered, ← meetAll_follow] at cases
  rcases cases with ⟨sd, th⟩ | ⟨no, wh⟩
  · exact safe_of_through sd th
  · exact safe_of_withheld no wh

end Outbound
end MeshProxy
