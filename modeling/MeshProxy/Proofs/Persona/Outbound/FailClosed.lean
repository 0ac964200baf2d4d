import MeshProxy.Proofs.Persona.Outbound.Safety
import MeshProxy.Proofs.Persona.Outbound.Securing

/-!
# TLS fails closed

A TLS policy decides twice about an outbound session, for the port that is dialed and for what is done with the
connection. `FailsClosed` says that the two go together and what they achieve: bytes travel only to and from a TLS server
that the policy trusts for the expected name, and a session whose handshake fails ends with a failure that names the host
and its cause. A session without a policy is `InTheClear`.

Whether an authority has issued a certificate chain is not decided here. A judge is given, and it is `Sound` if a client
goes on only with a server that shows a chain issued by an authority it trusts, and the expected name.

A server may yet refuse the certificate of the client. The client hears of it when its own handshake has succeeded, so such
a session does not fail as a dial; but nothing travels in it, either.
-/

namespace MeshProxy

open Relay (Side Happening arrivals arrivalsOf)

namespace Tls

variable {issues : Authority → List Bytes → Prop} {judge : Judge} {client : Client} {server : Server} {outcome : Outcome}

/-- What a client asks of a server: an authority it trusts has issued the chain that is shown, and one of the names is
the expected one. -/
structure Client.Accepts (issues : Authority → List Bytes → Prop) (client : Client) (shown : Credential) : Prop where
  issued : ∃ authority ∈ client.trusted, issues authority shown.chain
  named : ∃ name ∈ shown.names, name.isFor client.expected = true

/-- A judge without objection for a client has found what the client asks of a server. -/
def Judge.Sound (issues : Authority → List Bytes → Prop) (judge : Judge) : Prop :=
  ∀ client shown, judge.ofServer client shown = none → client.Accepts issues shown

/-- What a handshake can come to: what the judge makes of it, if it does not break. -/
inductive Judge.Gives (judge : Judge) (client : Client) (server : Server) : Outcome → Prop where
  | verdict : Gives judge client server (handshake judge client server)
  | broken (cause : IoFault) : Gives judge client server (.broken cause)

lemma Judge.sound_ofIssuing (issues : Authority → List Bytes → Bool) :
    (ofIssuing issues).Sound fun authority chain => issues authority chain = true := by
  intro client shown none
  simp only [ofIssuing] at none
  split at none
  case isFalse => cases none
  case isTrue issued =>
    split at none
    case isFalse => cases none
    case isTrue named => exact ⟨List.any_eq_true.mp issued, List.any_eq_true.mp named⟩

/-- A client that finds its own part of the handshake well done has the server it asked for. -/
lemma Judge.Gives.accepts (gives : judge.Gives client server outcome) (sound : judge.Sound issues)
    (well : outcome.client = .ok ()) : client.Accepts issues server.credential := by
  cases gives with
  | broken cause => cases well
  | verdict =>
    apply sound
    cases objection : judge.ofServer client server.credential with
    | none => rfl
    | some fault =>
      simp only [handshake, objection] at well
      cases well

/-- A policy trusts a server: as a client of it asks, for the name that the policy expects of the host. -/
def Policy.Trusts (issues : Authority → List Bytes → Prop) (policy : Policy) (host : String) (server : Server) : Prop :=
  ∃ expected, policy.expectedName? host = some expected ∧ (policy.client expected).Accepts issues server.credential

/-- A peer that is not a trusted TLS server. -/
def Policy.Distrusts (issues : Authority → List Bytes → Prop) (policy : Policy) (host : String) (far : Far) : Prop :=
  ∀ server, far = .tls server → ¬ policy.Trusts issues host server

end Tls

namespace Outbound

/-- What holds of an outbound session under a TLS policy, in every state. -/
structure FailsClosed (issues : Tls.Authority → List Bytes → Prop) (plan : Plan) (policy : Tls.Policy)
    (dest : Destination) (course : Course) (os : List Occurrence) (s : Outbound) : Prop where
  /-- There is one dial, and it is of the TLS port of the next hop. -/
  dials : s.dials = [(NextHop.mk (plan.nextHop dest).host plan.externalTlsPort).toText]
  /-- Bytes have travelled only after a handshake for the expected name, with a TLS server that the policy trusts. -/
  trusted : s.toUpstream ≠ [] ∨ s.toClient ≠ [] →
    ∃ server expected, course.reach = .connected (.tls server) ∧
      policy.expectedName? (plan.nextHop dest).host = some expected ∧
      (met course os).find? (·.settles) = some (.concluded .agreed) ∧
      policy.Trusts issues (plan.nextHop dest).host server
  /-- Without a name to expect there is no handshake, whatever the peer is. -/
  nameless : ∀ far, course.reach = .connected far →
    policy.expectedName? (plan.nextHop dest).host = none →
    s.DialFailed (plan.nextHop dest).host Tls.Fault.invalidServerName.toIoFault
  /-- With one, a session waits as long as nothing decides about its handshake. -/
  undecided : ∀ far expected, course.reach = .connected far →
    policy.expectedName? (plan.nextHop dest).host = some expected →
    Undecided (policy.client expected) course.peerReads far (met course os) →
    s.result? = none ∧ s.toUpstream = [] ∧ s.toClient = []
  /-- If the handshake fails, so does the dial, and for the same cause. -/
  failed : ∀ far expected cause, course.reach = .connected far →
    policy.expectedName? (plan.nextHop dest).host = some expected →
    Fails (policy.client expected) course.peerReads far (met course os) cause →
    s.DialFailed (plan.nextHop dest).host cause
  /-- With a peer that is not trusted a handshake never comes to anything else. -/
  untrusted : ∀ far expected, course.reach = .connected far →
    policy.expectedName? (plan.nextHop dest).host = some expected →
    policy.Distrusts issues (plan.nextHop dest).host far →
    Undecided (policy.client expected) course.peerReads far (met course os) ∨
      ∃ cause, Fails (policy.client expected) course.peerReads far (met course os) cause
  /-- A server that refuses the client is heard in place of the rendezvous. -/
  unwelcome : ∀ server expected fault, course.reach = .connected (.tls server) →
    policy.expectedName? (plan.nextHop dest).host = some expected →
    (met course os).find? (·.settles) = some (.concluded (.refusedByServer fault)) →
    s.result? = some (.error (.handshake (.awaitRendezvous (Tls.Fault.alerted fault.alert).toIoFault))) ∧
      s.toUpstream = [] ∧ s.toClient = []

/-- What holds of an outbound session without a TLS policy, in every state. -/
structure InTheClear (plan : Plan) (dest : Destination) (course : Course) (s : Outbound) : Prop where
  /-- There is one dial, and it is of the plain port of the next hop. -/
  dials : s.dials = [(NextHop.mk (plan.nextHop dest).host plan.externalPort).toText]
  /-- There is no TLS handshake. -/
  no_handshake : (∀ client upstream tls, s.stage ≠ .securing client upstream tls) ∧
    ∀ client upstream, s.stage ≠ .agreeing client upstream
  /-- Only the dial itself can fail. -/
  dial_failure : ∀ target cause, s.result? = some (.error (.dial target cause)) →
    course.reach = .refused cause ∧ target = (plan.nextHop dest).toText

namespace Stage

variable {s : Outbound}

/-- A session without a policy: it is in no handshake, and what ends it is not about the dial. -/
inductive Clear : Stage → Prop where
  | dialing {client : Endpoint} : Clear (.dialing client)
  | greeting {client upstream : Endpoint} : Clear (.greeting client upstream)
  | refused {refused : Refused} {fault : HandshakeFault} :
    refused.failure = .handshake fault →
    Clear (.refused refused)
  | relaying {relay : Relay} : Clear (.relaying relay)

lemma clear_await (client upstream : Endpoint) : Clear (await client upstream) := by
  simp only [await]
  split
  case h_1 => exact .greeting
  case h_2 => exact .refused rfl
  case h_3 => exact .relaying

lemma clear_greet (client upstream : Endpoint) (target : String) :
    Clear (greet client upstream target) := by
  simp only [greet]
  split
  case h_1 => exact .refused rfl
  case h_2 => exact clear_await _ _

lemma Clear.meet (cl : s.stage.Clear) (o : Occurrence) : (s.meet o).stage.Clear := by
  obtain ⟨plan, dest, dials, stage⟩ := s
  cases o with
  | concluded outcome => cases cl <;> constructor <;> assumption
  | lapse => cases cl <;> constructor <;> assumption
  | happens e =>
    obtain ⟨side, event⟩ := e
    cases cl with
    | dialing => cases side <;> exact .dialing
    | refused failure => exact .refused failure
    | relaying => exact .relaying
    | greeting =>
      cases side with
      | client => exact .greeting
      | upstream => exact clear_await _ _

lemma Clear.meetAll (cl : s.stage.Clear) (os : List Occurrence) : (s.meetAll os).stage.Clear :=
  meetAll_of_meet (fun t => t.stage.Clear) (fun _ o cl => cl.meet o) cl os

/-- A session in the clear is in no handshake and has not failed to dial. -/
lemma Clear.not_dial (cl : s.stage.Clear) :
    ((∀ client upstream tls, s.stage ≠ .securing client upstream tls) ∧
      ∀ client upstream, s.stage ≠ .agreeing client upstream) ∧
      ∀ target cause, s.result? ≠ some (.error (.dial target cause)) := by
  obtain ⟨plan, dest, dials, stage⟩ := s
  cases cl with
  | dialing => exact ⟨⟨by rintro _ _ _ ⟨⟩, by rintro _ _ ⟨⟩⟩, by rintro _ _ ⟨⟩⟩
  | greeting => exact ⟨⟨by rintro _ _ _ ⟨⟩, by rintro _ _ ⟨⟩⟩, by rintro _ _ ⟨⟩⟩
  | refused failure => exact ⟨⟨by rintro _ _ _ ⟨⟩, by rintro _ _ ⟨⟩⟩, by simp [result?, failure]⟩
  | @relaying relay =>
    refine ⟨⟨by rintro _ _ _ ⟨⟩, by rintro _ _ ⟨⟩⟩, ?_⟩
    -- A relay ends well or with a failure of its own.
    intro target cause
    simp only [result?, Relay.result?]
    cases relay.ending with
    | none => simp
    | some ending => obtain ⟨direction, _ | _⟩ := ending <;> simp

end Stage

/-! ## Under a policy and without one -/

variable {plan : Plan} {dest : Destination} {course : Course} {os : List Occurrence} {policy : Tls.Policy}
  {expected : Tls.ServerName} {issues : Tls.Authority → List Bytes → Prop} {judge : Tls.Judge}

/-- What a session meets of a handshake with a server is what the judge lets it come to. -/
def Judged (judge : Tls.Judge) (plan : Plan) (dest : Destination) (reach : Reach) (os : List Occurrence) : Prop :=
  ∀ policy expected server outcome, plan.tls = some policy →
    policy.expectedName? (plan.nextHop dest).host = some expected → reach = .connected (.tls server) →
    .concluded outcome ∈ os → judge.Gives (policy.client expected) server outcome

lemma mem_of_met {outcome : Tls.Outcome} (mem : .concluded outcome ∈ met course os) : .concluded outcome ∈ os := by
  simpa [met] using mem

/-- Under a policy the preamble may be sent only to a TLS server, when a handshake for the expected name has ended well. -/
lemma exists_server_of_admits {reach : Reach} (tls : plan.tls = some policy) (ad : Admits plan dest reach os) :
    ∃ server expected, reach = .connected (.tls server) ∧
      policy.expectedName? (plan.nextHop dest).host = some expected ∧
      os.find? (·.settles) = some (.concluded .agreed) := by
  cases reach with
  | refused cause => cases ad
  | silent => cases ad
  | connected far =>
    cases far with
    | plain => cases tls.symm.trans ad
    | tls server =>
      obtain ⟨policy', expected, tls', name, agreed⟩ := ad
      cases tls.symm.trans tls'
      exact ⟨server, expected, rfl, name, agreed⟩

/-- Nothing travels, unless the preamble may be sent. -/
lemma silent_of_not_admits (no : ¬ Admits plan dest course.reach (met course os)) :
    ((follow plan dest course).meetAll os).toUpstream = [] ∧ ((follow plan dest course).meetAll os).toClient = [] := by
  have rcv : (course.client.after .client course.early).received = [] := Endpoint.received_after _ _ _
  have fresh : course.peer.received = [] := rfl
  have wh := withheld_of_not_admits "" rfl rcv fresh no
  rw [← answered, ← meetAll_follow] at wh
  obtain ⟨-, none, nothing⟩ := wh.held.1
  exact ⟨List.prefix_nil.mp nothing, none⟩

lemma stage_answered_plain (tls : plan.tls = some policy) (conn : course.reach = .connected .plain)
    (name : policy.expectedName? (plan.nextHop dest).host = some expected) :
    (answered plan dest course).stage =
      Stage.secure (course.client.after .client course.early) course.peer (policy.client expected)
        (plan.nextHop dest).host := by
  rw [answered, conn]
  simp only [dial, answer, tls, hop, Stage.handshake, name]

lemma stage_answered_server {server : Tls.Server} (tls : plan.tls = some policy)
    (conn : course.reach = .connected (.tls server))
    (name : policy.expectedName? (plan.nextHop dest).host = some expected) :
    (answered plan dest course).stage = .agreeing (course.client.after .client course.early) course.peer := by
  rw [answered, conn]
  exact agreeing_answer tls name _ _ server

/-- Once a handshake with a server is settled well for the client, the server is one that the policy trusts. -/
lemma trusts_of_judged {server : Tls.Server} (sound : judge.Sound issues)
    (judged : Judged judge plan dest course.reach os) (tls : plan.tls = some policy)
    (conn : course.reach = .connected (.tls server))
    (name : policy.expectedName? (plan.nextHop dest).host = some expected) {outcome : Tls.Outcome}
    (mem : .concluded outcome ∈ met course os) (well : outcome.client = .ok ()) :
    policy.Trusts issues (plan.nextHop dest).host server :=
  ⟨expected, name, (judged policy expected server outcome tls name conn (mem_of_met mem)).accepts sound well⟩

/-- With a server that is not trusted, what settles a handshake first is a failure. -/
lemma undecided_or_fails_server {server : Tls.Server} (sound : judge.Sound issues)
    (judged : Judged judge plan dest course.reach os) (tls : plan.tls = some policy)
    (conn : course.reach = .connected (.tls server))
    (name : policy.expectedName? (plan.nextHop dest).host = some expected)
    (no : ¬ policy.Trusts issues (plan.nextHop dest).host server) (reads : Source) :
    Undecided (policy.client expected) reads (.tls server) (met course os) ∨
      ∃ cause, Fails (policy.client expected) reads (.tls server) (met course os) cause := by
  cases first : (met course os).find? (·.settles) with
  | none => exact .inl (by simpa [Undecided] using List.find?_eq_none.mp first)
  | some o =>
    obtain ⟨st, before, later, split, passed⟩ := List.find?_eq_some_iff_append.mp first
    have un : Undecided (policy.client expected) reads (.tls server) before := by simpa [Undecided] using passed
    rw [split]
    cases o with
    | happens e => cases st
    | lapse => exact .inr ⟨_, .late un⟩
    | concluded outcome =>
      cases verdict : outcome.client with
      | error cause => exact .inr ⟨cause, .refused un verdict⟩
      | ok =>
        have mem : .concluded outcome ∈ met course os := List.mem_of_find?_eq_some first
        exact absurd (trusts_of_judged sound judged tls conn name mem verdict) no

lemma fails_closed (sound : judge.Sound issues) (tls : plan.tls = some policy)
    (judged : Judged judge plan dest course.reach os) :
    FailsClosed issues plan policy dest course os ((follow plan dest course).meetAll os) := by
  have rcv : (course.client.after .client course.early).received = [] := Endpoint.received_after _ _ _
  have hop : (answered plan dest course).hop = plan.nextHop dest := hop_answer _ _ _
  refine ⟨?dials, ?trusted, ?nameless, ?undecided, ?failed, ?untrusted, ?unwelcome⟩
  case dials =>
    rw [dials_meetAll_follow]
    simp [Plan.nextHop, Plan.hopPort, tls]
  case trusted =>
    intro bytes
    by_cases ad : Admits plan dest course.reach (met course os)
    · obtain ⟨server, expected, conn, name, agreed⟩ := exists_server_of_admits tls ad
      have mem := List.mem_of_find?_eq_some agreed
      exact ⟨server, expected, conn, name, agreed, trusts_of_judged sound judged tls conn name mem rfl⟩
    · obtain ⟨nothing, none⟩ := silent_of_not_admits ad
      simp [nothing, none] at bytes
  case nameless =>
    intro far conn name
    rw [meetAll_follow]
    apply Stage.Lost.dialFailed
    apply Stage.Lost.meetAll
    rw [answered, conn]
    simp only [dial, answer, tls, Outbound.hop, Stage.handshake, name]
    cases far <;> exact Stage.lost_insecure rcv rfl _ _
  case undecided =>
    intro far expected conn name un
    rw [meetAll_follow]
    cases far with
    | plain =>
      have eq := Stage.securing_of_undecided (stage_answered_plain tls conn name) un
      simp [result?, toUpstream, upstream?, toClient, client, eq, Course.client, Course.peer]
    | tls server =>
      have eq := stage_of_unsettled (stage_answered_server tls conn name) un
      simp [result?, toUpstream, upstream?, toClient, client, eq, Course.client, Course.peer]
  case failed =>
    intro far expected cause conn name fs
    rw [meetAll_follow]
    apply Stage.Lost.dialFailed
    rw [← hop]
    cases far with
    | plain =>
      have eq := stage_answered_plain tls conn name
      rw [← hop] at eq
      exact Stage.lost_of_fails_plain eq rcv rfl fs
    | tls server => exact Stage.lost_of_fails_server (stage_answered_server tls conn name) rcv rfl fs
  case untrusted =>
    intro far expected conn name no
    cases far with
    | plain => exact undecided_or_fails _ _ _
    | tls server => exact undecided_or_fails_server sound judged tls conn name (no server rfl) _
  case unwelcome =>
    intro server expected fault conn name first
    have no : ¬ Admits plan dest course.reach (met course os) := by
      rw [conn]
      rintro ⟨_, _, _, _, agreed⟩
      rw [first] at agreed
      cases agreed
    refine ⟨?_, silent_of_not_admits no⟩
    obtain ⟨-, before, later, split, passed⟩ := List.find?_eq_some_iff_append.mp first
    rw [meetAll_follow, split, meetAll_of_settled (stage_answered_server tls conn name) (by simpa using passed)]
    exact (result_meetAll_of_refused (by rfl) later).trans (by rfl)

/-- Without a policy, an answer other than a refusal leaves a session in the clear. -/
lemma clear_answered (tls : plan.tls = none) (dest : Destination)
    (no : ∀ cause, course.reach ≠ .refused cause) : (answered plan dest course).stage.Clear := by
  cases reach : course.reach with
  | refused cause => exact absurd reach (no cause)
  | silent =>
    simp only [answered, reach]
    exact .dialing
  | connected far =>
    simp only [answered, reach, dial, answer, tls]
    cases far with
    | plain => exact Stage.clear_greet _ _ _
    | tls server => exact .refused rfl

lemma in_the_clear (tls : plan.tls = none) (dest : Destination) (course : Course)
    (os : List Occurrence) :
    InTheClear plan dest course ((follow plan dest course).meetAll os) := by
  have dials : ((follow plan dest course).meetAll os).dials =
      [(NextHop.mk (plan.nextHop dest).host plan.externalPort).toText] := by
    rw [dials_meetAll_follow]
    simp [Plan.nextHop, Plan.hopPort, tls]
  by_cases refused : ∃ cause, course.reach = .refused cause
  · obtain ⟨cause, reach⟩ := refused
    have ended : (answered plan dest course).stage =
        .refused { client := (course.client.after .client course.early).drop
                   failure := .dial (plan.nextHop dest).toText cause } := by
      rw [answered, reach]
      rfl
    have stage := stage_meetAll_of_refused ended (met course os)
    rw [← meetAll_follow] at stage
    refine ⟨dials, by simp [stage], ?_⟩
    intro target cause' result
    simp only [result?, stage, Option.some.injEq, Except.error.injEq, Failure.dial.injEq] at result
    obtain ⟨rfl, rfl⟩ := result
    exact ⟨reach, rfl⟩
  · have cl := (clear_answered tls dest (not_exists.mp refused)).meetAll (met course os)
    rw [← meetAll_follow] at cl
    obtain ⟨no_handshake, no_failure⟩ := cl.not_dial
    exact ⟨dials, no_handshake, fun target cause result => absurd result (no_failure target cause)⟩

def samplePlan : Plan :=
  { bindIp := .v4 .loopback, internalPort := 18000, externalPort := 18001, externalTlsPort := 18443
    hopOverride := some "127.0.0.1", timeout := 5000, gateway := false, tls := none }

/-- A policy that both ends of a connection can apply. -/
def samplePolicy : Tls.Policy :=
  { trusted := [⟨[1], [2]⟩], credential := ⟨[[3], [2]], [.dns "mesh"], .p256⟩, serverName := some (.dns "mesh") }

/-- A chain leads to the authority whose key stands at its end. -/
def sampleJudge : Tls.Judge := .ofIssuing fun authority chain => chain.getLast? == some authority.keyInfo

/-- A server whose chain leads to another authority. -/
def strangeServer : Tls.Server := ⟨[⟨[1], [9]⟩], ⟨[[3], [9]], [.dns "mesh"], .p256⟩⟩

end Outbound

end MeshProxy
