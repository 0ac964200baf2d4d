import MeshProxy.Handshake.Preamble
import MeshProxy.Handshake.Rendezvous
import MeshProxy.Persona.Reach
import MeshProxy.Relay.Duplex
import MeshProxy.Routing.Plan
import MeshProxy.Tls.Hearing

/-!
# The outbound persona

A session with a redirected workload: dial the next hop, over TLS if there is a policy, send the
destination as preamble, wait for the rendezvous byte, and relay. What the client sends before that stays
in its stream. There is one dial and no attempt in the clear when TLS fails. What a TLS handshake with a server
comes to is told the session; a peer that does not speak TLS is heard out.
-/

namespace MeshProxy

/-- An outbound session that ended before relaying. -/
structure Outbound.Refused where
  client : Endpoint
  upstream : Option Endpoint := none
  /-- The next hop was connected, over TLS if that was asked for. -/
  connected : Bool := false
  /-- What the TLS handshake was to the far side, if it failed there. -/
  farFault : Option Tls.Fault := none
  failure : Failure

/-- How far an outbound session has come. -/
inductive Outbound.Stage where
  /-- Waiting for the next hop to answer the dial. -/
  | dialing (client : Endpoint)
  /-- Waiting in a TLS handshake with something that does not speak TLS. -/
  | securing (client upstream : Endpoint) (tls : Tls.Client)
  /-- In a TLS handshake with a TLS server. The stream of the upstream is the one behind the handshake, and is
  not read yet. -/
  | agreeing (client upstream : Endpoint)
  /-- The preamble is sent; waiting for the rendezvous. -/
  | greeting (client upstream : Endpoint)
  | refused (refused : Outbound.Refused)
  /-- Relaying, or over after that. -/
  | relaying (relay : Relay)

/-- An outbound session: the shared plan, the destination, the targets dialed so far, and how far it
has come. -/
structure Outbound where
  plan : Plan
  dest : Destination
  dials : List String
  stage : Outbound.Stage

namespace Outbound

namespace Stage

/-- Waits for the rendezvous and starts to relay. -/
def await (client upstream : Endpoint) : Stage :=
  match Rendezvous.await upstream.source with
  | (.waits, rest) => .greeting client { upstream with source := rest }
  | (.failed fault, rest) =>
    .refused {
      client := client.drop
      upstream := some (Endpoint.drop { upstream with source := rest })
      connected := true
      failure := .handshake fault }
  | (.arrived (), rest) => .relaying (Relay.start client { upstream with source := rest })

/-- Sends the preamble over a connected upstream and waits for the rendezvous. -/
def greet (client upstream : Endpoint) (target : String) : Stage :=
  let sent := Preamble.send upstream.sink target
  let upstream := upstream.absorb sent.written
  match sent.fault with
  | some fault =>
    .refused {
      client := client.drop
      upstream := some upstream.drop
      connected := true
      failure := .handshake fault }
  | none => await client upstream

/-- Goes on in the clear with a TLS server: it cannot read the preamble, and answers with an alert, which
is no rendezvous. -/
def misread (client upstream : Endpoint) (target : String) : Stage :=
  let sent := Preamble.send upstream.sink target
  .refused {
    client := client.drop
    upstream := some (Endpoint.drop { upstream with sink := sent.written.sink })
    connected := true
    farFault :=
      match Tls.Record.take? sent.written.accepted with
      | .error fault => some (.corrupt fault)
      | .ok _ => none
    failure := .handshake (sent.fault.getD (.wrongRendezvous Tls.ContentType.alert.code)) }

/-- Ends a session whose TLS handshake failed; the failure names the host that was dialed. -/
def insecure (client upstream : Endpoint) (host : String) (fault : Tls.Fault)
    (farFault : Option Tls.Fault) : Stage :=
  .refused {
    client := client.drop
    upstream := some upstream.drop
    farFault
    failure := .dial host fault.toIoFault }

/-- Goes on with a TLS handshake in which the peer answers with anything but TLS. -/
def secure (client upstream : Endpoint) (tls : Tls.Client) (host : String) : Stage :=
  let (heard, rest) := upstream.source.opening
  let spent := { upstream with source := rest }
  match (Tls.Party.client tls).hear heard, rest with
  | .failed fault, _ => insecure client spent host fault none
  | _, .finish :: _ => insecure client spent host .handshakeEnd none
  | _, .fault cause :: rest =>
    .refused {
      client := client.drop
      upstream := some (Endpoint.drop { upstream with source := rest })
      failure := .dial host cause }
  | _, _ => .securing client upstream tls

/-- Goes on with a connection to the next hop under a TLS policy. -/
def handshake (client upstream : Endpoint) (policy : Tls.Policy) (far : Far) (host : String) : Stage :=
  match policy.expectedName? host, far with
  | none, .plain => insecure client upstream host .invalidServerName none
  | none, .tls _ => insecure client upstream host .invalidServerName (some .handshakeEnd)
  | some expected, .plain => secure client upstream (policy.client expected) host
  | some _, .tls _ => .agreeing client upstream

/-- Goes on with what the TLS handshake with a server has come to. A server that refuses the client says so
only when the client's own part is done. -/
def conclude (client upstream : Endpoint) (outcome : Tls.Outcome) (host target : String) : Stage :=
  match outcome with
  | .agreed => greet client upstream target
  | .refusedByClient fault =>
    insecure client upstream host (.certificate fault) (some (.alerted fault.alert))
  | .refusedByServer fault =>
    .refused {
      client := client.drop
      upstream := some upstream.drop
      connected := true
      farFault := some (.certificate fault)
      failure := .handshake (.awaitRendezvous (Tls.Fault.alerted fault.alert).toIoFault) }
  | .broken cause =>
    .refused {
      client := client.drop
      upstream := some upstream.drop
      farFault := some .handshakeEnd
      failure := .dial host cause }

end Stage

/-- The next hop of the session. -/
def hop (session : Outbound) : NextHop := session.plan.nextHop session.dest

/-- The text of the destination, which travels as the preamble. -/
def target (session : Outbound) : String := session.dest.toText

/-- A new session: before anything else it dials its next hop. -/
def dial (plan : Plan) (dest : Destination) (client : Endpoint) : Outbound :=
  ⟨plan, dest, [(plan.nextHop dest).toText], .dialing client⟩

/-- Goes on with what the dial has met, if it is not answered yet; `upstream` is the stream behind a
connection. -/
def answer (session : Outbound) (reach : Reach) (upstream : Endpoint := {}) : Outbound :=
  match session.stage with
  | .dialing client =>
    let stage : Stage :=
      match reach with
      | .refused cause =>
        .refused { client := client.drop, failure := .dial session.hop.toText cause }
      | .silent => .dialing client
      | .connected far =>
        match session.plan.tls, far with
        | none, .plain => Stage.greet client upstream session.target
        | none, .tls _ => Stage.misread client upstream session.target
        | some policy, far => Stage.handshake client upstream policy far session.hop.host
    { session with stage }
  | _ => session

/-- A new session whose dial meets `reach` at once, run until it waits. -/
def start (plan : Plan) (dest : Destination) (reach : Reach) (client : Endpoint) : Outbound :=
  (dial plan dest client).answer reach

/-- The session after an event on one side, run until it waits. Before there is an upstream its events
go nowhere. -/
def step (session : Outbound) (side : Relay.Side) (event : StreamEvent) : Outbound :=
  let stage : Stage :=
    match session.stage, side with
    | .dialing client, .client => .dialing (client.apply event)
    | .securing client upstream tls, .client => .securing (client.apply event) upstream tls
    | .securing client upstream tls, .upstream =>
      Stage.secure client (upstream.apply event) tls session.hop.host
    | .agreeing client upstream, .client => .agreeing (client.apply event) upstream
    | .agreeing client upstream, .upstream => .agreeing client (upstream.apply event)
    | .greeting client upstream, .client => .greeting (client.apply event) upstream
    | .greeting client upstream, .upstream => Stage.await client (upstream.apply event)
    | .relaying relay, side => .relaying (relay.step side event)
    | stage, _ => stage
  { session with stage }

/-- The session once its TLS handshake with a server has come to an end, if it is in one. -/
def conclude (session : Outbound) (outcome : Tls.Outcome) : Outbound :=
  match session.stage with
  | .agreeing client upstream =>
    { session with stage := Stage.conclude client upstream outcome session.hop.host session.target }
  | _ => session

/-- The session once the time for a TLS handshake has passed: over if it is still in one. -/
def expire (session : Outbound) : Outbound :=
  match session.stage with
  | .securing client upstream _ =>
    { session with stage := Stage.insecure client upstream session.hop.host .tooSlow none }
  | .agreeing client upstream =>
    { session with
      stage := Stage.insecure client upstream session.hop.host .tooSlow (some .handshakeEnd) }
  | _ => session

/-- The client's stream. -/
def client (session : Outbound) : Endpoint :=
  match session.stage with
  | .dialing client => client
  | .securing client _ _ => client
  | .agreeing client _ => client
  | .greeting client _ => client
  | .refused refused => refused.client
  | .relaying relay => relay.client

/-- The upstream's stream, once there is one. -/
def upstream? (session : Outbound) : Option Endpoint :=
  match session.stage with
  | .dialing _ => none
  | .securing _ upstream _ => some upstream
  | .agreeing _ upstream => some upstream
  | .greeting _ upstream => some upstream
  | .refused refused => refused.upstream
  | .relaying relay => some relay.upstream

/-- How the session ended, if it did. -/
def result? (session : Outbound) : Option (Except Failure Unit) :=
  match session.stage with
  | .refused refused => some (.error refused.failure)
  | .relaying relay => relay.result?
  | _ => none

/-- The report that the next hop is connected. -/
def connectedEvent (session : Outbound) : SessionEvent :=
  .hopConnected session.hop.toText session.target session.plan.tls.isSome

/-- What the session has reported. -/
def events (session : Outbound) : List SessionEvent :=
  match session.stage with
  | .dialing _ => []
  | .securing _ _ _ => []
  | .agreeing _ _ => []
  | .greeting _ _ => [session.connectedEvent]
  | .refused refused =>
    (if refused.connected then [session.connectedEvent] else []) ++ [.failed refused.failure]
  | .relaying relay => session.connectedEvent :: relay.sessionEvents

/-- What the far side of the upstream connection observes. -/
def farEnd (session : Outbound) : FarEnd :=
  let dropped := fun upstream : Endpoint =>
    if session.plan.tls.isSome then FarEnd.ofDroppedTls upstream else .ofDropped upstream
  match session.stage with
  | .dialing _ => .absent
  | .securing _ _ _ => .open
  | .agreeing _ _ => .open
  | .greeting _ _ => .open
  | .refused refused =>
    match refused.upstream, refused.farFault with
    | none, _ => .absent
    | some _, some fault => .tlsFailed fault
    | some upstream, none =>
      if refused.connected then dropped upstream else .ofDropped upstream
  | .relaying relay => if relay.ending.isSome then dropped relay.upstream else .open

end Outbound

end MeshProxy
