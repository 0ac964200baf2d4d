import MeshProxy.Handshake.Preamble
import MeshProxy.Handshake.Rendezvous
import MeshProxy.Persona.Reach
import MeshProxy.Relay.Duplex

/-!
# The inbound persona

A session with another sidecar: read the preamble, refuse the address of the own internal listener, dial
the destination, answer with the rendezvous byte, and relay. The session is a value that each event on one
of its streams moves on; it ends before relaying, or with the relay.
-/

namespace MeshProxy

/-- How far an inbound session has come. -/
inductive Inbound where
  /-- Waiting for the preamble. -/
  | greeting (client : Endpoint)
  /-- Waiting for the destination to answer the dial. -/
  | dialing (client : Endpoint) (target : String)
  /-- Over before relaying; `dialed` is the target if one was dialed, `upstream` the connection if
  there was one. -/
  | refused (client : Endpoint) (dialed : Option String) (upstream : Option Endpoint)
    (failure : Failure)
  /-- Relaying, or over after that. -/
  | relaying (target : String) (relay : Relay)

namespace Inbound

/-- What an inbound session is given: the text of the own internal address, and what each dial meets. -/
structure Setting where
  ownAddress : String
  reach : String → Reach

/-- Answers a connected destination with the rendezvous and starts to relay. -/
def connect (client upstream : Endpoint) (target : String) : Inbound :=
  let sent := Rendezvous.send client.sink
  let client := client.absorb sent.written
  match sent.fault with
  | some fault => .refused client.drop (some target) (some upstream.drop) (.handshake fault)
  | none => .relaying target (Relay.start client upstream)

/-- Goes on with a valid target: refuses the own address and dials any other. -/
def dial (ownAddress : String) (client : Endpoint) (target : String) : Inbound :=
  if target = ownAddress then .refused client.drop none none (.loopback target)
  else .dialing client target

/-- Goes on as soon as the preamble can be read. -/
def greet (ownAddress : String) (client : Endpoint) : Inbound :=
  match Preamble.read client.source with
  | (.waits, rest) => .greeting { client with source := rest }
  | (.failed fault, rest) =>
    .refused (Endpoint.drop { client with source := rest }) none none (.handshake fault)
  | (.arrived target, rest) => dial ownAddress { client with source := rest } target

/-- Goes on with what the dial has met, if one is not answered yet; `upstream` is the stream behind a
connection. -/
def answer (session : Inbound) (reach : Reach) (upstream : Endpoint := {}) : Inbound :=
  match session with
  | .dialing client target =>
    match reach with
    | .refused cause => .refused client.drop (some target) none (.dial target cause)
    | .silent => .dialing client target
    | .connected _ => connect client upstream target
  | session => session

/-- The session after an event on one side, run until it waits for a stream or for its dial. Before
there is an upstream its events go nowhere. -/
def react (ownAddress : String) (session : Inbound) (side : Relay.Side) (event : StreamEvent) :
    Inbound :=
  match session, side with
  | .greeting client, .client => greet ownAddress (client.apply event)
  | .dialing client target, .client => .dialing (client.apply event) target
  | .relaying target relay, side => .relaying target (relay.step side event)
  | session, _ => session

/-- Has a dial met at once what the setting says. -/
def settle (setting : Setting) (session : Inbound) : Inbound :=
  match session with
  | .dialing _ target => session.answer (setting.reach target)
  | session => session

/-- A new session whose dials are answered at once, run until it waits. -/
def start (setting : Setting) (client : Endpoint) : Inbound :=
  settle setting (greet setting.ownAddress client)

/-- Such a session after an event on one side, run until it waits. -/
def step (setting : Setting) (session : Inbound) (side : Relay.Side) (event : StreamEvent) :
    Inbound :=
  settle setting (session.react setting.ownAddress side event)

/-- The client's stream. -/
def client : Inbound → Endpoint
  | .greeting client => client
  | .dialing client _ => client
  | .refused client _ _ _ => client
  | .relaying _ relay => relay.client

/-- The upstream's stream, once there is one. -/
def upstream? : Inbound → Option Endpoint
  | .refused _ _ upstream _ => upstream
  | .relaying _ relay => some relay.upstream
  | _ => none

/-- The targets dialed so far. -/
def dials : Inbound → List String
  | .greeting _ => []
  | .dialing _ target => [target]
  | .refused _ dialed _ _ => dialed.toList
  | .relaying target _ => [target]

/-- How the session ended, if it did. -/
def result? : Inbound → Option (Except Failure Unit)
  | .greeting _ => none
  | .dialing _ _ => none
  | .refused _ _ _ failure => some (.error failure)
  | .relaying _ relay => relay.result?

/-- What the session has reported. -/
def events : Inbound → List SessionEvent
  | .greeting _ => []
  | .dialing _ _ => []
  | .refused _ _ _ failure => [.failed failure]
  | .relaying target relay => .destinationConnected target :: relay.sessionEvents

/-- What the far side of the upstream connection observes. -/
def farEnd : Inbound → FarEnd
  | .refused _ _ (some upstream) _ => .ofDropped upstream
  | .relaying _ relay => if relay.ending.isSome then .ofDropped relay.upstream else .open
  | _ => .absent

end Inbound

end MeshProxy
