import MeshProxy.Listening.AcceptLoop
import MeshProxy.Net.Redirection
import MeshProxy.Persona.Inbound
import MeshProxy.Persona.Outbound

/-!
# A listener and its sessions

Every connection that the accept loop of a listener hands over gets a session of its own, and the loop goes on
without waiting for it. The role of the listener decides what kind of session that is: an outbound one if the
kernel can tell where the connection was meant to go, an inbound one, or an inbound one behind a TLS handshake.
How a session fares is its own affair. It runs beside the loop and may go on when the loop has returned.
-/

namespace MeshProxy

/-- The session of a connection, whatever the role of its listener. -/
inductive Session where
  /-- Over before a persona has taken it on. -/
  | unstarted (failure : Failure)
  /-- In the TLS handshake with the client, whose stream is the one behind the handshake. -/
  | securing (client : Endpoint)
  | inbound (session : Inbound)
  | outbound (session : Outbound)

namespace Session

/-- What can come to a session. -/
inductive Input where
  /-- Something happens on one of its streams. -/
  | happens (side : Relay.Side) (event : StreamEvent)
  /-- Its dial is answered; `upstream` is the stream behind a connection. -/
  | answered (reach : Reach) (upstream : Endpoint)
  /-- The TLS handshake with its client is over. -/
  | secured (outcome : Except IoFault Unit)
  /-- The TLS handshake with its next hop is over. -/
  | concluded (outcome : Tls.Outcome)
  /-- The time for a TLS handshake has passed. -/
  | expires

/-- The session after something has come to it. `own` is the text of the own internal address. -/
def step (own : String) : Session → Input → Session
  | .securing client, .happens .client event => .securing (client.apply event)
  | .securing client, .secured (.ok ()) => .inbound (Inbound.greet own client)
  | .securing _, .secured (.error cause) => .unstarted (.handshake (.tlsRefused cause))
  | .securing _, .expires => .unstarted (.handshake .tlsTimedOut)
  | .inbound session, .happens side event => .inbound (session.react own side event)
  | .inbound session, .answered reach upstream => .inbound (session.answer reach upstream)
  | .outbound session, .happens side event => .outbound (session.step side event)
  | .outbound session, .answered reach upstream => .outbound (session.answer reach upstream)
  | .outbound session, .concluded outcome => .outbound (session.conclude outcome)
  | .outbound session, .expires => .outbound session.expire
  | session, _ => session

/-- The session of a connection as it begins. `ask` says what the kernel answers about a connection. -/
def start (plan : Plan) (ask : Connection → Redirection) (role : Role) (connection : Connection) :
    Session :=
  match role with
  | .internal =>
    match (ask connection).resolve with
    | .ok dest => .outbound (Outbound.dial plan dest {})
    | .error failure => .unstarted failure
  | .external => .inbound (Inbound.greet plan.internalAddress.toText {})
  | .externalTls => .securing {}

end Session

/-- How connections are handled: how the session of one begins, and how it goes on with what comes to it. -/
structure Handling (σ ι : Type) where
  start : Connection → σ
  step : σ → ι → σ

/-- How a listener of this role handles its connections. -/
def Role.handling (role : Role) (plan : Plan) (ask : Connection → Redirection) :
    Handling Session Session.Input where
  start := Session.start plan ask role
  step := Session.step plan.internalAddress.toText

/-- A connection that has been handed over, and how far its session has come. -/
structure Handed (σ : Type) where
  connection : Connection
  session : σ

/-- A listener at work: its accept loop, and the connections handed over so far. -/
structure Service (σ : Type) where
  loop : AcceptLoop := {}
  handed : List (Handed σ) := []

/-- What can be next at a listener. A turn is one moment: what comes while the loop takes it comes behind it. -/
inductive Moment (ι : Type) where
  /-- Something comes to the listener. -/
  | event (event : LoopEvent)
  /-- The loop takes a turn. -/
  | turn
  /-- Something comes to the session of the connection with this number. -/
  | session (number : Nat) (input : ι)

namespace Service

variable {σ ι : Type}

/-- The connections handed over so far, in order. -/
def dispatched (service : Service σ) : List Connection := service.handed.map (·.connection)

/-- Hands a connection over, if there is one. -/
def dispatch (handling : Handling σ ι) (service : Service σ) : Option Connection → Service σ
  | none => service
  | some c => { service with handed := service.handed ++ [⟨c, handling.start c⟩] }

/-- The service after a moment. -/
def step (handling : Handling σ ι) (service : Service σ) : Moment ι → Service σ
  | .event e => { service with loop := service.loop.note e }
  | .turn => dispatch handling { service with loop := service.loop.turn.1 } service.loop.turn.2
  | .session number input =>
    { service with
      handed := service.handed.modify number fun h => { h with session := handling.step h.session input } }

/-- The service after moment upon moment. -/
def after (handling : Handling σ ι) (service : Service σ) (moments : List (Moment ι)) : Service σ :=
  moments.foldl (step handling) service

end Service

end MeshProxy
