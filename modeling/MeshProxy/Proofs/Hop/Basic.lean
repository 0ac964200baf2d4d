import MeshProxy.Proofs.Persona.Inbound
import MeshProxy.Proofs.Persona.Outbound

/-!
# A hop between two sidecars

The outbound session of one sidecar, `near`, and the inbound session of another, `far`, joined in the clear by a
connection that hands on what either writes, in order, after any delay and in any pieces. Only what is handed over first
is handed over whole, since the far session takes the preamble with a single read.

Anything may move at any time: the two dials are answered, the client and the destination send, the client ends, and the
connection hands something over. A move that is not possible changes nothing. So a list of moves is a run, and every
order of moves that are possible is one. The far session is joined to the connection from the start; it waits for the
preamble, so nothing is lost by that.
-/

namespace MeshProxy

/-- How a stream takes what is written to it, if it refuses nothing. -/
abbrev OpenSink := { sink : Sink // sink.Open }

/-- The two sidecars of a hop, the destination, and the four streams as they take what is written to them. -/
structure Hop.Setting where
  nearPlan : Plan
  farPlan : Plan
  dest : Destination
  clientSink : OpenSink := ⟨{}, rfl, rfl⟩
  /-- The connection, as the near session writes to it. -/
  forwardSink : OpenSink := ⟨{}, rfl, rfl⟩
  /-- The connection, as the far session writes to it. -/
  backwardSink : OpenSink := ⟨{}, rfl, rfl⟩
  destSink : OpenSink := ⟨{}, rfl, rfl⟩

/-- A hop, with all that has come to each of the four readers. -/
structure Hop where
  near : Outbound
  far : Inbound
  fromClient : Source := []
  /-- What the connection has handed to the far session. -/
  toFar : Source := []
  /-- What the connection has handed to the near session. -/
  toNear : Source := []
  fromDest : Source := []

namespace Hop

/-- The text of the address that the far sidecar refuses to dial. -/
def Setting.own (setting : Setting) : String := setting.farPlan.internalAddress.toText

/-- What can move. -/
inductive Move where
  | connectNear
  | connectFar
  | clientSends (b : UInt8) (more : Bytes)
  | clientEnds
  | destSends (b : UInt8) (more : Bytes)
  /-- The connection hands so many bytes and one more to the far session, or all if they are the first. -/
  | handFar (more : Nat)
  /-- The connection hands so many bytes and one more to the near session. -/
  | handNear (more : Nat)
  /-- The connection hands on that the near session has ended its direction. -/
  | endFar
deriving DecidableEq, Repr

/-- Before anything moves, the near session dials and the far one waits. -/
def start (setting : Setting) : Hop where
  near := Outbound.dial setting.nearPlan setting.dest { sink := setting.clientSink }
  far := Inbound.greet setting.own { sink := setting.backwardSink }

/-- What the near session has written and the connection has not handed over. -/
def towardFar (h : Hop) : Bytes := h.near.toUpstream.drop h.toFar.payload.length

/-- What the far session has written and the connection has not handed over. -/
def towardNear (h : Hop) : Bytes := h.far.toClient.drop h.toNear.payload.length

/-- The near session meets an arrival from its client. -/
def clientGives (h : Hop) (a : Arrival) : Hop :=
  { h with near := h.near.step .client (.arrives a), fromClient := h.fromClient ++ [a] }

/-- The near session meets an arrival from the connection. -/
def nearHears (h : Hop) (a : Arrival) : Hop :=
  { h with near := h.near.step .upstream (.arrives a), toNear := h.toNear ++ [a] }

/-- The far session meets an arrival from the connection. -/
def farHears (setting : Setting) (h : Hop) (a : Arrival) : Hop :=
  { h with far := h.far.react setting.own .client (.arrives a), toFar := h.toFar ++ [a] }

/-- The far session meets an arrival from its destination. -/
def destGives (setting : Setting) (h : Hop) (a : Arrival) : Hop :=
  { h with far := h.far.react setting.own .upstream (.arrives a), fromDest := h.fromDest ++ [a] }

/-- The hop after a move. -/
def move (setting : Setting) (h : Hop) : Move → Hop
  | .connectNear =>
    { h with near := h.near.answer (.connected .plain) { sink := setting.forwardSink } }
  | .connectFar =>
    { h with far := h.far.answer (.connected .plain) { sink := setting.destSink } }
  | .clientSends b more => if .finish ∈ h.fromClient then h else h.clientGives (.data (b :: more))
  | .clientEnds => if .finish ∈ h.fromClient then h else h.clientGives .finish
  | .destSends b more =>
    if h.far.upstream?.isSome then h.destGives setting (.data (b :: more)) else h
  | .handFar n =>
    match if h.toFar = [] then h.towardFar else h.towardFar.take (n + 1) with
    | [] => h
    | b :: more => h.farHears setting (.data (b :: more))
  | .handNear n =>
    match h.towardNear.take (n + 1) with
    | [] => h
    | b :: more => h.nearHears (.data (b :: more))
  | .endFar =>
    if h.near.farEnd = .ended ∧ h.towardFar = [] ∧ .finish ∉ h.toFar then h.farHears setting .finish
    else h

/-- The hop after a run. -/
def run (setting : Setting) (moves : List Move) : Hop := moves.foldl (move setting) (start setting)

/-- Both dials are answered, and the connection has handed over everything, an end included. -/
structure Quiet (h : Hop) : Prop where
  near : ∀ client, h.near.stage ≠ .dialing client
  far : ∀ client target, h.far ≠ .dialing client target
  towardFar : h.towardFar = []
  towardNear : h.towardNear = []
  ended : h.near.farEnd = .ended → .finish ∈ h.toFar

end Hop

end MeshProxy
