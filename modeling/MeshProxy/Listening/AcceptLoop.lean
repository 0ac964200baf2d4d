import MeshProxy.Listening.Role

/-!
# The accept loop

A listener hands over each connection it accepts, in order, and carries on after an accept error, until it
is told to stop. The loop goes on turn by turn, and each turn looks for the request to stop first, so that
nothing which is pending at that moment is handed over.
-/

namespace MeshProxy

/-- A connection as the loop hands it over. -/
structure Connection where
  peer : SocketAddress
  /-- The own end, if it can be told. -/
  ownEnd : Option SocketAddress
deriving DecidableEq, Repr

/-- What an accept can answer. -/
inductive Incoming where
  | connection (connection : Connection)
  | fault (cause : IoFault)
deriving DecidableEq, Repr

namespace Incoming

/-- The connection in an answer, if there is one. -/
def connection? : Incoming → Option Connection
  | .connection c => some c
  | .fault _ => none

/-- What is reported of an answer. -/
def event : Incoming → ListenerEvent
  | .connection c => .accepted c.peer c.ownEnd
  | .fault cause => .acceptFailed cause

end Incoming

/-- What can come to a listener. -/
inductive LoopEvent where
  /-- An answer to a later accept. -/
  | incoming (incoming : Incoming)
  /-- The request to stop. -/
  | stop
deriving DecidableEq, Repr

/-- The state of an accept loop: what is pending, whether it was told to stop, what it has reported, and
whether it has returned and closed its listener. -/
structure AcceptLoop where
  pending : List Incoming := []
  stopping : Bool := false
  events : List ListenerEvent := []
  closed : Bool := false
deriving DecidableEq, Repr

namespace AcceptLoop

/-- Something comes to the listener. The loop does not act on it before its next turn. -/
def note (loop : AcceptLoop) : LoopEvent → AcceptLoop
  | .incoming i => { loop with pending := loop.pending ++ [i] }
  | .stop => { loop with stopping := true }

/-- One turn of the loop, and the connection it hands over, if it does. The request to stop is looked at
first; then one pending answer is taken. A loop with nothing to do waits. -/
def turn (loop : AcceptLoop) : AcceptLoop × Option Connection :=
  if loop.closed then (loop, none)
  else if loop.stopping then ({ loop with events := loop.events ++ [.closed], closed := true }, none)
  else
    match loop.pending with
    | [] => (loop, none)
    | i :: rest => ({ loop with pending := rest, events := loop.events ++ [i.event] }, i.connection?)

end AcceptLoop

end MeshProxy
