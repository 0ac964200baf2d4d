import MeshProxy.Stream.Source
import MeshProxy.Stream.Sink

/-!
# One end of a two-way stream

A session sees each of its two peers as a source to read from and a sink to write to. The endpoint also
keeps what the peer has received so far, and whether the session has shut its write half or dropped it.
-/

namespace MeshProxy

/-- A stream as the session holds it. -/
structure Endpoint where
  source : Source := []
  /-- The number of bytes that came last. -/
  recent : Nat := 0
  sink : Sink := {}
  received : Bytes := []
  shut : Bool := false
  dropped : Bool := false
deriving DecidableEq, Repr

namespace Endpoint

/-- Appends to what is still to be read. -/
def arrive (e : Endpoint) (arrival : Arrival) : Endpoint :=
  let recent :=
    match arrival with
    | .data bytes => bytes.length
    | _ => e.recent
  { e with source := e.source ++ [arrival], recent }

/-- Gives the stream up. -/
def drop (e : Endpoint) : Endpoint := { e with dropped := true }

/-- Takes over the outcome of writing to the stream. -/
def absorb (e : Endpoint) (w : Written) : Endpoint :=
  { e with sink := w.sink, received := e.received ++ w.accepted }

end Endpoint

/-- What the far side of a stream does, or how the stream behaves from now on. -/
inductive StreamEvent where
  | arrives (arrival : Arrival)
  | failsWrites (after : Nat) (fault : WriteFault)
  | limitsWrites (size : Nat)
  | failsFlushes (fault : IoFault)
  | failsShutdown (fault : IoFault)
deriving DecidableEq, Repr

/-- The stream after an event. -/
def Endpoint.apply (e : Endpoint) : StreamEvent → Endpoint
  | .arrives arrival => e.arrive arrival
  | .failsWrites after fault => { e with sink := { e.sink with fault := some (after, fault) } }
  | .limitsWrites size => { e with sink := { e.sink with limit := some size } }
  | .failsFlushes fault => { e with sink := { e.sink with flushFault := some fault } }
  | .failsShutdown fault => { e with sink := { e.sink with shutdownFault := some fault } }

end MeshProxy
