import MeshProxy.Session.Failure
import MeshProxy.Stream.Sink
import MeshProxy.Stream.Source

/-!
# Handshake reads and writes

The two kinds of step a handshake is made of: sending some bytes whole and flushing them, and waiting for
something from the peer.
-/

namespace MeshProxy

/-- The outcome of a handshake write: what was written, how often it was flushed, and the fault if
there was one. -/
structure Sent where
  written : Written
  flushes : Nat
  fault : Option HandshakeFault
deriving DecidableEq, Repr

/-- The fault behind a refused handshake write. -/
def Refusal.cause : Refusal → IoFault
  | .fault e => e
  | .tookNothing => .tookNothing

/-- Writes all bytes and flushes once, with a name for each of the two ways to fail. -/
def Sink.send (sink : Sink) (bytes : Bytes) (onWrite onFlush : IoFault → HandshakeFault) : Sent :=
  let written := sink.writeAll bytes
  match written.refusal with
  | some refusal => ⟨written, 0, some (onWrite refusal.cause)⟩
  | none => ⟨written, 1, written.sink.flushFault.map onFlush⟩

/-- The outcome of waiting for something from a peer. -/
inductive Awaited (α : Type) where
  | waits
  | arrived (value : α)
  | failed (fault : HandshakeFault)
deriving DecidableEq, Repr

end MeshProxy
