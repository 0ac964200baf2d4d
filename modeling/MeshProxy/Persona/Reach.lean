import MeshProxy.Stream.Endpoint
import MeshProxy.Tls.Handshake

/-!
# Reaching a peer

What a connection attempt meets, and what the far side of a connection observes once the session is done
with it.
-/

namespace MeshProxy

/-- What answers at the far side of a connection. -/
inductive Far where
  /-- Something that reads and writes bytes. -/
  | plain
  /-- A TLS server. -/
  | tls (server : Tls.Server)
deriving DecidableEq, Repr

/-- What becomes of a connection attempt. -/
inductive Reach where
  | connected (far : Far)
  | refused (cause : IoFault)
  /-- No answer, for as long as anyone waits. -/
  | silent
deriving DecidableEq, Repr

/-- What reaches the session when the far side closes without ceremony: the end of a plain stream, a
fault of a TLS stream. -/
def Arrival.ofClose (secure : Bool) : Arrival :=
  if secure then .fault Tls.Fault.closedSilently.toIoFault else .finish

/-- What the far side of a session's upstream connection observes. -/
inductive FarEnd where
  /-- There is no connection. -/
  | absent
  | open
  /-- The session has ended its direction. -/
  | ended
  /-- Reading from the session fails. -/
  | failed (cause : IoFault)
  /-- The TLS handshake with the session failed. -/
  | tlsFailed (fault : Tls.Fault)
deriving DecidableEq, Repr

namespace FarEnd

/-- What is observed of a plain stream that the session has dropped: a reset if bytes were still
unread, otherwise the end of the stream. -/
def ofDropped (upstream : Endpoint) : FarEnd :=
  if upstream.source.payload = [] then .ended else .failed (.system 104)

/-- The most bytes of plaintext that one TLS record holds. -/
def recordLimit : Nat := 16384

/-- What a TLS record adds to the plaintext it holds. -/
def recordOverhead : Nat := 22

/-- The number of TLS records that some bytes of plaintext take. -/
def records (length : Nat) : Nat := (length + recordLimit - 1) / recordLimit

/-- The bytes that a TLS stream takes from its connection before any record is used up. -/
def readAhead : Nat := recordLimit + 2048 + 5

/-- Whether a TLS stream has left bytes in its connection. It takes some ahead of being read, and makes room
for as many as a record has whenever one is used up. -/
def isClogged (upstream : Endpoint) : Bool :=
  let used := records (upstream.recent - upstream.source.payload.length)
  readAhead + (used - 1) * (recordLimit + recordOverhead) <
    upstream.recent + records upstream.recent * recordOverhead

/-- What is observed of a TLS stream that the session has dropped: a reset if bytes were left in the
connection; otherwise its end if the session shut its direction, or else a close without notice. -/
def ofDroppedTls (upstream : Endpoint) : FarEnd :=
  if isClogged upstream then .failed (.system 104)
  else if upstream.shut then .ended
  else .failed Tls.Fault.closedSilently.toIoFault

end FarEnd

end MeshProxy
