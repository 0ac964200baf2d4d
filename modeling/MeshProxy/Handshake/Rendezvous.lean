import MeshProxy.Handshake.Exchange

/-!
# The rendezvous

One byte with which the receiving sidecar tells the sending one that the destination is connected. The
sending sidecar reads exactly that byte, so that relayed bytes right behind it stay in the stream.
-/

namespace MeshProxy.Rendezvous

/-- The byte: a capital Y. -/
def byte : UInt8 := 0x59

/-- Sends the byte and flushes it. -/
def send (sink : Sink) : Sent :=
  sink.send [byte] .sendRendezvous .flushRendezvous

/-- Waits for the byte. Interrupted reads are tried again. -/
def await : Source → Awaited Unit × Source
  | [] => (.waits, [])
  | .finish :: rest => (.failed (.awaitRendezvous .earlyEnd), .finish :: rest)
  | .fault e :: rest =>
    if e.isInterruption then await rest else (.failed (.awaitRendezvous e), rest)
  | .data [] :: rest => (.failed (.awaitRendezvous .earlyEnd), rest)
  | .data (b :: more) :: rest =>
    let left := if more = [] then rest else .data more :: rest
    if b = byte then (.arrived (), left) else (.failed (.wrongRendezvous b), left)

end MeshProxy.Rendezvous
