import MeshProxy.Handshake.Exchange

/-!
# The preamble

The sending sidecar writes the target as bare text, without length or terminator, and flushes. The
receiving sidecar takes it with one bounded read, so that bytes sent after it stay in the stream.
-/

namespace MeshProxy.Preamble

/-- Sends a target; a text that is none is refused before anything is written. -/
def send (sink : Sink) (target : String) : Sent :=
  match Target.fault? target with
  | some fault => ⟨⟨[], sink, none⟩, 0, some (.target target fault)⟩
  | none => sink.send (bytesOf target) .sendPreamble .flushPreamble

/-- The target in the bytes of the first read. -/
def ofChunk (chunk : Bytes) : Except HandshakeFault String :=
  if chunk = [] then .error .emptyPreamble
  else
    match Text.ofUtf8? chunk with
    | none => .error .preambleNotText
    | some text =>
      match Target.fault? text with
      | some fault => .error (.target text fault)
      | none => .ok text

/-- Reads a target with a single read, which is not tried again. -/
def read (source : Source) : Awaited String × Source :=
  match source.read Target.maxBytes with
  | (.waits, rest) => (.waits, rest)
  | (.fails e, rest) => (.failed (.readPreamble e), rest)
  | (.bytes chunk, rest) =>
    match ofChunk chunk with
    | .error fault => (.failed fault, rest)
    | .ok target => (.arrived target, rest)

end MeshProxy.Preamble
