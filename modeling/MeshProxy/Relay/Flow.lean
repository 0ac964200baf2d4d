import MeshProxy.Stream.Endpoint

/-!
# One direction of a relay

A flow copies what one stream supplies into the other, in chunks of at most 8192 bytes. It flushes what it
has written when there is nothing more to read, and once more at the end of the stream. Interrupted reads
and writes are repeated; every other fault ends the flow, and so does the end of the stream.
-/

namespace MeshProxy

/-- What a flow remembers between its turns: how many bytes it has written, and whether some of them
have not been flushed. -/
structure Flow where
  copied : Nat := 0
  unflushed : Bool := false
deriving DecidableEq, Repr

namespace Flow

/-- The size of the copy buffer. -/
def bufferSize : Nat := 8192

/-- The fault with which a refused write ends a flow. -/
def causeOf : Refusal → IoFault
  | .fault e => e
  | .tookNothing => .tookNothingWhileCopying

/-- The outcome of writing buffers one after another: the bytes accepted, the sink afterwards, and, if
a write was refused, why, with the bytes of the buffers not yet filled. -/
structure Poured where
  accepted : Bytes
  sink : Sink
  refused : Option (IoFault × Bytes) := none
deriving DecidableEq, Repr

/-- Writes buffer after buffer until one is refused. -/
def pour (sink : Sink) : List Bytes → Poured
  | [] => ⟨[], sink, none⟩
  | buffer :: more =>
    let written := sink.writeAll buffer
    match written.refusal with
    | some refusal => ⟨written.accepted, written.sink, some (causeOf refusal, more.flatten)⟩
    | none =>
      let later := pour written.sink more
      { later with accepted := written.accepted ++ later.accepted }

/-- The outcome of letting a flow run until it waits or ends: what it delivered, what it left unread,
the sink and the flow afterwards, and how it ended if it did. -/
structure Turn where
  delivered : Bytes
  unread : Source
  sink : Sink
  flow : Flow
  ending : Option (Except IoFault Unit) := none

/-- The same turn with bytes delivered before it. -/
def Turn.after (earlier : Bytes) (turn : Turn) : Turn :=
  { turn with delivered := earlier ++ turn.delivered }

/-- Puts bytes that were not read back in front of the arrivals. -/
def putBack (bytes : Bytes) (rest : Source) : Source :=
  if bytes = [] then rest else .data bytes :: rest

/-- The end of the stream: the last flush decides how the flow ends. -/
def finish (sink : Sink) (flow : Flow) (unread : Source) : Turn :=
  match sink.flushFault with
  | some e => ⟨[], unread, sink, flow, some (.error e)⟩
  | none => ⟨[], unread, sink, { flow with unflushed := false }, some (.ok ())⟩

/-- Nothing more to read: what is not yet flushed is flushed before waiting. -/
def rest (sink : Sink) (flow : Flow) : Turn :=
  if flow.unflushed then
    match sink.flushFault with
    | some e => ⟨[], [], sink, flow, some (.error e)⟩
    | none => ⟨[], [], sink, { flow with unflushed := false }, none⟩
  else ⟨[], [], sink, flow, none⟩

/-- Lets a flow run over the arrivals until it waits or ends. -/
def run (sink : Sink) (flow : Flow) : Source → Turn
  | [] => rest sink flow
  | .finish :: unread => finish sink flow (.finish :: unread)
  | .fault e :: unread =>
    if e.isInterruption then run sink flow unread
    else ⟨[], unread, sink, flow, some (.error e)⟩
  | .data bytes :: unread =>
    if bytes = [] then finish sink flow unread
    else
      let poured := pour sink (cut bufferSize bytes)
      let flow' : Flow := ⟨flow.copied + poured.accepted.length, true⟩
      match poured.refused with
      | some (e, back) =>
        ⟨poured.accepted, putBack back unread, poured.sink, flow', some (.error e)⟩
      | none => (run poured.sink flow' unread).after poured.accepted

end Flow

end MeshProxy
