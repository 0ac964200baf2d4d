import MeshProxy.Stream.Fault
import MeshProxy.Text.Utf8

/-!
# The writing side of a stream

How a stream takes what is written to it: perhaps only so many bytes at a time, perhaps failing after a
number of accepted bytes, perhaps failing when it is flushed. Writing everything repeats until all bytes
are accepted or a write fails; an interrupted write is repeated.
-/

namespace MeshProxy

/-- What happens to a write once the accepted bytes have reached their limit. -/
inductive WriteFault where
  /-- Every further write fails. -/
  | fails (fault : IoFault)
  /-- One write is interrupted; after that the stream takes bytes again. -/
  | interrupts
  /-- Every further write takes nothing. -/
  | takesNothing
deriving DecidableEq, Repr

/-- How a stream will answer writes, flushes and the request to shut its write half. -/
structure Sink where
  /-- The most bytes that one write takes. -/
  limit : Option Nat := none
  /-- A fault that strikes after so many more accepted bytes. -/
  fault : Option (Nat × WriteFault) := none
  /-- Every flush fails with this. -/
  flushFault : Option IoFault := none
  /-- Shutting the write half fails with this. -/
  shutdownFault : Option IoFault := none
deriving DecidableEq, Repr

/-- Why not all bytes were accepted. -/
inductive Refusal where
  | fault (fault : IoFault)
  | tookNothing
deriving DecidableEq, Repr

/-- The outcome of writing: the accepted pieces in order, the sink afterwards, and what stopped the
writing if something did. -/
structure Written where
  pieces : List Bytes
  sink : Sink
  refusal : Option Refusal := none
deriving DecidableEq, Repr

/-- The accepted bytes. -/
def Written.accepted (w : Written) : Bytes := w.pieces.flatten

/-- Cuts bytes into pieces of `size`, the last perhaps shorter. A size of zero counts as one. -/
def cut (size : Nat) : Bytes → List Bytes
  | [] => []
  | b :: rest => (b :: rest.take (size - 1)) :: cut size (rest.drop (size - 1))
termination_by bytes => bytes.length
decreasing_by simp only [List.length_drop, List.length_cons]; omega

namespace Sink

/-- The pieces in which a stream takes bytes that it accepts. -/
def piecesOf (sink : Sink) (bytes : Bytes) : List Bytes :=
  match sink.limit with
  | none => cut bytes.length bytes
  | some size => cut size bytes

/-- A write to a stream that takes no bytes at a time. A fault that is due comes first; otherwise the
write is accepted with nothing in it, and nothing written is the end of writing. -/
def writeNothing (sink : Sink) : Written :=
  match sink.fault with
  | some (0, .fails e) => ⟨[], sink, some (.fault e)⟩
  | some (0, .takesNothing) => ⟨[], sink, some .tookNothing⟩
  | some (0, .interrupts) => ⟨[[]], { sink with fault := none }, some .tookNothing⟩
  | _ => ⟨[[]], sink, some .tookNothing⟩

/-- Writes all bytes, as far as the stream takes them. -/
def writeAll (sink : Sink) (bytes : Bytes) : Written :=
  if bytes = [] then ⟨[], sink, none⟩
  else if sink.limit = some 0 then sink.writeNothing
  else
    match sink.fault with
    | none => ⟨sink.piecesOf bytes, sink, none⟩
    | some (after, fault) =>
      if bytes.length ≤ after then
        ⟨sink.piecesOf bytes, { sink with fault := some (after - bytes.length, fault) }, none⟩
      else
        let accepted := sink.piecesOf (bytes.take after)
        match fault with
        | .fails e => ⟨accepted, { sink with fault := some (0, fault) }, some (.fault e)⟩
        | .takesNothing => ⟨accepted, { sink with fault := some (0, fault) }, some .tookNothing⟩
        | .interrupts =>
          ⟨accepted ++ sink.piecesOf (bytes.drop after), { sink with fault := none }, none⟩

end Sink

end MeshProxy
