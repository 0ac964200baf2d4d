import MeshProxy.Stream.Fault
import MeshProxy.Text.Utf8

/-!
# The reading side of a stream

What a stream will answer to the reads still to come, as a list of arrivals. A read takes what it asked
for from the first arrival and leaves the rest; the end of the stream stays where it is for ever; a fault
answers one read. A read that finds no arrival waits.
-/

namespace MeshProxy

/-- What a read can meet. -/
inductive Arrival where
  | data (bytes : Bytes)
  | finish
  | fault (fault : IoFault)
deriving DecidableEq, Repr

/-- The arrivals that are still to be read. -/
abbrev Source := List Arrival

namespace Source

/-- The answer to one read. No bytes at all mean the end of the stream. -/
inductive Answer where
  | waits
  | bytes (chunk : Bytes)
  | fails (fault : IoFault)
deriving DecidableEq, Repr

/-- One read of at most `limit` bytes, and what is left afterwards. -/
def read (limit : Nat) : Source → Answer × Source
  | [] => (.waits, [])
  | .finish :: rest => (.bytes [], .finish :: rest)
  | .fault e :: rest => (.fails e, rest)
  | .data bytes :: rest =>
    if bytes.length ≤ limit then (.bytes bytes, rest)
    else (.bytes (bytes.take limit), .data (bytes.drop limit) :: rest)

/-- All data in the arrivals, in order, whatever stands between them. -/
def payload : Source → Bytes
  | [] => []
  | .data bytes :: rest => bytes ++ payload rest
  | _ :: rest => payload rest

/-- The data at the front, and what follows it. -/
def opening : Source → Bytes × Source
  | .data bytes :: rest =>
    let (more, rest) := opening rest
    (bytes ++ more, rest)
  | rest => ([], rest)

end Source

end MeshProxy
