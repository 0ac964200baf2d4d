import MeshProxy.Stream.ErrorNumber

/-!
# Input and output faults

What can go wrong while reading from or writing to a stream, and the text each fault is shown with.
A fault is a bare kind, an error number of the operating system, or a kind with a message of its own.
-/

namespace MeshProxy

/-- The kinds of fault that are told apart. -/
inductive FaultKind where
  | notFound
  | permissionDenied
  | connectionRefused
  | connectionReset
  | connectionAborted
  | hostUnreachable
  | networkUnreachable
  | networkDown
  | notConnected
  | addressInUse
  | addressNotAvailable
  | brokenPipe
  | alreadyExists
  | wouldBlock
  | invalidInput
  | invalidData
  | timedOut
  | writeZero
  | interrupted
  | unsupported
  | unexpectedEof
  | outOfMemory
  | other
deriving DecidableEq, Repr

/-- The text of a fault of which only the kind is known. -/
def FaultKind.message : FaultKind → String
  | .notFound => "entity not found"
  | .permissionDenied => "permission denied"
  | .connectionRefused => "connection refused"
  | .connectionReset => "connection reset"
  | .connectionAborted => "connection aborted"
  | .hostUnreachable => "host unreachable"
  | .networkUnreachable => "network unreachable"
  | .networkDown => "network down"
  | .notConnected => "not connected"
  | .addressInUse => "address in use"
  | .addressNotAvailable => "address not available"
  | .brokenPipe => "broken pipe"
  | .alreadyExists => "entity already exists"
  | .wouldBlock => "operation would block"
  | .invalidInput => "invalid input parameter"
  | .invalidData => "invalid data"
  | .timedOut => "timed out"
  | .writeZero => "write zero"
  | .interrupted => "operation interrupted"
  | .unsupported => "unsupported"
  | .unexpectedEof => "unexpected end of file"
  | .outOfMemory => "out of memory"
  | .other => "other error"

/-- A failed read, write, flush, shutdown or connection attempt. -/
inductive IoFault where
  | plain (kind : FaultKind)
  | system (code : Int)
  | told (kind : FaultKind) (text : String)
deriving DecidableEq, Repr

namespace IoFault

def message : IoFault → String
  | .plain kind => kind.message
  | .system code => systemErrorText code ++ " (os error " ++ toString code ++ ")"
  | .told _ text => text

/-- An interruption: the operation did not happen and is worth trying again. -/
def isInterruption : IoFault → Bool
  | .plain kind => kind == .interrupted
  | .system code => code == 4
  | .told kind _ => kind == .interrupted

/-- A stream that ended inside what had to be read whole. -/
def earlyEnd : IoFault := .told .unexpectedEof "early eof"

/-- A stream that took none of the bytes it was offered. -/
def tookNothing : IoFault := .plain .writeZero

/-- As `tookNothing`, in the words of the copying loop. -/
def tookNothingWhileCopying : IoFault := .told .writeZero "write zero byte into writer"

end IoFault

end MeshProxy
