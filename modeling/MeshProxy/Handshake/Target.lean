import MeshProxy.Text.Decimal
import MeshProxy.Text.Fields
import MeshProxy.Text.Quoted

/-!
# Targets

A target is the text `host:port` that one sidecar sends to the next: at most 256 bytes, a host without
colons, and a port number. `Target.check` finds the first thing wrong with a text.
-/

namespace MeshProxy

namespace Target

/-- The most bytes a target may have, and the size of the buffer it is received in. -/
def maxBytes : Nat := 256

/-- What is wrong with a text that is no target. -/
inductive Fault where
  | tooLong
  | noColon
  | badHost
  | badPort
deriving DecidableEq, Repr

/-- The text of a fault in `target`. -/
def Fault.message (target : String) : Fault → String
  | .tooLong => "preamble exceeds " ++ toString maxBytes ++ " bytes"
  | .noColon => "malformed preamble " ++ Text.quote target
  | .badHost => "malformed preamble host " ++ Text.quote target
  | .badPort => "malformed preamble port " ++ Text.quote target

/-- The first fault of a text, if it is no target. -/
def fault? (target : String) : Option Fault :=
  if target.utf8ByteSize > maxBytes then some .tooLong
  else
    match Text.splitLast? ':' target.toList with
    | none => some .noColon
    | some (host, port) =>
      if host = [] ∨ ':' ∈ host then some .badHost
      else if (Text.port? port).isNone then some .badPort
      else none

end Target

end MeshProxy
