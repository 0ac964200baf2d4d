import MeshProxy.Net.Destination
import MeshProxy.Session.Failure

/-!
# Asking for the destination of a redirected connection

The kernel is asked for its record of a connection. It may refuse, and what it hands out may be too short to hold a
destination or be about another family of addresses.
-/

namespace MeshProxy

/-- The answer of the kernel: the record, of which it has filled so many bytes. -/
inductive Redirection where
  | refused (cause : IoFault)
  | filled (length : Nat) (raw : Vector UInt8 16)
deriving DecidableEq, Repr

namespace Redirection

/-- The bytes of a record up to its padding. -/
def usefulBytes : Nat := 8

/-- The destination in a record, or the failure of the session. -/
def decode (raw : Vector UInt8 16) : Except Failure Destination :=
  match Destination.ofRecord raw with
  | .ok dest => .ok dest
  | .error family => .error (.resolution (.wrongFamily family))

/-- The destination in an answer, or the failure of the session. -/
def resolve : Redirection → Except Failure Destination
  | .refused cause => .error (.resolution (.queryFailed cause))
  | .filled length raw =>
    if length < usefulBytes then .error (.resolution (.shortAnswer length)) else decode raw

end Redirection

end MeshProxy
