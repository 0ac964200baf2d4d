import MeshProxy.Net.Address
import MeshProxy.Session.Failure
import MeshProxy.Text.Duration

/-!
# Dialing

A dial is a single attempt at a target of the form `host:port`, bounded in time. A target that is a socket
address is used as it is; otherwise the host is looked up, after the port has been read, and the addresses
found are tried in order.
-/

namespace MeshProxy.Dial

/-- The answer to connecting to one address. -/
inductive Answer where
  | connected
  | fails (cause : IoFault)
  /-- No answer within any time. -/
  | silent
deriving DecidableEq, Repr

/-- What lies outside: the names that can be looked up and the answers of addresses. -/
structure Network where
  lookup : String → Except IoFault (List Ip)
  connect : SocketAddress → Answer

/-- The fault of a target without a colon. -/
def noPort : IoFault := .told .invalidInput "invalid socket address"

/-- The fault of a target whose last part is no port. -/
def badPort : IoFault := .told .invalidInput "invalid port value"

/-- The fault of a host with a character that no name can hold. -/
def nulInHost : IoFault := .told .invalidInput "file name contained an unexpected NUL byte"

/-- The fault of a host that stands for no address. -/
def noAddress : IoFault := .told .invalidInput "could not resolve to any address"

/-- The fault of a dial that took longer than `limit` nanoseconds. -/
def tooSlow (limit : Nat) : IoFault :=
  .told .timedOut ("no connection within " ++ Text.duration limit)

/-- The addresses a target stands for. -/
def addresses (network : Network) (target : String) : Except IoFault (List SocketAddress) :=
  match SocketAddress.ofChars? target.toList with
  | some address => .ok [address]
  | none =>
    match Text.splitLast? ':' target.toList with
    | none => .error noPort
    | some (host, portText) =>
      match Text.port? portText with
      | none => .error badPort
      | some port =>
        if host.contains '\x00' then .error nulInHost
        else (network.lookup (String.ofList host)).map fun ips => ips.map (.of · port)

/-- Tries addresses in order until one connects; the last fault counts. -/
def tryAll (network : Network) (limit : Nat) (last : IoFault) :
    List SocketAddress → Except IoFault SocketAddress
  | [] => .error last
  | address :: more =>
    match network.connect address with
    | .connected => .ok address
    | .silent => .error (tooSlow limit)
    | .fails cause => tryAll network limit cause more

/-- Dials a target: the address that was connected, or the failure of the session. -/
def run (network : Network) (limit : Nat) (target : String) : Except Failure SocketAddress :=
  match addresses network target with
  | .error cause => .error (.dial target cause)
  | .ok found =>
    match tryAll network limit noAddress found with
    | .error cause => .error (.dial target cause)
    | .ok address => .ok address

end MeshProxy.Dial
