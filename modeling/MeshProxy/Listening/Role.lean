import MeshProxy.Log.Record
import MeshProxy.Net.Address
import MeshProxy.Stream.Fault

/-!
# Listeners

A listener has a role, which decides what its connections are used for, and reports what happens to it.
-/

namespace MeshProxy

/-- Which connections a listener takes. -/
inductive Role where
  /-- Redirected workload traffic, for the outbound persona. -/
  | internal
  /-- Other sidecars in the clear, for the inbound persona. -/
  | external
  /-- Other sidecars over TLS, for the inbound persona after the handshake. -/
  | externalTls
deriving DecidableEq, Repr

namespace Role

def name : Role → String
  | .internal => "internal"
  | .external => "external"
  | .externalTls => "external-tls"

/-- The name of the constructor as summaries show it. -/
def summary : Role → String
  | .internal => "Internal"
  | .external => "External"
  | .externalTls => "ExternalTls"

end Role

/-- The session span of a connection. -/
def Log.Span.of (role : Role) (peer : SocketAddress) : Log.Span := ⟨role.name, peer.toText⟩

/-- What happens to a listener. -/
inductive ListenerEvent where
  | listening (address : SocketAddress)
  /-- The own end of a connection is told if it can be. -/
  | accepted (peer : SocketAddress) (ownEnd : Option SocketAddress)
  | acceptFailed (cause : IoFault)
  | closed
deriving DecidableEq, Repr

/-- The record of an event of a listener with this role. -/
def ListenerEvent.record (role : Role) : ListenerEvent → Log.Record
  | .listening address =>
    { level := .info, target := "sidecar::listener", message := "listening"
      fields := [("role", .text role.name), ("addr", .text address.toText)] }
  | .accepted peer ownEnd =>
    { level := .debug, target := "sidecar::listener", message := "accepted connection"
      fields := [("role", .text role.name), ("peer", .text peer.toText),
        ("local", .text ((ownEnd.map (·.toText)).getD ""))] }
  | .acceptFailed cause =>
    { level := .error, target := "sidecar::listener", message := "accept error"
      fields := [("role", .text role.name), ("error", .text cause.message)] }
  | .closed =>
    { level := .info, target := "sidecar::listener", message := "listener closed"
      fields := [("role", .text role.name)] }

end MeshProxy
