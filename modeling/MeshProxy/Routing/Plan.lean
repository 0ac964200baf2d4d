import MeshProxy.Net.Address
import MeshProxy.Net.Destination
import MeshProxy.Tls.Handshake

/-!
# Where connections go

The settings that every session shares once the sidecar runs, the address of the internal listener, and
the next hop of an outbound session: the override host if there is one, otherwise the destination's own
address, on the TLS port if there is a TLS policy and on the plain port if not.
-/

namespace MeshProxy

/-- The TLS policy of a sidecar: its own certificate, the authorities it trusts, and the name it
expects of a next hop if that is not the hop's host. -/
structure Tls.Policy where
  trusted : List Tls.Authority
  credential : Tls.Credential
  serverName : Option Tls.ServerName := none
deriving DecidableEq, Repr

/-- The policy as a listener applies it. -/
def Tls.Policy.server (policy : Tls.Policy) : Tls.Server := ⟨policy.trusted, policy.credential⟩

/-- The policy as a client applies it. -/
def Tls.Policy.client (policy : Tls.Policy) (expected : Tls.ServerName) : Tls.Client :=
  ⟨policy.trusted, some policy.credential, expected⟩

/-- The name that a certificate of a next hop must be valid for. -/
def Tls.Policy.expectedName? (policy : Tls.Policy) (host : String) : Option Tls.ServerName :=
  match policy.serverName with
  | some name => some name
  | none => Tls.ServerName.ofText? host

/-- What every listener and session of a running sidecar shares. -/
structure Plan where
  bindIp : Ip
  internalPort : UInt16
  externalPort : UInt16
  externalTlsPort : UInt16
  /-- The host of every next hop, if it is fixed. -/
  hopOverride : Option String
  /-- The bound on dials and TLS handshakes, in milliseconds. -/
  timeout : Nat
  /-- Run without the internal listener. -/
  gateway : Bool
  tls : Option Tls.Policy
deriving Repr

/-- The sidecar that an outbound session dials. -/
structure NextHop where
  host : String
  port : UInt16
deriving DecidableEq, Repr

namespace NextHop

/-- The host as it stands in front of a port: in brackets exactly if it is an IPv6 address. -/
def hostChars (hop : NextHop) : List Char :=
  if (Ipv6.ofChars? hop.host.toList).isSome then '[' :: (hop.host.toList ++ [']'])
  else hop.host.toList

def chars (hop : NextHop) : List Char :=
  hop.hostChars ++ ':' :: Text.decimal hop.port.toNat

def toText (hop : NextHop) : String := String.ofList hop.chars

/-- A summary that names the fields. -/
def summary (hop : NextHop) : String :=
  "NextHop \x7b host: " ++ Text.quote hop.host ++ ", port: " ++ toString hop.port.toNat ++ " \x7d"

end NextHop

namespace Plan

/-- The address of this sidecar's own internal listener. -/
def internalAddress (plan : Plan) : SocketAddress := .of plan.bindIp plan.internalPort

/-- The port of every next hop. -/
def hopPort (plan : Plan) : UInt16 :=
  if plan.tls.isSome then plan.externalTlsPort else plan.externalPort

/-- Where an outbound session for `dest` connects. -/
def nextHop (plan : Plan) (dest : Destination) : NextHop :=
  ⟨plan.hopOverride.getD dest.ip.toText, plan.hopPort⟩

end Plan

end MeshProxy
