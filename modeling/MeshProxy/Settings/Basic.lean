import MeshProxy.Text.Blank
import MeshProxy.Text.Quoted

/-!
# Settings

What the sidecar is told by its environment, the defaults of what it is not told, and the views of the
optional texts, in which a blank value counts as absent.
-/

namespace MeshProxy

structure Settings where
  /-- Where the internal listener binds: an address or a host name. -/
  bindAddress : String := "127.0.0.1"
  internalPort : UInt16 := 18000
  externalPort : UInt16 := 18001
  externalTlsPort : UInt16 := 18443
  /-- A fixed next hop. -/
  clusterAddress : Option String := none
  /-- The node's name, which as a next hop comes before the cluster address. -/
  kubeNodeName : Option String := none
  gatewayMode : Bool := false
  dialTimeoutSecs : UInt64 := 5
  meshCa : Option String := none
  meshCert : Option String := none
  meshKey : Option String := none
  certDir : Option String := none
  tlsServerName : Option String := none
  traceTap : Bool := false
  tracePipePath : String := "/sys/kernel/debug/tracing/trace_pipe"
  logLevel : String := "info"
deriving DecidableEq, Repr

namespace Settings

/-- The host of every next hop, if it is fixed. -/
def nextHopOverride? (s : Settings) : Option String :=
  match Text.nonBlank? s.kubeNodeName with
  | some name => some name
  | none => Text.nonBlank? s.clusterAddress

/-- Authority, certificate and key given inline, if all three are. -/
def inlineCertificates? (s : Settings) : Option (String × String × String) :=
  match Text.nonBlank? s.meshCa, Text.nonBlank? s.meshCert, Text.nonBlank? s.meshKey with
  | some ca, some cert, some key => some (ca, cert, key)
  | _, _, _ => none

def certDir? (s : Settings) : Option String := Text.nonBlank? s.certDir

def tlsServerName? (s : Settings) : Option String := Text.nonBlank? s.tlsServerName

/-- A truth value in words. -/
def truth (b : Bool) : String := if b then "true" else "false"

/-- A summary that shows no certificate material. -/
def summary (s : Settings) : String :=
  "Config \x7b " ++ String.intercalate ", " [
    "bind_address: " ++ Text.quote s.bindAddress,
    "internal_port: " ++ toString s.internalPort.toNat,
    "external_port: " ++ toString s.externalPort.toNat,
    "external_tls_port: " ++ toString s.externalTlsPort.toNat,
    "next_hop_override: " ++ Text.quoteOption s.nextHopOverride?,
    "gateway_mode: " ++ truth s.gatewayMode,
    "dial_timeout_secs: " ++ toString s.dialTimeoutSecs.toNat,
    "inline_certificates: " ++ truth s.inlineCertificates?.isSome,
    "cert_dir: " ++ Text.quoteOption s.certDir,
    "trace_tap: " ++ truth s.traceTap,
    "log_level: " ++ Text.quote s.logLevel,
    ".. \x7d"]

end Settings

end MeshProxy
