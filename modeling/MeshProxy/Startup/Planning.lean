import MeshProxy.Net.Lookup
import MeshProxy.Settings.Basic
import MeshProxy.Tls.Policy

/-!
# From settings to a plan

The bind address is looked up first, then a certificate bundle, if there is one, becomes a TLS policy. All
else is taken from the settings as it is.
-/

namespace MeshProxy.Plan

/-- Of the addresses that a host is looked up as, the first of IPv4, or else the first. -/
def preferred? (found : List Ip) : Option Ip :=
  match found.find? Ip.isV4 with
  | some ip => some ip
  | none => found.head?

/-- The address that the internal listener binds, if hosts are looked up by `lookup`. -/
def bindIpWith (lookup : String → Except IoFault (List Ip)) (s : Settings) : Except Chain Ip :=
  match Ip.ofChars? s.bindAddress.toList with
  | some ip => .ok ip
  | none =>
    match lookup s.bindAddress with
    | .error cause =>
      .error ⟨"failed to resolve BIND_ADDRESS " ++ Text.quote s.bindAddress, [cause.message]⟩
    | .ok found =>
      match preferred? found with
      | some ip => .ok ip
      | none =>
        .error ⟨"BIND_ADDRESS " ++ Text.quote s.bindAddress ++ " resolved to no addresses", []⟩

/-- The policy that the bundle makes, if there is one. -/
def policyOf (s : Settings) : Option Identity.Bundle → Except Chain (Option Tls.Policy)
  | none => .ok none
  | some bundle =>
    match Tls.Policy.ofBundle bundle s.tlsServerName? with
    | .ok policy => .ok (some policy)
    | .error chain => .error (chain.within "failed to build TLS policy from mesh certificates")

/-- The plan that settings and a bundle make, if hosts are looked up by `lookup`. -/
def ofSettingsWith (lookup : String → Except IoFault (List Ip)) (s : Settings)
    (bundle : Option Identity.Bundle) : Except Chain Plan := do
  let bindIp ← bindIpWith lookup s
  let tls ← policyOf s bundle
  return {
    bindIp
    internalPort := s.internalPort
    externalPort := s.externalPort
    externalTlsPort := s.externalTlsPort
    hopOverride := s.nextHopOverride?
    timeout := 1000 * s.dialTimeoutSecs.toNat
    gateway := s.gatewayMode
    tls }

/-- The plan that settings and a bundle make where no name service can be reached. -/
def ofSettings (s : Settings) (bundle : Option Identity.Bundle) : Except Chain Plan :=
  ofSettingsWith Lookup.alone s bundle

end MeshProxy.Plan
