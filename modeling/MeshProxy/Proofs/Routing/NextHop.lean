import MeshProxy.Identity.Source
import MeshProxy.Proofs.Net.Destination
import MeshProxy.Proofs.Persona.Outbound.FailClosed
import MeshProxy.Proofs.Settings.Reading
import MeshProxy.Proofs.Text.Blank
import MeshProxy.Routing.Dial
import MeshProxy.Startup.Planning

/-!
# From the environment to the next hop

The text of a next hop ends in its port, so every address that a dial makes of that text has this port, whatever the host
is (`Dial.port_of_addresses`). A plan takes its ports from the settings as they are and has a TLS policy exactly if there
is a bundle (`Plan.Follows`). The ports of settings that are usable differ.

From these, `Plan.next_hop_of_environment` says where the sessions of a sidecar go, from the variables of its environment
on: which host is dialed, which port, and that no dial leads to an internal listener.
-/

namespace MeshProxy

/-! ## The port of a next hop -/

namespace SocketAddress

lemma port_of (ip : Ip) (port : UInt16) : (of ip port).port = port := by
  cases ip <;> rfl

lemma port_of_bracketed? {cs : List Char} {port : UInt16} {address : SocketAddress}
    (read : bracketed? cs port = some address) : address.port = port := by
  rw [bracketed?] at read
  split at read
  case h_1 =>
    obtain ⟨ip, -, rfl⟩ := Option.map_eq_some_iff.mp read
    rfl
  case h_2 =>
    simp only [Option.bind_eq_bind, Option.bind_eq_some_iff, Option.pure_def, Option.some.injEq] at read
    obtain ⟨ip, -, scope, -, rfl⟩ := read
    rfl

/-- A socket address has the port that stands behind the last colon of its text. -/
lemma port_of_ofChars? {cs host portText : List Char} {port : UInt16} {address : SocketAddress}
    (cut : Text.splitLast? ':' cs = some (host, portText)) (value : Text.port? portText = some port)
    (read : ofChars? cs = some address) : address.port = port := by
  simp only [ofChars?, cut, Option.bind_eq_bind, Option.bind_some, Option.bind_eq_some_iff,
    Option.map_eq_some_iff] at read
  obtain ⟨port', ⟨n, digits, rfl⟩, read⟩ := read
  have same : UInt16.ofNat n = port := by
    rw [Text.port?, Text.bounded?_eq_some_iff.mpr ⟨portText, .inl rfl, digits⟩] at value
    exact Option.some.inj value
  rw [same] at read
  split at read
  case h_1 inner =>
    split at read
    case isTrue => exact port_of_bracketed? read
    case isFalse => cases read
  case h_2 =>
    obtain ⟨ip, -, rfl⟩ := Option.map_eq_some_iff.mp read
    rfl

end SocketAddress

namespace NextHop

lemma splitLast?_chars (hop : NextHop) :
    Text.splitLast? ':' hop.chars = some (hop.hostChars, Text.decimal hop.port.toNat) :=
  Text.splitLast?_append (Text.not_mem_decimal rfl _) _

end NextHop

lemma Dial.port_of_addresses {network : Network} {hop : NextHop} {found : List SocketAddress}
    (ok : addresses network hop.toText = .ok found) {address : SocketAddress} (mem : address ∈ found) :
    address.port = hop.port := by
  have chars : hop.toText.toList = hop.chars := String.toList_ofList
  have port : Text.port? (Text.decimal hop.port.toNat) = some hop.port := Text.port?_decimal hop.port
  rw [addresses, chars] at ok
  -- The text is a socket address already, or its host is looked up.
  split at ok
  case h_1 found' read =>
    cases ok
    rw [List.mem_singleton.mp mem]
    exact SocketAddress.port_of_ofChars? hop.splitLast?_chars port read
  case h_2 =>
    simp only [hop.splitLast?_chars, port] at ok
    split at ok
    case isTrue => cases ok
    case isFalse =>
      -- Every address that the lookup finds is put in front of the port.
      cases lookup : network.lookup (String.ofList hop.hostChars) with
      | error cause =>
        rw [lookup] at ok
        cases ok
      | ok ips =>
        rw [lookup] at ok
        cases ok
        obtain ⟨ip, -, rfl⟩ := List.mem_map.mp mem
        exact SocketAddress.port_of ip hop.port

/-! ## The plan that settings make -/

namespace Plan

/-- A plan that takes all but the addresses of its listener and its TLS policy from settings as they are. -/
structure Follows (s : Settings) (bundle : Option Identity.Bundle) (plan : Plan) : Prop where
  tls : plan.tls.isSome ↔ bundle.isSome
  internalPort : plan.internalPort = s.internalPort
  externalPort : plan.externalPort = s.externalPort
  externalTlsPort : plan.externalTlsPort = s.externalTlsPort
  hopOverride : plan.hopOverride = s.nextHopOverride?

variable {s : Settings} {bundle : Option Identity.Bundle} {plan : Plan}

lemma isSome_of_policyOf {policy : Option Tls.Policy} (ok : policyOf s bundle = .ok policy) :
    policy.isSome ↔ bundle.isSome := by
  cases bundle with
  | none =>
    cases ok
    rfl
  | some bundle =>
    rw [policyOf] at ok
    split at ok
    case h_1 =>
      cases ok
      exact Iff.rfl
    case h_2 => cases ok

lemma follows_of_ofSettingsWith {lookup : String → Except IoFault (List Ip)}
    (ok : ofSettingsWith lookup s bundle = .ok plan) : Follows s bundle plan := by
  rw [ofSettingsWith] at ok
  obtain ⟨bindIp, -, ok⟩ := exists_of_bind ok
  obtain ⟨tls, policy, ok⟩ := exists_of_bind ok
  cases ok
  exact ⟨isSome_of_policyOf policy, rfl, rfl, rfl, rfl⟩

end Plan

/-! ## The host that an environment asks for -/

namespace Environment

/-- A variable has a text that is not blank; trimmed, it is `value`. -/
def Gives (env : Environment) (name value : String) : Prop :=
  ∃ text, env.text? name = some text ∧ Text.trim text = value ∧ value ≠ ""

/-- A variable is not set, or blank. -/
def Blank (env : Environment) (name : String) : Prop :=
  ∀ text, env.text? name = some text → Text.trim text = ""

/-- The host of the next hop toward a destination: the node's name, or else the cluster address, or else the
destination's own address. -/
inductive HopHost (env : Environment) (dest : Destination) : String → Prop where
  | node {name : String} :
    Gives env "kube_node_name" name →
    HopHost env dest name
  | cluster {address : String} :
    Blank env "kube_node_name" →
    Gives env "cluster_address" address →
    HopHost env dest address
  | own :
    Blank env "kube_node_name" →
    Blank env "cluster_address" →
    HopHost env dest dest.ip.toText

lemma gives_of_nonBlank? {env : Environment} {name value : String}
    (some : Text.nonBlank? (env.text? name) = some value) : Gives env name value :=
  Text.nonBlank?_eq_some_iff.mp some

lemma blank_of_nonBlank? {env : Environment} {name : String}
    (none : Text.nonBlank? (env.text? name) = none) : Blank env name :=
  Text.nonBlank?_eq_none_iff.mp none

lemma HopHost.ne_empty {env : Environment} {dest : Destination} {host : String}
    (hh : HopHost env dest host) : host ≠ "" := by
  cases hh with
  | node gives =>
    obtain ⟨_, _, _, ne⟩ := gives
    exact ne
  | cluster _ gives =>
    obtain ⟨_, _, _, ne⟩ := gives
    exact ne
  | own =>
    intro empty
    have nil : dest.ip.toText.toList = [] := by rw [empty]; rfl
    rw [Ipv4.toText, String.toList_ofList] at nil
    exact dest.ip.chars_ne_nil nil

end Environment

/-! ## Where the sessions of a sidecar go -/

namespace Plan

open Outbound (follow Occurrence)

/-- Where a sidecar goes with a connection to `dest`, if `plan` is what it makes of its environment. -/
structure Heads (env : Environment) (files : Identity.Files) (s : Settings) (plan : Plan)
    (dest : Destination) : Prop where
  /-- There is a TLS policy exactly if a certificate bundle is found. -/
  policy : plan.tls.isSome ↔ (Identity.load files s).1.isSome
  host : Environment.HopHost env dest (plan.nextHop dest).host
  host_ne_empty : (plan.nextHop dest).host ≠ ""
  /-- The port is one of the settings, and hangs on the policy alone. -/
  port : (plan.nextHop dest).port = if plan.tls.isSome then s.externalTlsPort else s.externalPort
  port_fixed : ∀ other, (plan.nextHop other).port = (plan.nextHop dest).port
  port_ne_zero : (plan.nextHop dest).port ≠ 0
  internalPort : plan.internalPort = s.internalPort
  port_ne_internal : (plan.nextHop dest).port ≠ plan.internalPort
  /-- Nothing that a session ever dials stands for the internal listener of a sidecar with the same ports. -/
  elsewhere : ∀ (course : Course) (os : List Occurrence), ∀ target ∈ ((follow plan dest course).meetAll os).dials,
    ∀ (network : Dial.Network) (found : List SocketAddress), Dial.addresses network target = .ok found →
    ∀ peer : Plan, peer.internalPort = plan.internalPort → peer.internalAddress ∉ found

variable {env : Environment} {files : Identity.Files} {s : Settings} {bundle : Option Identity.Bundle}
  {plan : Plan}

lemma Follows.hopHost (fo : Follows s bundle plan) (sp : Settings.Spelled env s) (dest : Destination) :
    Environment.HopHost env dest (plan.nextHop dest).host := by
  have node := Settings.text?_of_rawText sp.kubeNodeName
  have cluster := Settings.text?_of_rawText sp.clusterAddress
  rw [nextHop, fo.hopOverride, Settings.nextHopOverride?, ← node, ← cluster]
  cases named : Text.nonBlank? (env.text? "kube_node_name") with
  | some name => exact .node (Environment.gives_of_nonBlank? named)
  | none =>
    have blank := Environment.blank_of_nonBlank? named
    cases addressed : Text.nonBlank? (env.text? "cluster_address") with
    | some address => exact .cluster blank (Environment.gives_of_nonBlank? addressed)
    | none => exact .own blank (Environment.blank_of_nonBlank? addressed)

lemma Follows.hopPort (fo : Follows s bundle plan) :
    plan.hopPort = if plan.tls.isSome then s.externalTlsPort else s.externalPort := by
  rw [Plan.hopPort, fo.externalTlsPort, fo.externalPort]

lemma Follows.hopPort_ne (fo : Follows s bundle plan) (us : Settings.Usable s) :
    plan.hopPort ≠ 0 ∧ plan.hopPort ≠ plan.internalPort := by
  rw [fo.hopPort, fo.internalPort]
  split
  case isTrue => exact ⟨us.externalTls_ne_zero, us.internal_ne_externalTls.symm⟩
  case isFalse => exact ⟨us.external_ne_zero, us.internal_ne_external.symm⟩

/-- A plan whose next hops have another port than its own internal listener dials no internal listener at that port. -/
lemma not_mem_addresses (ne : plan.hopPort ≠ plan.internalPort) {dest : Destination} {course : Course}
    {os : List Occurrence} {target : String} (dialed : target ∈ ((follow plan dest course).meetAll os).dials)
    {network : Dial.Network} {found : List SocketAddress} (ok : Dial.addresses network target = .ok found)
    {peer : Plan} (same : peer.internalPort = plan.internalPort) : peer.internalAddress ∉ found := by
  rw [(Outbound.hop_meetAll _ os).2, Outbound.dials_follow, List.mem_singleton] at dialed
  subst dialed
  intro mem
  have port := Dial.port_of_addresses ok mem
  rw [internalAddress, SocketAddress.port_of, same] at port
  exact ne port.symm

/-- From the environment to the next hop: whatever the environment and the files in the certificate directory are, and
however hosts are looked up, if a plan comes of them, its sessions go where the environment asks for, and never to an
internal listener. -/
theorem next_hop_of_environment {lookup : String → Except IoFault (List Ip)}
    (read : Settings.ofEnvironment env = .ok s)
    (made : ofSettingsWith lookup s (Identity.load files s).1 = .ok plan) (dest : Destination) :
    Heads env files s plan dest := by
  obtain ⟨spelled, passed⟩ := Settings.ofEnvironment_eq_ok_iff.mp read
  have sp := Settings.spelled_of_readAll spelled
  have us := Settings.violation?_eq_none_iff.mp passed
  have fo := follows_of_ofSettingsWith made
  have host := fo.hopHost sp dest
  obtain ⟨ne_zero, ne_internal⟩ := fo.hopPort_ne us
  exact {
    policy := fo.tls
    host := host
    host_ne_empty := host.ne_empty
    port := fo.hopPort
    port_fixed := fun _ => rfl
    port_ne_zero := ne_zero
    internalPort := fo.internalPort
    port_ne_internal := ne_internal
    elsewhere := by
      intro course os target dialed network found ok peer same
      exact not_mem_addresses ne_internal dialed ok same }

/-- The environment of a sidecar that binds to a name, and whose node has a blank name. -/
def clusterOnly : Environment :=
  [("BIND_ADDRESS", "sidecar.mesh"), ("KUBE_NODE_NAME", " "), ("CLUSTER_ADDRESS", " 10.1.0.1\t")]

/-- A name service that knows one address. -/
def oneAddress : String → Except IoFault (List Ip) := fun _ => .ok [.v4 .loopback]

/-- A blank name counts as none, and the cluster address is trimmed. -/
theorem next_hop_of_cluster_address :
    ∃ s plan, Settings.ofEnvironment clusterOnly = .ok s ∧
      ofSettingsWith oneAddress s (Identity.load (fun _ => .error (.system 2)) s).1 = .ok plan ∧
      plan.nextHop ⟨.loopback, 8080⟩ = ⟨"10.1.0.1", 18001⟩ ∧
      Heads clusterOnly (fun _ => .error (.system 2)) s plan ⟨.loopback, 8080⟩ := by
  let s : Settings := {
    bindAddress := "sidecar.mesh"
    kubeNodeName := some " "
    clusterAddress := some " 10.1.0.1\t" }
  have read : Settings.ofEnvironment clusterOnly = .ok s := by decide +kernel
  have bind : bindIpWith oneAddress s = .ok (.v4 .loopback) := by decide +kernel
  have none : (Identity.load (fun _ => .error (.system 2)) s).1 = none := by decide +kernel
  have host : s.nextHopOverride? = some "10.1.0.1" := by decide +kernel
  have made : ofSettingsWith oneAddress s (Identity.load (fun _ => .error (.system 2)) s).1 = .ok
      { bindIp := .v4 .loopback
        internalPort := 18000
        externalPort := 18001
        externalTlsPort := 18443
        hopOverride := some "10.1.0.1"
        timeout := 5000
        gateway := false
        tls := Option.none } := by
    rw [none, ofSettingsWith, bind, policyOf, host]
    rfl
  exact ⟨s, _, read, made, rfl, next_hop_of_environment read made _⟩

end Plan

end MeshProxy
