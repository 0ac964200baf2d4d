import MeshProxy.Settings.Read
import Mathlib.Tactic.Common

/-!
# Which settings an environment gives

Settings are read one by one, and then checked as a whole (`Settings.ofEnvironment_eq_ok_iff`). What is read is told by
`Settings.Spelled`, one equation for each setting, and what the checks let through by `Settings.Usable`.
-/

namespace MeshProxy

/-- What is done in two steps is done well if each step is. -/
lemma exists_of_bind {ε α β : Type} {x : Except ε α} {f : α → Except ε β} {b : β}
    (ok : (x >>= f) = .ok b) : ∃ a, x = .ok a ∧ f a = .ok b := by
  cases x with
  | error e => cases ok
  | ok a => exact ⟨a, rfl, ok⟩

/-- The text of a variable, if it is set and no map or sequence. -/
def Environment.text? (env : Environment) (name : String) : Option String :=
  match env.find? name with
  | some (.text value) => some value
  | _ => none

namespace Settings

/-- The settings that the variables of an environment spell. -/
structure Spelled (env : Environment) (s : Settings) : Prop where
  bindAddress : readText env "bind_address" "127.0.0.1" = .ok s.bindAddress
  internalPort : readPort env "internal_port" 18000 = .ok s.internalPort
  externalPort : readPort env "external_port" 18001 = .ok s.externalPort
  externalTlsPort : readPort env "external_tls_port" 18443 = .ok s.externalTlsPort
  clusterAddress : rawText env "cluster_address" .text = .ok s.clusterAddress
  kubeNodeName : rawText env "kube_node_name" .text = .ok s.kubeNodeName
  gatewayMode : readBoolean env "gateway_mode" = .ok s.gatewayMode
  dialTimeoutSecs : ∃ secs, readInteger env "dial_timeout_secs" 5 = .ok secs ∧
    s.dialTimeoutSecs = UInt64.ofNat secs
  meshCa : rawText env "mesh_ca" .text = .ok s.meshCa
  meshCert : rawText env "mesh_cert" .text = .ok s.meshCert
  meshKey : rawText env "mesh_key" .text = .ok s.meshKey
  certDir : rawText env "cert_dir" .text = .ok s.certDir
  tlsServerName : rawText env "tls_server_name" .text = .ok s.tlsServerName
  traceTap : readBoolean env "trace_tap" = .ok s.traceTap
  tracePipePath : readText env "trace_pipe_path" "/sys/kernel/debug/tracing/trace_pipe" =
    .ok s.tracePipePath
  logLevel : readText env "log_level" "info" = .ok s.logLevel

/-- Settings that violate no condition. -/
structure Usable (s : Settings) : Prop where
  bindAddress : (Text.trim s.bindAddress).isEmpty = false
  internal_ne_zero : s.internalPort ≠ 0
  external_ne_zero : s.externalPort ≠ 0
  externalTls_ne_zero : s.externalTlsPort ≠ 0
  internal_ne_external : s.internalPort ≠ s.externalPort
  internal_ne_externalTls : s.internalPort ≠ s.externalTlsPort
  external_ne_externalTls : s.externalPort ≠ s.externalTlsPort
  dialTimeoutSecs : s.dialTimeoutSecs ≠ 0
  inline : s.inlineCount = 0 ∨ s.inlineCount = 3

variable {env : Environment} {s : Settings}

lemma spelled_of_readAll (read : readAll env = .ok s) : Spelled env s := by
  rw [readAll] at read
  -- One step for each variable, in the order in which they are read.
  obtain ⟨bindAddress, bindAddress_ok, read⟩ := exists_of_bind read
  obtain ⟨internalPort, internalPort_ok, read⟩ := exists_of_bind read
  obtain ⟨externalPort, externalPort_ok, read⟩ := exists_of_bind read
  obtain ⟨externalTlsPort, externalTlsPort_ok, read⟩ := exists_of_bind read
  obtain ⟨clusterAddress, clusterAddress_ok, read⟩ := exists_of_bind read
  obtain ⟨kubeNodeName, kubeNodeName_ok, read⟩ := exists_of_bind read
  obtain ⟨gatewayMode, gatewayMode_ok, read⟩ := exists_of_bind read
  obtain ⟨secs, secs_ok, read⟩ := exists_of_bind read
  obtain ⟨meshCa, meshCa_ok, read⟩ := exists_of_bind read
  obtain ⟨meshCert, meshCert_ok, read⟩ := exists_of_bind read
  obtain ⟨meshKey, meshKey_ok, read⟩ := exists_of_bind read
  obtain ⟨certDir, certDir_ok, read⟩ := exists_of_bind read
  obtain ⟨tlsServerName, tlsServerName_ok, read⟩ := exists_of_bind read
  obtain ⟨traceTap, traceTap_ok, read⟩ := exists_of_bind read
  obtain ⟨tracePipePath, tracePipePath_ok, read⟩ := exists_of_bind read
  obtain ⟨logLevel, logLevel_ok, read⟩ := exists_of_bind read
  cases read
  exact ⟨bindAddress_ok, internalPort_ok, externalPort_ok, externalTlsPort_ok, clusterAddress_ok,
    kubeNodeName_ok, gatewayMode_ok, ⟨secs, secs_ok, rfl⟩, meshCa_ok, meshCert_ok, meshKey_ok,
    certDir_ok, tlsServerName_ok, traceTap_ok, tracePipePath_ok, logLevel_ok⟩

lemma readAll_of_spelled (sp : Spelled env s) : readAll env = .ok s := by
  obtain ⟨secs, secs_ok, eq⟩ := sp.dialTimeoutSecs
  rw [readAll, sp.bindAddress, sp.internalPort, sp.externalPort, sp.externalTlsPort, sp.clusterAddress,
    sp.kubeNodeName, sp.gatewayMode, secs_ok, sp.meshCa, sp.meshCert, sp.meshKey, sp.certDir, sp.tlsServerName,
    sp.traceTap, sp.tracePipePath, sp.logLevel]
  simp only [bind, Except.bind, pure, Except.pure, ← eq]

lemma violation?_eq_none_iff : s.violation? = none ↔ Usable s := by
  constructor
  · intro passed
    rw [violation?] at passed
    split_ifs at passed with blank internal external externalTls ie it et timeout inline
    -- Every check that is not passed has a fault of its own, so only the end is left.
    exact ⟨Bool.eq_false_iff.mpr blank, internal, external, externalTls, ie, it, et, timeout, by omega⟩
  · intro us
    have blank : ¬ (Text.trim s.bindAddress).isEmpty = true := by simp [us.bindAddress]
    have inline : ¬ (s.inlineCount ≠ 0 ∧ s.inlineCount ≠ 3) := by
      have either := us.inline
      omega
    rw [violation?, if_neg blank, if_neg us.internal_ne_zero, if_neg us.external_ne_zero,
      if_neg us.externalTls_ne_zero, if_neg us.internal_ne_external, if_neg us.internal_ne_externalTls,
      if_neg us.external_ne_externalTls, if_neg us.dialTimeoutSecs, if_neg inline]

lemma ofEnvironment_eq_ok_iff : ofEnvironment env = .ok s ↔ readAll env = .ok s ∧ s.violation? = none := by
  rw [ofEnvironment]
  constructor
  · intro ok
    obtain ⟨s', read, checked⟩ := exists_of_bind ok
    split at checked
    case h_1 => cases checked
    case h_2 passed =>
      cases checked
      exact ⟨read, passed⟩
  · intro ⟨read, passed⟩
    rw [read]
    simp [bind, Except.bind, passed]

lemma ofEnvironment_eq_error_iff {fault : SettingsFault} (read : readAll env = .ok s) :
    ofEnvironment env = .error fault ↔ s.violation? = some fault := by
  rw [ofEnvironment, read]
  dsimp only [bind, Except.bind]
  cases s.violation? with
  | none => exact ⟨nofun, nofun⟩
  | some found => rw [Except.error.injEq, Option.some_inj]

lemma text?_of_rawText {key : String} {expected : Expected} {value : Option String}
    (read : rawText env key expected = .ok value) : env.text? key = value := by
  rw [rawText] at read
  rw [Environment.text?]
  cases found : env.find? key with
  | none =>
    rw [found] at read
    cases read
    rfl
  | some stands =>
    rw [found] at read
    cases stands with
    | text text =>
      cases read
      rfl
    | map => cases read
    | sequence => cases read

end Settings

end MeshProxy
