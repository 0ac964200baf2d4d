import MeshProxy.Proofs.Settings.Lookup
import MeshProxy.Proofs.Settings.Reading
import MeshProxy.Proofs.Settings.Spelling

/-!
# The settings that an environment of plain names gives

In an environment of plain names, each setting is what was set last under its name, or its default. `Settings.Given` says
this without a reader, and the reader follows it (`Settings.given_iff`). There are such settings if every port, timeout
and truth value that is set can be read (`Settings.exists_given_iff`), and then no others (`Settings.Given.unique`).
-/

namespace MeshProxy

namespace Settings

/-- The value of a setting: what the text spells that is set, or the default if none is. -/
inductive Takes {α : Type} (Spells : String → α → Prop) (default : α) : Option String → α → Prop where
  | unset : Takes Spells default none default
  | set {text : String} {value : α} :
    Spells text value →
    Takes Spells default (some text) value

/-- The port that a text spells. -/
def SpellsPort (text : String) (port : UInt16) : Prop := Number text port.toNat

/-- The seconds that a text spells. -/
def SpellsSeconds (text : String) (secs : UInt64) : Prop := Number text secs.toNat

/-- Each setting is the value that was set last, or its default. -/
structure Given (env : Environment) (s : Settings) : Prop where
  bindAddress : s.bindAddress = (env.last? "bind_address").getD "127.0.0.1"
  internalPort : Takes SpellsPort 18000 (env.last? "internal_port") s.internalPort
  externalPort : Takes SpellsPort 18001 (env.last? "external_port") s.externalPort
  externalTlsPort : Takes SpellsPort 18443 (env.last? "external_tls_port") s.externalTlsPort
  clusterAddress : s.clusterAddress = env.last? "cluster_address"
  kubeNodeName : s.kubeNodeName = env.last? "kube_node_name"
  gatewayMode : Takes Flag false (env.last? "gateway_mode") s.gatewayMode
  dialTimeoutSecs : Takes SpellsSeconds 5 (env.last? "dial_timeout_secs") s.dialTimeoutSecs
  meshCa : s.meshCa = env.last? "mesh_ca"
  meshCert : s.meshCert = env.last? "mesh_cert"
  meshKey : s.meshKey = env.last? "mesh_key"
  certDir : s.certDir = env.last? "cert_dir"
  tlsServerName : s.tlsServerName = env.last? "tls_server_name"
  traceTap : Takes Flag false (env.last? "trace_tap") s.traceTap
  tracePipePath : s.tracePipePath = (env.last? "trace_pipe_path").getD "/sys/kernel/debug/tracing/trace_pipe"
  logLevel : s.logLevel = (env.last? "log_level").getD "info"

/-- Every port, timeout and truth value that is set can be read. -/
structure Readable (env : Environment) : Prop where
  ports : ∀ name ∈ ["internal_port", "external_port", "external_tls_port"], ∀ text, env.last? name = some text →
    ∃ n ≤ 65535, Number text n
  timeout : ∀ text, env.last? "dial_timeout_secs" = some text → ∃ n, Number text n
  flags : ∀ name ∈ ["gateway_mode", "trace_tap"], ∀ text, env.last? name = some text → ∃ b, Flag text b

variable {env : Environment} {s : Settings} {given : Option String}

/-! ## What a setting takes -/

section Takes

variable {α : Type} {Spells : String → α → Prop} {default value : α}

lemma Takes.spells {text : String} (tk : Takes Spells default given value) (set : given = some text) :
    Spells text value := by
  rw [set] at tk
  cases tk with
  | set spells => exact spells

lemma exists_takes (readable : ∀ text, given = some text → ∃ value, Spells text value) :
    ∃ value, Takes Spells default given value := by
  cases given with
  | none => exact ⟨default, .unset⟩
  | some text =>
    obtain ⟨value, spells⟩ := readable text rfl
    exact ⟨value, .set spells⟩

/-- The text that is set is read, if one is. -/
def takenBy (read? : String → Option α) (fault : String → SettingsFault) (default : α) :
    Option String → Except SettingsFault α
  | none => .ok default
  | some text =>
    match read? text with
    | some value => .ok value
    | none => .error (fault text)

lemma takenBy_eq_ok_iff {read? : String → Option α} {fault : String → SettingsFault}
    (spelled : ∀ text value, read? text = some value ↔ Spells text value) :
    takenBy read? fault default given = .ok value ↔ Takes Spells default given value := by
  constructor
  · intro read
    cases given with
    | none =>
      cases read
      exact .unset
    | some text =>
      rw [takenBy] at read
      split at read
      case h_1 value found =>
        cases read
        exact .set ((spelled text value).mp found)
      case h_2 => cases read
  · intro tk
    cases tk with
    | unset => rfl
    | set spells => rw [takenBy, (spelled _ value).mpr spells]

/-- A number that fits is taken as a word. -/
lemma narrow_iff {width default : Nat} {ofNat : Nat → α} {toNat : α → Nat} (lt : ∀ a, toNat a < width)
    (inv : ∀ a, ofNat (toNat a) = a) (fits : ∀ n < width, toNat (ofNat n) = n) (small : default < width) :
    (∃ n, Takes Number default given n ∧ n < width ∧ value = ofNat n) ↔
      Takes (fun text a => Number text (toNat a)) (ofNat default) given value := by
  constructor
  -- Out of what is taken for a number comes the default, which fits, or a number that was set, which has to.
  · rintro ⟨n, tk, below, rfl⟩
    cases tk with
    | unset => exact .unset
    | set number =>
      apply Takes.set
      rw [fits n below]
      exact number
  · intro tk
    cases tk with
    | unset => exact ⟨default, .unset, small, rfl⟩
    | set number => exact ⟨toNat value, .set number, lt value, (inv value).symm⟩

end Takes

/-! ## Each setting by itself -/

lemma rawText_of_plain (pl : env.Plain) (key : String) (expected : Expected) :
    rawText env key expected = .ok (env.last? key) := by
  rw [rawText, pl.find?_eq]
  cases env.last? key <;> rfl

lemma readText_of_plain (pl : env.Plain) (key default : String) :
    readText env key default = .ok ((env.last? key).getD default) := by
  rw [readText, rawText_of_plain pl]
  rfl

lemma readInteger_eq_ok_iff (pl : env.Plain) {key : String} {default n : Nat} :
    readInteger env key default = .ok n ↔ Takes Number default (env.last? key) n := by
  have taken : readInteger env key default =
      takenBy integer? (fun text => .badText key text .integer) default (env.last? key) := by
    rw [readInteger, rawText_of_plain pl]
    cases env.last? key with
    | none => rfl
    | some text =>
      dsimp only [bind, Except.bind, takenBy]
      cases integer? text <;> rfl
  rw [taken]
  exact takenBy_eq_ok_iff fun _ _ => integer?_eq_some_iff

lemma readBoolean_eq_ok_iff (pl : env.Plain) {key : String} {b : Bool} :
    readBoolean env key = .ok b ↔ Takes Flag false (env.last? key) b := by
  have taken : readBoolean env key =
      takenBy boolean? (fun text => .badText key (Text.lower text) .boolean) false (env.last? key) := by
    rw [readBoolean, rawText_of_plain pl]
    cases env.last? key with
    | none => rfl
    | some text =>
      dsimp only [bind, Except.bind, takenBy]
      cases boolean? text <;> rfl
  rw [taken]
  exact takenBy_eq_ok_iff fun _ _ => boolean?_eq_some_iff

lemma readPort_eq_ok_iff (pl : env.Plain) {key : String} {default : Nat} {port : UInt16} (small : default < 65536) :
    readPort env key default = .ok port ↔ Takes SpellsPort (UInt16.ofNat default) (env.last? key) port := by
  have max : Text.maxPort = 65535 := rfl
  apply Iff.trans _ (narrow_iff UInt16.toNat_lt (fun _ => UInt16.ofNat_toNat)
    (fun _ lt => UInt16.toNat_ofNat_of_lt' lt) small)
  constructor
  · intro read
    rw [readPort] at read
    obtain ⟨n, integer, narrow⟩ := exists_of_bind read
    split at narrow
    case isTrue le =>
      cases narrow
      exact ⟨n, (readInteger_eq_ok_iff pl).mp integer, by omega, rfl⟩
    case isFalse => cases narrow
  · rintro ⟨n, tk, lt, rfl⟩
    rw [readPort, (readInteger_eq_ok_iff pl).mpr tk]
    exact if_pos (by omega)

lemma readSeconds_eq_ok_iff (pl : env.Plain) {key : String} {default : Nat} {secs : UInt64}
    (small : default < 2 ^ 64) :
    (∃ n, readInteger env key default = .ok n ∧ secs = UInt64.ofNat n) ↔
      Takes SpellsSeconds (UInt64.ofNat default) (env.last? key) secs := by
  apply Iff.trans _ (narrow_iff UInt64.toNat_lt (fun _ => UInt64.ofNat_toNat)
    (fun _ lt => UInt64.toNat_ofNat_of_lt' lt) small)
  constructor
  · rintro ⟨n, integer, rfl⟩
    have tk := (readInteger_eq_ok_iff pl).mp integer
    refine ⟨n, tk, ?_, rfl⟩
    -- No text spells a number of more than sixty-four bits.
    cases last : env.last? key with
    | none =>
      rw [last] at tk
      cases tk
      exact small
    | some text => exact (tk.spells last).lt
  · rintro ⟨n, tk, -, rfl⟩
    exact ⟨n, (readInteger_eq_ok_iff pl).mpr tk, rfl⟩

/-! ## All settings -/

lemma ok_getD_iff (pl : env.Plain) {key default text : String} :
    readText env key default = .ok text ↔ text = (env.last? key).getD default := by
  rw [readText_of_plain pl, Except.ok.injEq, eq_comm]

lemma ok_last?_iff (pl : env.Plain) {key : String} {value : Option String} :
    rawText env key .text = .ok value ↔ value = env.last? key := by
  rw [rawText_of_plain pl, Except.ok.injEq, eq_comm]

lemma given_iff (pl : env.Plain) : Given env s ↔ readAll env = .ok s := by
  constructor
  · intro gv
    apply readAll_of_spelled
    exact {
      bindAddress := (ok_getD_iff pl).mpr gv.bindAddress
      internalPort := (readPort_eq_ok_iff pl (by decide)).mpr gv.internalPort
      externalPort := (readPort_eq_ok_iff pl (by decide)).mpr gv.externalPort
      externalTlsPort := (readPort_eq_ok_iff pl (by decide)).mpr gv.externalTlsPort
      clusterAddress := (ok_last?_iff pl).mpr gv.clusterAddress
      kubeNodeName := (ok_last?_iff pl).mpr gv.kubeNodeName
      gatewayMode := (readBoolean_eq_ok_iff pl).mpr gv.gatewayMode
      dialTimeoutSecs := (readSeconds_eq_ok_iff pl (by decide)).mpr gv.dialTimeoutSecs
      meshCa := (ok_last?_iff pl).mpr gv.meshCa
      meshCert := (ok_last?_iff pl).mpr gv.meshCert
      meshKey := (ok_last?_iff pl).mpr gv.meshKey
      certDir := (ok_last?_iff pl).mpr gv.certDir
      tlsServerName := (ok_last?_iff pl).mpr gv.tlsServerName
      traceTap := (readBoolean_eq_ok_iff pl).mpr gv.traceTap
      tracePipePath := (ok_getD_iff pl).mpr gv.tracePipePath
      logLevel := (ok_getD_iff pl).mpr gv.logLevel }
  · intro read
    have sp := spelled_of_readAll read
    exact {
      bindAddress := (ok_getD_iff pl).mp sp.bindAddress
      internalPort := (readPort_eq_ok_iff pl (by decide)).mp sp.internalPort
      externalPort := (readPort_eq_ok_iff pl (by decide)).mp sp.externalPort
      externalTlsPort := (readPort_eq_ok_iff pl (by decide)).mp sp.externalTlsPort
      clusterAddress := (ok_last?_iff pl).mp sp.clusterAddress
      kubeNodeName := (ok_last?_iff pl).mp sp.kubeNodeName
      gatewayMode := (readBoolean_eq_ok_iff pl).mp sp.gatewayMode
      dialTimeoutSecs := (readSeconds_eq_ok_iff pl (by decide)).mp sp.dialTimeoutSecs
      meshCa := (ok_last?_iff pl).mp sp.meshCa
      meshCert := (ok_last?_iff pl).mp sp.meshCert
      meshKey := (ok_last?_iff pl).mp sp.meshKey
      certDir := (ok_last?_iff pl).mp sp.certDir
      tlsServerName := (ok_last?_iff pl).mp sp.tlsServerName
      traceTap := (readBoolean_eq_ok_iff pl).mp sp.traceTap
      tracePipePath := (ok_getD_iff pl).mp sp.tracePipePath
      logLevel := (ok_getD_iff pl).mp sp.logLevel }

/-- An environment gives one value to each setting. -/
lemma Given.unique {s' : Settings} (pl : env.Plain) (gv : Given env s) (gv' : Given env s') : s = s' := by
  have read := (given_iff pl).mp gv
  rw [(given_iff pl).mp gv'] at read
  cases read
  rfl

lemma Readable.port (rd : Readable env) {name : String}
    (mem : name ∈ ["internal_port", "external_port", "external_tls_port"]) (default : UInt16) :
    ∃ port, Takes SpellsPort default (env.last? name) port := by
  apply exists_takes
  intro text last
  obtain ⟨n, le, number⟩ := rd.ports name mem text last
  refine ⟨UInt16.ofNat n, ?_⟩
  rw [SpellsPort, UInt16.toNat_ofNat_of_lt' (by simp only [UInt16.size]; omega)]
  exact number

lemma Readable.seconds (rd : Readable env) (default : UInt64) :
    ∃ secs, Takes SpellsSeconds default (env.last? "dial_timeout_secs") secs := by
  apply exists_takes
  intro text last
  obtain ⟨n, number⟩ := rd.timeout text last
  refine ⟨UInt64.ofNat n, ?_⟩
  rw [SpellsSeconds, UInt64.toNat_ofNat_of_lt' number.lt]
  exact number

lemma Readable.flag (rd : Readable env) {name : String} (mem : name ∈ ["gateway_mode", "trace_tap"]) :
    ∃ b, Takes Flag false (env.last? name) b :=
  exists_takes (rd.flags name mem)

lemma readable_port {name : String} {default port : UInt16} (tk : Takes SpellsPort default (env.last? name) port)
    {text : String} (last : env.last? name = some text) : ∃ n ≤ 65535, Number text n := by
  have lt := UInt16.toNat_lt port
  exact ⟨port.toNat, by omega, tk.spells last⟩

/-- There are settings to be had if every variable can be read whose text is not taken as it is. -/
lemma exists_given_iff : (∃ s, Given env s) ↔ Readable env := by
  constructor
  · intro ⟨s, gv⟩
    constructor
    case ports =>
      intro name mem text last
      simp only [List.mem_cons, List.not_mem_nil, or_false] at mem
      obtain rfl | rfl | rfl := mem
      · exact readable_port gv.internalPort last
      · exact readable_port gv.externalPort last
      · exact readable_port gv.externalTlsPort last
    case timeout =>
      intro text last
      exact ⟨_, gv.dialTimeoutSecs.spells last⟩
    case flags =>
      intro name mem text last
      simp only [List.mem_cons, List.not_mem_nil, or_false] at mem
      obtain rfl | rfl := mem
      · exact ⟨_, gv.gatewayMode.spells last⟩
      · exact ⟨_, gv.traceTap.spells last⟩
  · intro rd
    obtain ⟨internal, takesInternal⟩ := rd.port (by simp : "internal_port" ∈ _) 18000
    obtain ⟨external, takesExternal⟩ := rd.port (by simp : "external_port" ∈ _) 18001
    obtain ⟨externalTls, takesExternalTls⟩ := rd.port (by simp : "external_tls_port" ∈ _) 18443
    obtain ⟨gateway, takesGateway⟩ := rd.flag (by simp : "gateway_mode" ∈ _)
    obtain ⟨secs, takesSecs⟩ := rd.seconds 5
    obtain ⟨tap, takesTap⟩ := rd.flag (by simp : "trace_tap" ∈ _)
    let s : Settings := {
      bindAddress := (env.last? "bind_address").getD "127.0.0.1"
      internalPort := internal
      externalPort := external
      externalTlsPort := externalTls
      clusterAddress := env.last? "cluster_address"
      kubeNodeName := env.last? "kube_node_name"
      gatewayMode := gateway
      dialTimeoutSecs := secs
      meshCa := env.last? "mesh_ca"
      meshCert := env.last? "mesh_cert"
      meshKey := env.last? "mesh_key"
      certDir := env.last? "cert_dir"
      tlsServerName := env.last? "tls_server_name"
      traceTap := tap
      tracePipePath := (env.last? "trace_pipe_path").getD "/sys/kernel/debug/tracing/trace_pipe"
      logLevel := (env.last? "log_level").getD "info" }
    exact ⟨s, rfl, takesInternal, takesExternal, takesExternalTls, rfl, rfl, takesGateway, takesSecs, rfl, rfl, rfl,
      rfl, rfl, takesTap, rfl, rfl⟩

end Settings

end MeshProxy
