import MeshProxy.Settings.Basic
import MeshProxy.Settings.Environment
import MeshProxy.Startup.Chain

/-!
# Reading settings

Each setting is read from the variable of its name; one that is not set has its default. An integer may
also be given as a truth word, a truth value as a word or a digit. What has been read is then checked as a
whole, and the first condition that fails is the error.
-/

namespace MeshProxy

/-- What a setting expects. -/
inductive Expected where
  | integer
  | boolean
  | text
deriving DecidableEq, Repr

def Expected.phrase : Expected → String
  | .integer => "an integer"
  | .boolean => "a boolean"
  | .text => "a string"

/-- The three ports by the names of their variables. -/
inductive PortName where
  | internal
  | external
  | externalTls
deriving DecidableEq, Repr

def PortName.variable : PortName → String
  | .internal => "INTERNAL_PORT"
  | .external => "EXTERNAL_PORT"
  | .externalTls => "EXTERNAL_TLS_PORT"

/-- Why settings cannot be used. -/
inductive SettingsFault where
  /-- The text of a setting is not what it expects. -/
  | badText (key shown : String) (expected : Expected)
  /-- A setting is a map or a sequence. -/
  | badShape (key : String) (isMap : Bool) (expected : Expected)
  /-- An integer does not fit a port. -/
  | notPort (key : String) (value : Nat)
  | emptyBindAddress
  | zeroPort (port : PortName)
  | equalPorts (first second : PortName) (value : UInt16)
  | zeroTimeout
  | partialCertificates
deriving DecidableEq, Repr

namespace SettingsFault

/-- The sentence about one value. -/
def complaint (found : String) (expected key place : String) : Chain :=
  ⟨"failed to deserialise sidecar configuration",
    ["invalid type: " ++ found ++ ", expected " ++ expected ++ " for key `" ++ key ++ "`" ++ place]⟩

def chain : SettingsFault → Chain
  | .badText key shown expected =>
    complaint ("string " ++ Text.quote shown) expected.phrase key " in the environment"
  | .badShape key isMap expected =>
    complaint (if isMap then "map" else "sequence") expected.phrase key ""
  | .notPort key value =>
    complaint ("64-bit unsigned integer `" ++ toString value ++ "`")
      "an unsigned 16 bit integer" key ""
  | .emptyBindAddress => ⟨"BIND_ADDRESS must not be empty", []⟩
  | .zeroPort port => ⟨port.variable ++ " must be a non-zero port", []⟩
  | .equalPorts first second value =>
    ⟨first.variable ++ " and " ++ second.variable ++ " must differ (both are " ++
      toString value.toNat ++ ")", []⟩
  | .zeroTimeout => ⟨"DIAL_TIMEOUT_SECS must be > 0", []⟩
  | .partialCertificates => ⟨"MESH_CA, MESH_CERT and MESH_KEY must be set together", []⟩

end SettingsFault

namespace Settings

/-- The number a text stands for as an integer: one for the words of truth, zero for those of falsity,
otherwise the number it spells, of at most sixty-four bits. -/
def integer? (text : String) : Option Nat :=
  let word := Text.lower text
  if word ∈ ["true", "on", "yes"] then some 1
  else if word ∈ ["false", "off", "no"] then some 0
  else Text.bounded? Text.maxWord64 text.toList

/-- The truth value a text stands for. -/
def boolean? (text : String) : Option Bool :=
  let word := Text.lower text
  if word ∈ ["1", "true", "on", "yes"] then some true
  else if word ∈ ["0", "false", "off", "no"] then some false
  else none

/-- The text of a variable, or `none` if it is not set. -/
def rawText (env : Environment) (key : String) (expected : Expected) :
    Except SettingsFault (Option String) :=
  match env.find? key with
  | none => .ok none
  | some (.text value) => .ok (some value)
  | some .map => .error (.badShape key true expected)
  | some .sequence => .error (.badShape key false expected)

def readText (env : Environment) (key default : String) : Except SettingsFault String :=
  (rawText env key .text).map (·.getD default)

def readInteger (env : Environment) (key : String) (default : Nat) : Except SettingsFault Nat := do
  match ← rawText env key .integer with
  | none => .ok default
  | some text =>
    match integer? text with
    | some n => .ok n
    | none => .error (.badText key text .integer)

def readPort (env : Environment) (key : String) (default : Nat) : Except SettingsFault UInt16 := do
  let n ← readInteger env key default
  if n ≤ Text.maxPort then .ok (UInt16.ofNat n) else .error (.notPort key n)

def readBoolean (env : Environment) (key : String) : Except SettingsFault Bool := do
  match ← rawText env key .boolean with
  | none => .ok false
  | some text =>
    match boolean? text with
    | some b => .ok b
    | none => .error (.badText key (Text.lower text) .boolean)

/-- Reads every setting without looking at them together. -/
def readAll (env : Environment) : Except SettingsFault Settings := do
  return {
    bindAddress := ← readText env "bind_address" "127.0.0.1"
    internalPort := ← readPort env "internal_port" 18000
    externalPort := ← readPort env "external_port" 18001
    externalTlsPort := ← readPort env "external_tls_port" 18443
    clusterAddress := ← rawText env "cluster_address" .text
    kubeNodeName := ← rawText env "kube_node_name" .text
    gatewayMode := ← readBoolean env "gateway_mode"
    dialTimeoutSecs := UInt64.ofNat (← readInteger env "dial_timeout_secs" 5)
    meshCa := ← rawText env "mesh_ca" .text
    meshCert := ← rawText env "mesh_cert" .text
    meshKey := ← rawText env "mesh_key" .text
    certDir := ← rawText env "cert_dir" .text
    tlsServerName := ← rawText env "tls_server_name" .text
    traceTap := ← readBoolean env "trace_tap"
    tracePipePath := ← readText env "trace_pipe_path" "/sys/kernel/debug/tracing/trace_pipe"
    logLevel := ← readText env "log_level" "info" }

/-- How many of the three inline certificate settings are given. -/
def inlineCount (s : Settings) : Nat :=
  ([s.meshCa, s.meshCert, s.meshKey].filter fun v => (Text.nonBlank? v).isSome).length

/-- The first condition that settings violate. -/
def violation? (s : Settings) : Option SettingsFault :=
  if (Text.trim s.bindAddress).isEmpty then some .emptyBindAddress
  else if s.internalPort = 0 then some (.zeroPort .internal)
  else if s.externalPort = 0 then some (.zeroPort .external)
  else if s.externalTlsPort = 0 then some (.zeroPort .externalTls)
  else if s.internalPort = s.externalPort then
    some (.equalPorts .internal .external s.internalPort)
  else if s.internalPort = s.externalTlsPort then
    some (.equalPorts .internal .externalTls s.internalPort)
  else if s.externalPort = s.externalTlsPort then
    some (.equalPorts .external .externalTls s.externalPort)
  else if s.dialTimeoutSecs = 0 then some .zeroTimeout
  else if s.inlineCount ≠ 0 ∧ s.inlineCount ≠ 3 then some .partialCertificates
  else none

/-- The settings of an environment, if they can be read and used. -/
def ofEnvironment (env : Environment) : Except SettingsFault Settings := do
  let s ← readAll env
  match s.violation? with
  | some fault => .error fault
  | none => .ok s

end Settings

end MeshProxy
