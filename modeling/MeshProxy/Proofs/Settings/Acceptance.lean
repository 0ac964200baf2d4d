import MeshProxy.Proofs.Settings.Checking
import MeshProxy.Proofs.Settings.Given
import Mathlib.Logic.ExistsUnique

/-!
# Which environments are accepted

An environment of plain names is accepted if it gives settings and no check finds a fault in them. Variables that have not
the name of a setting are not looked at (`Settings.readAll_known`), and what the checks find is the first fault in their
order, so `Settings.acceptance_exact` says of each such environment what becomes of it.
-/

namespace MeshProxy.Settings

/-- The names of the settings. -/
def names : List String :=
  ["bind_address", "internal_port", "external_port", "external_tls_port", "cluster_address", "kube_node_name",
    "gateway_mode", "dial_timeout_secs", "mesh_ca", "mesh_cert", "mesh_key", "cert_dir", "tls_server_name",
    "trace_tap", "trace_pipe_path", "log_level"]

/-- The variables that have the name of a setting, in whatever case. -/
def known (env : Environment) : Environment := env.filter fun v => v.1.toLower ∈ names

variable {env : Environment} {s : Settings}

lemma rawText_known (pl : env.Plain) {key : String} (mem : key ∈ names) (expected : Expected) :
    rawText (known env) key expected = rawText env key expected := by
  rw [known, rawText_of_plain pl, rawText_of_plain (pl.filter _), Environment.last?_filter mem]

/-- Variables of other names make no difference, to the faults that are found neither. -/
lemma readAll_known (pl : env.Plain) : readAll (known env) = readAll env := by
  have raw (key : String) (mem : key ∈ names) (expected : Expected) := rawText_known pl mem expected
  simp (disch := decide) only [readAll, readText, readPort, readInteger, readBoolean, raw]

lemma ofEnvironment_eq_ok_iff_given (pl : env.Plain) : ofEnvironment env = .ok s ↔ Given env s ∧ Usable s := by
  rw [ofEnvironment_eq_ok_iff, given_iff pl, violation?_eq_none_iff]

/-- What becomes of an environment. -/
structure Acceptance (env : Environment) : Prop where
  /-- It is accepted if what is set can be read, and the settings can be used. -/
  accepted_iff : (∃ s, ofEnvironment env = .ok s) ↔ Readable env ∧ ∀ s, Given env s → Usable s
  /-- The settings are then those that it gives. -/
  accepted : ∀ s, ofEnvironment env = .ok s ↔ Given env s ∧ Usable s
  /-- There are such settings if what is set can be read, and no others. -/
  given : Readable env → ∃! s, Given env s
  /-- If they cannot be used, the fault is the first in the order of the checks. -/
  refused : ∀ s, Given env s → ∀ fault, ofEnvironment env = .error fault ↔ FirstViolated s fault
  /-- Only variables with the names of settings count. -/
  others : ofEnvironment (known env) = ofEnvironment env

/-- Of an environment of plain names it is known whether it is accepted, with which settings, and for which fault it is
refused if it could be read. -/
theorem acceptance_exact (pl : env.Plain) : Acceptance env where
  accepted_iff := by
    constructor
    · intro ⟨s, ok⟩
      obtain ⟨gv, us⟩ := (ofEnvironment_eq_ok_iff_given pl).mp ok
      refine ⟨exists_given_iff.mp ⟨s, gv⟩, ?_⟩
      intro s' gv'
      rw [gv'.unique pl gv]
      exact us
    · intro ⟨rd, usable⟩
      obtain ⟨s, gv⟩ := exists_given_iff.mpr rd
      exact ⟨s, (ofEnvironment_eq_ok_iff_given pl).mpr ⟨gv, usable s gv⟩⟩
  accepted := fun _ => ofEnvironment_eq_ok_iff_given pl
  given := by
    intro rd
    obtain ⟨s, gv⟩ := exists_given_iff.mpr rd
    exact ⟨s, gv, fun _ gv' => gv'.unique pl gv⟩
  refused := by
    intro s gv fault
    rw [ofEnvironment_eq_error_iff ((given_iff pl).mp gv), violation?_eq_some_iff]
  others := by
    rw [ofEnvironment, ofEnvironment, readAll_known pl]

/-- The internal port is set twice, and only the second time to a number; one part of the material is blank. -/
def sampleEnvironment (port : String) : Environment :=
  [("PATH", "/bin"), ("Internal_Port", "none"), ("INTERNAL_PORT", port), ("Gateway_Mode", "Yes"), ("MESH_CA", " ")]

/-- The settings that it gives. -/
def sampleSettings (port : UInt16) : Settings := { internalPort := port, gatewayMode := true, meshCa := some " " }

/-- A port that is set clashes with the default of another one. -/
theorem acceptance_exact_of_sample :
    (∀ port ∈ ["+019000", "18001"], (sampleEnvironment port).Plain) ∧
      Given (sampleEnvironment "+019000") (sampleSettings 19000) ∧
      FirstViolated (sampleSettings 18001) (.equalPorts .internal .external 18001) := by
  have plain : ∀ port ∈ ["+019000", "18001"], (sampleEnvironment port).Plain := by decide +kernel
  have accepted : ofEnvironment (sampleEnvironment "+019000") = .ok (sampleSettings 19000) := by decide +kernel
  have read : readAll (sampleEnvironment "18001") = .ok (sampleSettings 18001) := by decide +kernel
  have refused : ofEnvironment (sampleEnvironment "18001") = .error (.equalPorts .internal .external 18001) := by
    decide +kernel
  have pl := plain "18001" (by decide)
  refine ⟨plain, ?_, ?_⟩
  · exact (((acceptance_exact (plain "+019000" (by decide))).accepted _).mp accepted).1
  · exact ((acceptance_exact pl).refused _ ((given_iff pl).mpr read) _).mp refused

end MeshProxy.Settings
