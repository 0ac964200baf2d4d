import MeshProxy.Proofs.Settings.Reading
import Mathlib.Data.List.Basic

/-!
# Which check finds a fault

The checks look at one condition after the other. `Settings.faults` is the order in which they look, and
`Settings.Violates` says what each fault is, whatever else is wrong. What the checks find is the first of these that the
settings have (`Settings.violation?_eq_some_iff`).
-/

namespace MeshProxy.Settings

/-- The port of a name. -/
def port (s : Settings) : PortName → UInt16
  | .internal => s.internalPort
  | .external => s.externalPort
  | .externalTls => s.externalTlsPort

/-- The settings have the fault. -/
def Violates (s : Settings) : SettingsFault → Prop
  | .emptyBindAddress => Text.trim s.bindAddress = ""
  | .zeroPort name => s.port name = 0
  | .equalPorts first second value => s.port first = value ∧ s.port second = value
  | .zeroTimeout => s.dialTimeoutSecs = 0
  | .partialCertificates => s.inlineCount ≠ 0 ∧ s.inlineCount ≠ 3
  | .badText .. | .badShape .. | .notPort .. => False

instance (s : Settings) : DecidablePred s.Violates
  | .emptyBindAddress => inferInstanceAs (Decidable (Text.trim s.bindAddress = ""))
  | .zeroPort name => inferInstanceAs (Decidable (s.port name = 0))
  | .equalPorts first second value => inferInstanceAs (Decidable (s.port first = value ∧ s.port second = value))
  | .zeroTimeout => inferInstanceAs (Decidable (s.dialTimeoutSecs = 0))
  | .partialCertificates => inferInstanceAs (Decidable (s.inlineCount ≠ 0 ∧ s.inlineCount ≠ 3))
  | .badText .. | .badShape .. | .notPort .. => inferInstanceAs (Decidable False)

/-- The faults that settings can have once they are read, in the order of the checks. -/
def faults (s : Settings) : List SettingsFault :=
  [.emptyBindAddress,
    .zeroPort .internal, .zeroPort .external, .zeroPort .externalTls,
    .equalPorts .internal .external s.internalPort, .equalPorts .internal .externalTls s.internalPort,
    .equalPorts .external .externalTls s.externalPort,
    .zeroTimeout,
    .partialCertificates]

/-- The settings have the fault, and none that stands before it in the order of the checks. -/
structure FirstViolated (s : Settings) (fault : SettingsFault) : Prop where
  violates : s.Violates fault
  first : ∃ before after, s.faults = before ++ fault :: after ∧ ∀ other ∈ before, ¬ s.Violates other

variable {s : Settings} {fault : SettingsFault}

/-- A check finds its fault, or the rest of the checks goes on. -/
lemma find?_violates_cons {p : Prop} [Decidable p] {rest : List SettingsFault} (iff : s.Violates fault ↔ p) :
    (fault :: rest).find? (fun fault => s.Violates fault) =
      if p then some fault else rest.find? (fun fault => s.Violates fault) := by
  rw [List.find?_cons]
  by_cases holds : p
  · rw [if_pos holds, decide_eq_true (iff.mpr holds)]
  · rw [if_neg holds, decide_eq_false (mt iff.mp holds)]

/-- Two ports are equal if both have the value of the first. -/
lemma violates_equalPorts_iff {first second : PortName} :
    s.Violates (.equalPorts first second (s.port first)) ↔ s.port first = s.port second := by
  rw [Violates, and_iff_right rfl, eq_comm]

lemma violation?_eq_find? (s : Settings) : s.violation? = s.faults.find? (fun fault => s.Violates fault) := by
  have blank : s.Violates .emptyBindAddress ↔ (Text.trim s.bindAddress).isEmpty = true := String.isEmpty_iff.symm
  have ie : s.Violates (.equalPorts .internal .external s.internalPort) ↔ s.internalPort = s.externalPort :=
    violates_equalPorts_iff
  have it : s.Violates (.equalPorts .internal .externalTls s.internalPort) ↔ s.internalPort = s.externalTlsPort :=
    violates_equalPorts_iff
  have et : s.Violates (.equalPorts .external .externalTls s.externalPort) ↔ s.externalPort = s.externalTlsPort :=
    violates_equalPorts_iff
  -- One rewrite for each check; the order is the same on both sides.
  rw [faults, find?_violates_cons blank, find?_violates_cons Iff.rfl, find?_violates_cons Iff.rfl,
    find?_violates_cons Iff.rfl, find?_violates_cons ie, find?_violates_cons it, find?_violates_cons et,
    find?_violates_cons Iff.rfl, find?_violates_cons Iff.rfl]
  rfl

theorem violation?_eq_some_iff : s.violation? = some fault ↔ FirstViolated s fault := by
  rw [violation?_eq_find?, List.find?_eq_some_iff_append]
  constructor
  · intro ⟨violates, before, after, order, earlier⟩
    refine ⟨of_decide_eq_true violates, before, after, order, ?_⟩
    intro other mem has
    have no := earlier other mem
    rw [decide_eq_true has] at no
    cases no
  · intro ⟨violates, before, after, order, earlier⟩
    refine ⟨decide_eq_true violates, before, after, order, ?_⟩
    intro other mem
    rw [decide_eq_false (earlier other mem)]
    rfl

end MeshProxy.Settings
