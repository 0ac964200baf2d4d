import MeshProxy.Proofs.Settings.Reading
import Mathlib.Data.List.Forall2

/-!
# Settings hold certificate material without showing it

Environments that differ in certificate material alone (`Environment.Veiled`) give the same for every name, but for the
texts of the material (`Environment.Veiled.find?`). So each setting by itself is read alike, and the settings as a whole
are the same with other material in them (`Settings.readAll_eq`). The checks and the summary look at the material only to
see what of it is blank (`Settings.violation?_withMaterial`, `Settings.summary_withMaterial`).
-/

namespace MeshProxy

namespace Environment

/-- The names of the variables that hold certificate material. -/
def material : List String := ["mesh_ca", "mesh_cert", "mesh_key"]

/-- Variables of one name, and of one value if they hold no certificate material. -/
structure SameButMaterial (v v' : String × String) : Prop where
  name : v.1 = v'.1
  value : Text.lower v.1 ∉ material → v.2 = v'.2

/-- Environments that differ in certificate material alone, and are blank in the same of it. -/
structure Veiled (env env' : Environment) : Prop where
  entries : List.Forall₂ SameButMaterial env env'
  blank : ∀ name ∈ material,
    (Text.nonBlank? (env.text? name)).isSome = (Text.nonBlank? (env'.text? name)).isSome

end Environment

/-- What a name stands for in environments that differ in certificate material alone. -/
inductive Variable.Alike (name : String) : Variable → Variable → Prop where
  | text {value value' : String} :
    (name ∉ Environment.material → value = value') →
    Alike name (.text value) (.text value')
  | map : Alike name .map .map
  | sequence : Alike name .sequence .sequence

namespace Environment

lemma rel_getLast? {α β : Type} {R : α → β → Prop} {as : List α} {bs : List β}
    (all : List.Forall₂ R as bs) : Option.Rel R as.getLast? bs.getLast? := by
  have all := List.forall₂_reverse_iff.mpr all
  rw [List.getLast?_eq_head?_reverse, List.getLast?_eq_head?_reverse]
  generalize as.reverse = as at all
  generalize bs.reverse = bs at all
  cases all with
  | nil => exact .none
  | cons one _ => exact .some one

lemma SameButMaterial.says? {v v' : String × String} (sb : SameButMaterial v v') (name : String) :
    Option.Rel (Variable.Alike name) (says? name v) (says? name v') := by
  obtain ⟨key, value⟩ := v
  obtain ⟨key', value'⟩ := v'
  obtain ⟨rfl, same⟩ := sb
  rw [Environment.says?, Environment.says?]
  by_cases eq : (Text.lower key).toList = name.toList
  · have same : name ∉ material → value = value' := by
      rw [← String.toList_inj.mp eq]
      exact same
    simp only [if_pos eq]
    exact .some (.text same)
  · simp only [if_neg eq]
    -- Otherwise the name alone decides.
    cases path? (Text.lower key).toList with
    | none => exact .none
    | some found =>
      obtain ⟨first, step⟩ := found
      cases step with
      | child =>
        dsimp only
        split
        · exact .some .map
        · exact .none
      | index =>
        dsimp only
        split
        · exact .some .sequence
        · exact .none

/-- A name stands for the same in both environments, unless it stands for material. -/
lemma Veiled.find? {env env' : Environment} (vl : Veiled env env') (name : String) :
    Option.Rel (Variable.Alike name) (env.find? name) (env'.find? name) := by
  have one : Relator.LiftFun SameButMaterial (Option.Rel (Variable.Alike name)) (Environment.says? name)
      (Environment.says? name) := by
    intro v v' sb
    exact sb.says? name
  exact rel_getLast? (List.rel_filterMap one vl.entries)

end Environment

namespace Settings

open Environment (Veiled material)

variable {env env' : Environment}

/-! ## Settings are read alike -/

lemma rawText_eq (vl : Veiled env env') (key : String) (expected : Expected) (no : key ∉ material) :
    rawText env' key expected = rawText env key expected := by
  have alike := vl.find? key
  rw [rawText, rawText]
  generalize env.find? key = found at alike ⊢
  generalize env'.find? key = found' at alike ⊢
  cases alike with
  | none => rfl
  | some alike =>
    cases alike with
    | text same => rw [same no]
    | map => rfl
    | sequence => rfl

/-- A variable with material is read wherever it is read in the other environment, as the text that it has. -/
lemma rawText_material (vl : Veiled env env') (key : String) (expected : Expected) :
    rawText env' key expected = (fun _ => env'.text? key) <$> rawText env key expected := by
  have alike := vl.find? key
  rw [rawText, rawText, Environment.text?]
  generalize env.find? key = found at alike ⊢
  generalize env'.find? key = found' at alike ⊢
  cases alike with
  | none => rfl
  | some alike => cases alike <;> rfl

lemma readText_eq (vl : Veiled env env') (key default : String) (no : key ∉ material) :
    readText env' key default = readText env key default := by
  rw [readText, readText, rawText_eq vl key _ no]

lemma readInteger_eq (vl : Veiled env env') (key : String) (default : Nat) (no : key ∉ material) :
    readInteger env' key default = readInteger env key default := by
  rw [readInteger, readInteger, rawText_eq vl key _ no]

lemma readPort_eq (vl : Veiled env env') (key : String) (default : Nat) (no : key ∉ material) :
    readPort env' key default = readPort env key default := by
  rw [readPort, readPort, readInteger_eq vl key _ no]

lemma readBoolean_eq (vl : Veiled env env') (key : String) (no : key ∉ material) :
    readBoolean env' key = readBoolean env key := by
  rw [readBoolean, readBoolean, rawText_eq vl key _ no]

/-- Settings with other certificate material in them. -/
def withMaterial (s : Settings) (ca cert key : Option String) : Settings :=
  { s with meshCa := ca, meshCert := cert, meshKey := key }

/-- The material of an environment in settings that are read from another one. -/
def veil (env : Environment) (s : Settings) : Settings :=
  s.withMaterial (env.text? "mesh_ca") (env.text? "mesh_cert") (env.text? "mesh_key")

/-- The settings of the one environment are those of the other with its own material in them. -/
lemma readAll_eq (vl : Veiled env env') : readAll env' = veil env' <$> readAll env := by
  -- All but the material is read alike, and the material goes into the settings at the end.
  rw [readAll, readAll,
    readText_eq vl "bind_address" _ (by decide), readPort_eq vl "internal_port" _ (by decide),
    readPort_eq vl "external_port" _ (by decide), readPort_eq vl "external_tls_port" _ (by decide),
    rawText_eq vl "cluster_address" _ (by decide), rawText_eq vl "kube_node_name" _ (by decide),
    readBoolean_eq vl "gateway_mode" (by decide), readInteger_eq vl "dial_timeout_secs" _ (by decide),
    rawText_material vl "mesh_ca", rawText_material vl "mesh_cert", rawText_material vl "mesh_key",
    rawText_eq vl "cert_dir" _ (by decide), rawText_eq vl "tls_server_name" _ (by decide),
    readBoolean_eq vl "trace_tap" (by decide), readText_eq vl "trace_pipe_path" _ (by decide),
    readText_eq vl "log_level" _ (by decide)]
  simp only [map_bind, bind_map_left]
  rfl

/-! ## Checks and summaries see what is blank -/

/-- Material that is blank where that of the settings is. -/
structure SameBlank (s : Settings) (ca cert key : Option String) : Prop where
  ca : (Text.nonBlank? ca).isSome = (Text.nonBlank? s.meshCa).isSome
  cert : (Text.nonBlank? cert).isSome = (Text.nonBlank? s.meshCert).isSome
  key : (Text.nonBlank? key).isSome = (Text.nonBlank? s.meshKey).isSome

variable {s : Settings} {ca cert key : Option String}

lemma sameBlank_of_veiled (vl : Veiled env env') (sp : Spelled env s) :
    SameBlank s (env'.text? "mesh_ca") (env'.text? "mesh_cert") (env'.text? "mesh_key") := by
  have ca := vl.blank "mesh_ca" (by decide)
  have cert := vl.blank "mesh_cert" (by decide)
  have key := vl.blank "mesh_key" (by decide)
  rw [text?_of_rawText sp.meshCa] at ca
  rw [text?_of_rawText sp.meshCert] at cert
  rw [text?_of_rawText sp.meshKey] at key
  exact ⟨ca.symm, cert.symm, key.symm⟩

lemma inlineCount_withMaterial (sb : SameBlank s ca cert key) :
    (s.withMaterial ca cert key).inlineCount = s.inlineCount := by
  simp only [inlineCount, withMaterial, List.filter_cons, sb.ca, sb.cert, sb.key]
  split <;> split <;> split <;> rfl

lemma violation?_withMaterial (sb : SameBlank s ca cert key) :
    (s.withMaterial ca cert key).violation? = s.violation? := by
  rw [violation?, violation?, inlineCount_withMaterial sb]
  rfl

lemma isSome_inlineCertificates? (s : Settings) : s.inlineCertificates?.isSome =
    ((Text.nonBlank? s.meshCa).isSome && (Text.nonBlank? s.meshCert).isSome &&
      (Text.nonBlank? s.meshKey).isSome) := by
  rw [inlineCertificates?]
  cases Text.nonBlank? s.meshCa <;> cases Text.nonBlank? s.meshCert <;>
    cases Text.nonBlank? s.meshKey <;> rfl

lemma isSome_inlineCertificates?_withMaterial (sb : SameBlank s ca cert key) :
    (s.withMaterial ca cert key).inlineCertificates?.isSome = s.inlineCertificates?.isSome := by
  rw [isSome_inlineCertificates?, isSome_inlineCertificates?, ← sb.ca, ← sb.cert, ← sb.key]
  rfl

lemma summary_withMaterial (sb : SameBlank s ca cert key) :
    (s.withMaterial ca cert key).summary = s.summary := by
  rw [summary, summary, isSome_inlineCertificates?_withMaterial sb]
  rfl

end Settings

end MeshProxy
