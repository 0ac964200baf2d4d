import MeshProxy.Identity.Source
import MeshProxy.Proofs.Settings.Secrecy

/-!
# Certificate material is never shown

Two environments that differ in certificate material alone cannot be told apart by what is shown of them, and neither can
two directories with the same readable files (`Identity.nothing_shown`). The sizes of the authority and of the certificate
are shown, so the summaries of two bundles agree if these sizes do; nothing is asked of the key.

A directory turns out alike on two sides if the same files can be read in it (`Identity.Sourced`), and so does the search for
the bundle (`Identity.LoadedAlike`), which tells of a file that cannot be read no more than its path.
-/

namespace MeshProxy

namespace Identity

open Environment (Veiled)
open Settings (SameBlank)

/-! ## The search for a bundle is reported alike -/

/-- The same files of a bundle can be read in a directory on both sides. -/
def SameReadable (directory : String) (files files' : Files) : Prop :=
  ∀ name ∈ [caFile, certFile, keyFile],
    (files (pathIn directory name)).isOk = (files' (pathIn directory name)).isOk

/-- How the same directory turns out on two sides: both have a bundle in it, or both lack a file first. -/
inductive Sourced (directory : String) (files files' : Files) :
    Except Unreadable Bundle → Except Unreadable Bundle → Prop where
  | found {bundle bundle' : Bundle} :
    files (pathIn directory caFile) = .ok bundle.ca →
    files' (pathIn directory caFile) = .ok bundle'.ca →
    files (pathIn directory certFile) = .ok bundle.cert →
    files' (pathIn directory certFile) = .ok bundle'.cert →
    Sourced directory files files' (.ok bundle) (.ok bundle')
  | missing {path : String} {cause cause' : IoFault} :
    Sourced directory files files' (.error ⟨path, cause⟩) (.error ⟨path, cause'⟩)

/-- What is read of one file on two sides. -/
inductive ReadAlike (files files' : Files) (path : String) :
    Except Unreadable Bytes → Except Unreadable Bytes → Prop where
  | read {bytes bytes' : Bytes} :
    files path = .ok bytes →
    files' path = .ok bytes' →
    ReadAlike files files' path (.ok bytes) (.ok bytes')
  | unreadable {cause cause' : IoFault} :
    ReadAlike files files' path (.error ⟨path, cause⟩) (.error ⟨path, cause'⟩)

variable {files files' : Files} {directory : String}

lemma readAlike_readFile {name : String}
    (same : (files (pathIn directory name)).isOk = (files' (pathIn directory name)).isOk) :
    ReadAlike files files' (pathIn directory name) (readFile files directory name)
      (readFile files' directory name) := by
  rw [readFile, readFile]
  cases eq : files (pathIn directory name) with
  | ok bytes =>
    rw [eq] at same
    cases eq' : files' (pathIn directory name) with
    | ok bytes' => exact .read eq eq'
    | error cause' =>
      rw [eq'] at same
      cases same
  | error cause =>
    rw [eq] at same
    cases eq' : files' (pathIn directory name) with
    | ok bytes' =>
      rw [eq'] at same
      cases same
    | error cause' => exact .unreadable

lemma sourced_ofDirectory (same : SameReadable directory files files') :
    Sourced directory files files' (ofDirectory files directory) (ofDirectory files' directory) := by
  have ca := readAlike_readFile (same caFile (by simp))
  have cert := readAlike_readFile (same certFile (by simp))
  have key := readAlike_readFile (same keyFile (by simp))
  rw [ofDirectory, ofDirectory]
  generalize readFile files directory caFile = ca₁ at ca ⊢
  generalize readFile files' directory caFile = ca₂ at ca ⊢
  generalize readFile files directory certFile = cert₁ at cert ⊢
  generalize readFile files' directory certFile = cert₂ at cert ⊢
  generalize readFile files directory keyFile = key₁ at key ⊢
  generalize readFile files' directory keyFile = key₂ at key ⊢
  -- The first file that cannot be read decides, and it is the same on both sides.
  cases ca with
  | unreadable => exact .missing
  | read ca ca' =>
    cases cert with
    | unreadable => exact .missing
    | read cert cert' =>
      cases key with
      | unreadable => exact .missing
      | read => exact .found ca ca' cert cert'

/-- How the search for a bundle turns out on two sides. -/
inductive LoadedAlike (s s' : Settings) (files files' : Files) :
    Option Bundle × List Event → Option Bundle × List Event → Prop where
  | inline {ca ca' cert cert' key key' : String} :
    Text.nonBlank? s.meshCa = some ca →
    Text.nonBlank? s'.meshCa = some ca' →
    Text.nonBlank? s.meshCert = some cert →
    Text.nonBlank? s'.meshCert = some cert' →
    LoadedAlike s s' files files' (some ⟨bytesOf ca, bytesOf cert, bytesOf key⟩, [.loadedInline])
      (some ⟨bytesOf ca', bytesOf cert', bytesOf key'⟩, [.loadedInline])
  | nowhere :
    LoadedAlike s s' files files' (none, [.disabled]) (none, [.disabled])
  | searched {directory : String} {found found' : Except Unreadable Bundle} :
    s.certDir? = some directory →
    Sourced directory files files' found found' →
    LoadedAlike s s' files files'
      (match found with
        | .ok bundle => (some bundle, [.loadedFrom directory])
        | .error file => (none, [.unreadable directory file, .disabled]))
      (match found' with
        | .ok bundle => (some bundle, [.loadedFrom directory])
        | .error file => (none, [.unreadable directory file, .disabled]))

variable {s : Settings} {ca cert key : Option String}

lemma nonBlank?_of_inlineCertificates? {ca cert key : String}
    (inline : s.inlineCertificates? = some (ca, cert, key)) :
    Text.nonBlank? s.meshCa = some ca ∧ Text.nonBlank? s.meshCert = some cert := by
  rw [Settings.inlineCertificates?] at inline
  split at inline
  case h_1 ca_eq cert_eq _ =>
    cases inline
    exact ⟨ca_eq, cert_eq⟩
  case h_2 => cases inline

lemma loadedAlike_load (sb : SameBlank s ca cert key)
    (same : ∀ directory, s.certDir? = some directory → SameReadable directory files files') :
    LoadedAlike s (s.withMaterial ca cert key) files files' (load files s)
      (load files' (s.withMaterial ca cert key)) := by
  have both := Settings.isSome_inlineCertificates?_withMaterial sb
  have dir : (s.withMaterial ca cert key).certDir? = s.certDir? := rfl
  rw [load, load, dir]
  cases inline : s.inlineCertificates? with
  | some parts =>
    rw [inline, Option.isSome_some, Option.isSome_iff_exists] at both
    obtain ⟨parts', inline'⟩ := both
    rw [inline']
    obtain ⟨ca_eq, cert_eq⟩ := nonBlank?_of_inlineCertificates? inline
    obtain ⟨ca_eq', cert_eq'⟩ := nonBlank?_of_inlineCertificates? inline'
    exact .inline ca_eq ca_eq' cert_eq cert_eq'
  | none =>
    rw [inline, Option.isSome_none, Option.isSome_eq_false_iff, Option.isNone_iff_eq_none] at both
    rw [both]
    cases named : s.certDir? with
    | none => exact .nowhere
    | some directory => exact .searched named (sourced_ofDirectory (same directory named))

/-- The same is reported on both sides; why a file cannot be read is not told. -/
lemma LoadedAlike.records {s s' : Settings} {loaded loaded' : Option Bundle × List Event}
    (la : LoadedAlike s s' files files' loaded loaded') :
    loaded.2.map Event.record = loaded'.2.map Event.record := by
  cases la with
  | inline => rfl
  | nowhere => rfl
  | searched _ sourced => cases sourced <;> rfl

/-- The summary of a bundle tells two sizes and nothing else. -/
lemma Bundle.summary_eq {bundle bundle' : Bundle} (ca : bundle.ca.length = bundle'.ca.length)
    (cert : bundle.cert.length = bundle'.cert.length) : bundle.summary = bundle'.summary := by
  unfold Bundle.summary
  rw [ca, cert]

/-- Authority and certificate have the same sizes on two sides, given inline or as files. -/
structure SameSizes (env env' : Environment) (files files' : Files) : Prop where
  ca : (Text.nonBlank? (env.text? "mesh_ca")).map String.utf8ByteSize =
    (Text.nonBlank? (env'.text? "mesh_ca")).map String.utf8ByteSize
  cert : (Text.nonBlank? (env.text? "mesh_cert")).map String.utf8ByteSize =
    (Text.nonBlank? (env'.text? "mesh_cert")).map String.utf8ByteSize
  inDirectory : ∀ directory, Text.nonBlank? (env.text? "cert_dir") = some directory →
    ∀ name ∈ [caFile, certFile], ∀ bytes bytes', files (pathIn directory name) = .ok bytes →
      files' (pathIn directory name) = .ok bytes' → bytes.length = bytes'.length

lemma LoadedAlike.summaries {env env' : Environment} {s s' : Settings}
    {loaded loaded' : Option Bundle × List Event} (la : LoadedAlike s s' files files' loaded loaded')
    (ca : env.text? "mesh_ca" = s.meshCa) (ca' : env'.text? "mesh_ca" = s'.meshCa)
    (cert : env.text? "mesh_cert" = s.meshCert) (cert' : env'.text? "mesh_cert" = s'.meshCert)
    (dir : env.text? "cert_dir" = s.certDir) (sizes : SameSizes env env' files files') :
    loaded.1.map Bundle.summary = loaded'.1.map Bundle.summary := by
  cases la with
  | inline ca_eq ca_eq' cert_eq cert_eq' =>
    have size := sizes.ca
    rw [ca, ca', ca_eq, ca_eq', Option.map_some, Option.map_some, Option.some.injEq, ← length_bytesOf,
      ← length_bytesOf] at size
    have size' := sizes.cert
    rw [cert, cert', cert_eq, cert_eq', Option.map_some, Option.map_some, Option.some.injEq,
      ← length_bytesOf, ← length_bytesOf] at size'
    exact congrArg some (Bundle.summary_eq size size')
  | nowhere => rfl
  | searched named sourced =>
    cases sourced with
    | found ca_ok ca_ok' cert_ok cert_ok' =>
      rw [Settings.certDir?, ← dir] at named
      have size := sizes.inDirectory _ named caFile (by simp) _ _ ca_ok ca_ok'
      have size' := sizes.inDirectory _ named certFile (by simp) _ _ cert_ok cert_ok'
      exact congrArg some (Bundle.summary_eq size size')
    | missing => rfl

/-! ## What is shown -/

/-- Nothing that is shown tells two readings of settings apart: they are refused for the same fault, or summaries and
records are the same. -/
inductive Indistinct (env env' : Environment) (files files' : Files) :
    Except SettingsFault Settings → Except SettingsFault Settings → Prop where
  | refused {fault : SettingsFault} :
    Indistinct env env' files files' (.error fault) (.error fault)
  | read {s s' : Settings} :
    s.summary = s'.summary →
    (load files s).2.map Event.record = (load files' s').2.map Event.record →
    (SameSizes env env' files files' →
      (load files s).1.map Bundle.summary = (load files' s').1.map Bundle.summary) →
    Indistinct env env' files files' (.ok s) (.ok s')

/-- Certificate material is never shown: neither what it is nor, in the case of the key, how long it is. -/
theorem nothing_shown {env env' : Environment} (vl : Veiled env env') {files files' : Files}
    (same : ∀ directory, Text.nonBlank? (env.text? "cert_dir") = some directory →
      SameReadable directory files files') :
    Indistinct env env' files files' (Settings.ofEnvironment env) (Settings.ofEnvironment env') := by
  rw [Settings.ofEnvironment, Settings.ofEnvironment, Settings.readAll_eq vl]
  cases read : Settings.readAll env with
  | error fault => exact .refused
  | ok s =>
    have sp := Settings.spelled_of_readAll read
    have sb := Settings.sameBlank_of_veiled vl sp
    have checks : (Settings.veil env' s).violation? = s.violation? := Settings.violation?_withMaterial sb
    have dir := Settings.text?_of_rawText sp.certDir
    rw [dir] at same
    -- Both pass the same checks, so one is refused only if the other is.
    have la := loadedAlike_load sb same
    simp only [bind, Except.bind, Functor.map, Except.map, checks]
    cases s.violation? with
    | some fault => exact .refused
    | none =>
      refine .read (Settings.summary_withMaterial sb).symm la.records ?_
      exact la.summaries (Settings.text?_of_rawText sp.meshCa) rfl (Settings.text?_of_rawText sp.meshCert)
        rfl dir

/-- An environment that gives a bundle inline. -/
def inlineOf (ca cert key : String) : Environment :=
  [("MESH_CA", ca), ("MESH_CERT", cert), ("MESH_KEY", key)]

/-- A host without any files. -/
def noFiles : Files := fun _ => .error (.system 2)

/-- Two bundles of other texts and with keys of other lengths look the same. -/
theorem nothing_shown_of_inline :
    (Settings.ofEnvironment (inlineOf "ca" "cert" "key")).isOk = true ∧
      SameSizes (inlineOf "ca" "cert" "key") (inlineOf "CA" "CERT" "a longer key") noFiles noFiles ∧
      Indistinct (inlineOf "ca" "cert" "key") (inlineOf "CA" "CERT" "a longer key") noFiles noFiles
        (Settings.ofEnvironment (inlineOf "ca" "cert" "key"))
        (Settings.ofEnvironment (inlineOf "CA" "CERT" "a longer key")) := by
  have vl : Veiled (inlineOf "ca" "cert" "key") (inlineOf "CA" "CERT" "a longer key") := by
    refine ⟨.cons ⟨rfl, ?_⟩ (.cons ⟨rfl, ?_⟩ (.cons ⟨rfl, ?_⟩ .nil)), by decide +kernel⟩
    · exact absurd (by decide +kernel)
    · exact absurd (by decide +kernel)
    · exact absurd (by decide +kernel)
  refine ⟨by decide +kernel, ⟨by decide +kernel, by decide +kernel, ?_⟩, ?_⟩
  · intro directory _ name _ bytes bytes' none
    cases none
  · exact nothing_shown vl (fun _ _ _ _ => rfl)

end Identity

end MeshProxy
