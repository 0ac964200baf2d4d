import MeshProxy.Identity.Source
import MeshProxy.Proofs.Settings.Reading
import MeshProxy.Proofs.Text.Blank

/-!
# Which certificates are found, and what is reported

A search for the bundle is told without the order in which sources are looked at (`Identity.Found`): the inline values
if they are given, the three files of the directory if it is named and nothing is given inline, and otherwise nothing.
What is reported follows from it. Settings that pass their checks give all of the inline values or none, so no bundle is
made of two sources, and no part of one keeps the other from being looked at (`Identity.search_spec`).
-/

namespace MeshProxy

namespace Settings

open Text (Gives Blank)

variable {s : Settings}

/-- No certificate material is given inline. -/
structure NoInline (s : Settings) : Prop where
  ca : Blank s.meshCa
  cert : Blank s.meshCert
  key : Blank s.meshKey

/-- Authority, certificate and key are given inline. -/
structure Inline (s : Settings) (ca cert key : String) : Prop where
  ca : Gives s.meshCa ca
  cert : Gives s.meshCert cert
  key : Gives s.meshKey key

/-- Usable settings give all of the inline values, or none. -/
lemma Usable.inline_or (us : Usable s) : NoInline s ∨ ∃ ca cert key, Inline s ca cert key := by
  have count := us.inline
  rw [inlineCount] at count
  cases ca : Text.nonBlank? s.meshCa <;> cases cert : Text.nonBlank? s.meshCert <;>
    cases key : Text.nonBlank? s.meshKey <;> simp [ca, cert, key] at count
  case none.none.none =>
    exact .inl ⟨Text.nonBlank?_eq_none_iff.mp ca, Text.nonBlank?_eq_none_iff.mp cert,
      Text.nonBlank?_eq_none_iff.mp key⟩
  case some.some.some =>
    exact .inr ⟨_, _, _, Text.nonBlank?_eq_some_iff.mp ca, Text.nonBlank?_eq_some_iff.mp cert,
      Text.nonBlank?_eq_some_iff.mp key⟩

lemma Inline.inlineCertificates? {ca cert key : String} (inl : Inline s ca cert key) :
    s.inlineCertificates? = some (ca, cert, key) := by
  rw [Settings.inlineCertificates?, Text.nonBlank?_eq_some_iff.mpr inl.ca, Text.nonBlank?_eq_some_iff.mpr inl.cert,
    Text.nonBlank?_eq_some_iff.mpr inl.key]

lemma NoInline.inlineCertificates? (no : NoInline s) : s.inlineCertificates? = none := by
  rw [Settings.inlineCertificates?, Text.nonBlank?_eq_none_iff.mpr no.ca]

lemma NoInline.not_gives (no : NoInline s) {setting : Option String}
    (mem : setting ∈ [s.meshCa, s.meshCert, s.meshKey]) {value : String} : ¬ Gives setting value := by
  simp only [List.mem_cons, List.not_mem_nil, or_false] at mem
  obtain rfl | rfl | rfl := mem
  · exact no.ca.not_gives
  · exact no.cert.not_gives
  · exact no.key.not_gives

end Settings

namespace Identity

open Settings (NoInline Inline)
open Text (Gives Blank)

/-- The directory `directory` is consulted: it is named, and nothing is given inline. -/
structure Consulted (s : Settings) (directory : String) : Prop where
  no_inline : NoInline s
  named : Gives s.certDir directory

/-- All files of a bundle can be read in a directory. -/
structure Complete (files : Files) (directory : String) (bundle : Bundle) : Prop where
  ca : files (pathIn directory caFile) = .ok bundle.ca
  cert : files (pathIn directory certFile) = .ok bundle.cert
  key : files (pathIn directory keyFile) = .ok bundle.key

/-- The first file of a bundle that cannot be read in a directory. -/
inductive FirstUnreadable (files : Files) (directory : String) : Unreadable → Prop where
  | ca {cause : IoFault} :
    files (pathIn directory caFile) = .error cause →
    FirstUnreadable files directory ⟨pathIn directory caFile, cause⟩
  | cert {ca : Bytes} {cause : IoFault} :
    files (pathIn directory caFile) = .ok ca →
    files (pathIn directory certFile) = .error cause →
    FirstUnreadable files directory ⟨pathIn directory certFile, cause⟩
  | key {ca cert : Bytes} {cause : IoFault} :
    files (pathIn directory caFile) = .ok ca →
    files (pathIn directory certFile) = .ok cert →
    files (pathIn directory keyFile) = .error cause →
    FirstUnreadable files directory ⟨pathIn directory keyFile, cause⟩

/-- What a search for the bundle comes to. -/
inductive Found (files : Files) (s : Settings) : Option Bundle → List Event → Prop where
  | inline {ca cert key : String} :
    Inline s ca cert key →
    Found files s (some ⟨bytesOf ca, bytesOf cert, bytesOf key⟩) [.loadedInline]
  | directory {directory : String} {bundle : Bundle} :
    Consulted s directory →
    Complete files directory bundle →
    Found files s (some bundle) [.loadedFrom directory]
  | incomplete {directory : String} {file : Unreadable} :
    Consulted s directory →
    FirstUnreadable files directory file →
    Found files s none [.unreadable directory file, .disabled]
  | nowhere :
    NoInline s →
    Blank s.certDir →
    Found files s none [.disabled]

variable {files : Files} {directory : String} {s : Settings}

/-! ## One directory -/

lemma readFile_of_ok {name : String} {bytes : Bytes} (ok : files (pathIn directory name) = .ok bytes) :
    readFile files directory name = .ok bytes := by
  rw [readFile, ok]

lemma readFile_of_error {name : String} {cause : IoFault} (error : files (pathIn directory name) = .error cause) :
    readFile files directory name = .error ⟨pathIn directory name, cause⟩ := by
  rw [readFile, error]

lemma Complete.ofDirectory {bundle : Bundle} (cp : Complete files directory bundle) :
    ofDirectory files directory = .ok bundle := by
  rw [Identity.ofDirectory, readFile_of_ok cp.ca, readFile_of_ok cp.cert, readFile_of_ok cp.key]
  rfl

lemma FirstUnreadable.ofDirectory {file : Unreadable} (fu : FirstUnreadable files directory file) :
    ofDirectory files directory = .error file := by
  rw [Identity.ofDirectory]
  cases fu with
  | ca error =>
    rw [readFile_of_error error]
    rfl
  | cert ca error =>
    rw [readFile_of_ok ca, readFile_of_error error]
    rfl
  | key ca cert error =>
    rw [readFile_of_ok ca, readFile_of_ok cert, readFile_of_error error]
    rfl

/-- A directory has a whole bundle in it, or a first file that cannot be read. -/
lemma complete_or_firstUnreadable (files : Files) (directory : String) :
    (∃ bundle, Complete files directory bundle) ∨ ∃ file, FirstUnreadable files directory file := by
  cases ca : files (pathIn directory caFile) with
  | error cause => exact .inr ⟨_, .ca ca⟩
  | ok caBytes =>
    cases cert : files (pathIn directory certFile) with
    | error cause => exact .inr ⟨_, .cert ca cert⟩
    | ok certBytes =>
      cases key : files (pathIn directory keyFile) with
      | error cause => exact .inr ⟨_, .key ca cert key⟩
      | ok keyBytes => exact .inl ⟨⟨caBytes, certBytes, keyBytes⟩, ca, cert, key⟩

/-! ## The whole search -/

lemma Found.load {bundle : Option Bundle} {events : List Event} (fd : Found files s bundle events) :
    load files s = (bundle, events) := by
  cases fd with
  | inline inl => rw [Identity.load, inl.inlineCertificates?]
  | directory con complete =>
    rw [Identity.load, con.no_inline.inlineCertificates?, Settings.certDir?,
      Text.nonBlank?_eq_some_iff.mpr con.named]
    simp only [complete.ofDirectory]
  | incomplete con first =>
    rw [Identity.load, con.no_inline.inlineCertificates?, Settings.certDir?,
      Text.nonBlank?_eq_some_iff.mpr con.named]
    simp only [first.ofDirectory]
  | nowhere no blank =>
    rw [Identity.load, no.inlineCertificates?, Settings.certDir?, Text.nonBlank?_eq_none_iff.mpr blank]

lemma exists_found (us : Settings.Usable s) (files : Files) : ∃ bundle events, Found files s bundle events := by
  obtain no | ⟨ca, cert, key, inl⟩ := us.inline_or
  · cases dir : Text.nonBlank? s.certDir with
    | none => exact ⟨_, _, .nowhere no (Text.nonBlank?_eq_none_iff.mp dir)⟩
    | some directory =>
      have con : Consulted s directory := ⟨no, Text.nonBlank?_eq_some_iff.mp dir⟩
      obtain ⟨bundle, complete⟩ | ⟨file, first⟩ := complete_or_firstUnreadable files directory
      · exact ⟨_, _, .directory con complete⟩
      · exact ⟨_, _, .incomplete con first⟩
  · exact ⟨_, _, .inline inl⟩

lemma load_eq_iff (us : Settings.Usable s) {bundle : Option Bundle} {events : List Event} :
    load files s = (bundle, events) ↔ Found files s bundle events := by
  constructor
  · intro eq
    obtain ⟨bundle', events', fd⟩ := exists_found us files
    rw [fd.load, Prod.mk.injEq] at eq
    obtain ⟨rfl, rfl⟩ := eq
    exact fd
  · exact Found.load

/-- No file is read but those of the bundle in the directory. -/
lemma load_congr {other : Files} (same : ∀ path ∈ paths s, other path = files path) :
    load other s = load files s := by
  rw [load, load]
  cases inline : s.inlineCertificates? with
  | some values => rfl
  | none =>
    cases dir : s.certDir? with
    | none => rfl
    | some directory =>
      rw [paths, dir] at same
      have read : ∀ name ∈ [caFile, certFile, keyFile],
          readFile other directory name = readFile files directory name := by
        intro name mem
        rw [readFile, readFile, same _ (List.mem_map_of_mem mem)]
      have found : ofDirectory other directory = ofDirectory files directory := by
        rw [ofDirectory, ofDirectory, read caFile (by simp), read certFile (by simp), read keyFile (by simp)]
      simp only [found]

/-! ## What is reported -/

/-- The records of a search. -/
structure Reported (files : Files) (s : Settings) (bundle : Option Bundle) (records : List Log.Record) : Prop where
  /-- One record says in the end whether there is a bundle. -/
  loaded : records.countP (fun r => r.message = "mesh certificates loaded") = if bundle.isSome then 1 else 0
  disabled : records.countP (fun r => r.message = "no mesh certificates found; external TLS disabled") =
    if bundle.isSome then 0 else 1
  /-- A directory without a bundle is warned of, by the first file that is missing. -/
  warning : ∀ directory file, Consulted s directory → FirstUnreadable files directory file →
    records = [
      { level := .warn, target := "sidecar::certs", message := "unable to read mesh certificates"
        fields := [("dir", .text directory), ("error", .text ("failed to read " ++ file.path))] },
      { level := .info, target := "sidecar::certs", message := "no mesh certificates found; external TLS disabled" }]
  no_warning : (∀ directory file, Consulted s directory → ¬ FirstUnreadable files directory file) →
    ∀ r ∈ records, r.level ≠ .warn

lemma Found.reported {bundle : Option Bundle} {events : List Event} (fd : Found files s bundle events) :
    Reported files s bundle (events.map Event.record) where
  loaded := by cases fd <;> rfl
  disabled := by cases fd <;> rfl
  warning := by
    intro directory file con first
    -- Whatever else was found, it is this.
    have eq := (Found.incomplete con first).load
    rw [fd.load, Prod.mk.injEq] at eq
    rw [eq.2]
    rfl
  no_warning := by
    intro none r mem
    cases fd with
    | incomplete con first => exact absurd first (none _ _ con)
    | _ =>
      rw [List.map_singleton, List.mem_singleton] at mem
      subst mem
      nofun

/-- What a search for the bundle comes to, and what it looks at. -/
structure Search (files : Files) (s : Settings) : Prop where
  found_iff : ∀ bundle events, load files s = (bundle, events) ↔ Found files s bundle events
  /-- One inline value is enough for the directory to be passed over, and then all three are there. -/
  inline : ∀ setting ∈ [s.meshCa, s.meshCert, s.meshKey], ∀ value, Gives setting value →
    ∃ ca cert key, Inline s ca cert key ∧
      ∀ other, load other s = (some ⟨bytesOf ca, bytesOf cert, bytesOf key⟩, [.loadedInline])
  read : ∀ other : Files, (∀ path ∈ paths s, other path = files path) → load other s = load files s
  reported : Reported files s (load files s).1 ((load files s).2.map Event.record)

/-- Sources never mix and never hide each other: with settings that are usable, a search comes to what its sources give,
and reports it. -/
theorem search_spec (passed : s.violation? = none) (files : Files) : Search files s := by
  have us := Settings.violation?_eq_none_iff.mp passed
  exact {
    found_iff := fun _ _ => load_eq_iff us
    inline := by
      intro setting mem value gives
      obtain no | ⟨ca, cert, key, inl⟩ := us.inline_or
      · exact absurd gives (no.not_gives mem)
      · exact ⟨ca, cert, key, inl, fun _ => (Found.inline inl).load⟩
    read := fun _ => load_congr
    reported := by
      obtain ⟨bundle, events, fd⟩ := exists_found us files
      rw [fd.load]
      exact fd.reported }

/-- Settings with a padded directory and blanks in place of inline values. -/
def mounted : Settings where
  meshCa := some " "
  meshKey := some ""
  certDir := some " /etc/mesh/\t"

/-- A host that lacks the certificate and the key. -/
def caOnly : Files := fun path =>
  if path = "/etc/mesh/ca.crt" then .ok [0x2D] else .error (.system 2)

/-- The certificate is the first file that is missing, and the bundle is missing with it. -/
theorem search_spec_of_incomplete :
    Search caOnly mounted ∧
      load caOnly mounted =
        (none, [.unreadable "/etc/mesh/" ⟨"/etc/mesh/cert.crt", .system 2⟩, .disabled]) := by
  have passed : mounted.violation? = none := by decide +kernel
  have search := search_spec passed caOnly
  have no : NoInline mounted := by
    refine ⟨?_, nofun, ?_⟩
    · rintro _ ⟨⟩
      decide +kernel
    · rintro _ ⟨⟩
      decide +kernel
  have con : Consulted mounted "/etc/mesh/" := ⟨no, _, rfl, by decide +kernel, by decide⟩
  have ca : caOnly (pathIn "/etc/mesh/" caFile) = .ok [0x2D] := by decide +kernel
  have cert : caOnly (pathIn "/etc/mesh/" certFile) = .error (.system 2) := by decide +kernel
  have first : FirstUnreadable caOnly "/etc/mesh/" ⟨pathIn "/etc/mesh/" certFile, .system 2⟩ := .cert ca cert
  have path : pathIn "/etc/mesh/" certFile = "/etc/mesh/cert.crt" := by decide +kernel
  rw [path] at first
  exact ⟨search, (search.found_iff _ _).mpr (.incomplete con first)⟩

end Identity

end MeshProxy
