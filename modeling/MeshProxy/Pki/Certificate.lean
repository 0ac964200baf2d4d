import MeshProxy.Pki.Der
import MeshProxy.Tls.ServerName

/-!
# Certificates

A certificate of the third version, as far as trust and names are concerned: whom it is for, the public key it
certifies, and the names it lists. Who issued it is judged in a handshake, where its signature is checked. An
authority may also come as a certificate of the first version, and only a certificate that is not an authority's may
not have critical extensions that mean nothing here.
-/

namespace MeshProxy.Pki

/-- What is wrong with a certificate itself. -/
inductive Defect where
  | badEncoding
  | unsupportedVersion
  | algorithmMismatch
  | unsupportedCriticalExtension
  | repeatedExtension
deriving DecidableEq, Repr

/-- A defect of the encoding has a text of its own; the others are named by their kind. -/
def Defect.message : Defect → String
  | .badEncoding => "BadEncoding"
  | .unsupportedVersion => "Other(OtherError(UnsupportedCertVersion))"
  | .algorithmMismatch => "Other(OtherError(SignatureAlgorithmMismatch))"
  | .unsupportedCriticalExtension => "Other(OtherError(UnsupportedCriticalExtension))"
  | .repeatedExtension => "Other(OtherError(ExtensionValueInvalid))"

structure Certificate where
  /-- The content of the subject's distinguished name. -/
  subject : Bytes
  /-- The content of the public-key information. -/
  keyInfo : Bytes
  names : List Tls.SubjectName
deriving DecidableEq, Repr

/-- Takes values off the front of the bytes of a certificate. -/
abbrev CertificateReader := StateT Bytes (Except Defect)

namespace CertificateReader

/-- The length from which on the content of an element is too long. -/
def limit : Nat := 0xFFFF

/-- The content of an element with this tag. Long elements are refused. -/
def element (tag : Der.Tag) (defect : Defect := .badEncoding) : CertificateReader Bytes := do
  match Der.take? tag (← get) with
  | some (content, rest) =>
    if content.length < limit then
      set rest
      return content
    else throw defect
  | none => throw defect

/-- Requires that nothing is left. -/
def finish (defect : Defect := .badEncoding) : CertificateReader Unit := do
  if !(← get).isEmpty then throw defect

/-- Reads all of an element's content. -/
def inside (tag : Der.Tag) (read : CertificateReader α) (defect : Defect := .badEncoding) :
    CertificateReader α := do
  let content ← element tag defect
  match (do let value ← read; finish defect; return value : CertificateReader α).run content with
  | .ok (value, _) => return value
  | .error defect => throw defect

/-- The bytes of a bit string that leaves no bit over. -/
def wholeBits : CertificateReader Bytes := do
  match Der.wholeBits? (← element Der.Tag.bitString) with
  | some bytes => return bytes
  | none => throw .badEncoding

/-- Reads one value after another until nothing is left, at most `fuel` of them. -/
def many (read : CertificateReader α) : Nat → CertificateReader (List α)
  | 0 => return []
  | fuel + 1 => do
    if (← get).isEmpty then return []
    return (← read) :: (← many read fuel)

end CertificateReader

/-- An extension of a certificate. -/
structure Extension where
  objectId : Bytes
  critical : Bool
  value : Bytes
deriving DecidableEq, Repr

namespace Extension

open CertificateReader

/-- The flag that marks an extension as critical, which may be missing. -/
def readCritical : CertificateReader Bool := do
  if Der.startsWith Der.Tag.boolean (← get) then
    match ← element Der.Tag.boolean with
    | [0x00] => return false
    | [0xFF] => return true
    | _ => throw .badEncoding
  else return false

/-- The identifiers of the extensions that mean something: the uses of the key, the names, the constraints,
where revocations are published, and the purposes. -/
def keyUsage : Bytes := [0x55, 0x1D, 0x0F]
def subjectNames : Bytes := [0x55, 0x1D, 0x11]
def basicConstraints : Bytes := [0x55, 0x1D, 0x13]
def nameConstraints : Bytes := [0x55, 0x1D, 0x1E]
def revocationPoints : Bytes := [0x55, 0x1D, 0x1F]
def purposes : Bytes := [0x55, 0x1D, 0x25]

def known : List Bytes :=
  [keyUsage, subjectNames, basicConstraints, nameConstraints, revocationPoints, purposes]

/-- Whether the value has the form that its extension requires: a sequence, or for the uses of the key
anything. -/
def isWellFormed (e : Extension) : Bool :=
  e.objectId == keyUsage ||
    ((element Der.Tag.sequence *> finish).run e.value matches .ok _)

/-- What is wrong with an extension behind others. Those that mean nothing are passed over, unless they
are critical and `strict`. -/
def defect? (strict : Bool) (earlier : List Extension) (e : Extension) : Option Defect :=
  if known.contains e.objectId then
    if earlier.any (·.objectId == e.objectId) then some .repeatedExtension
    else if e.isWellFormed then none
    else some .badEncoding
  else if strict ∧ e.critical then some .unsupportedCriticalExtension
  else none

/-- One extension behind others. -/
def read (strict : Bool) (earlier : List Extension) : CertificateReader Extension :=
  inside Der.Tag.sequence do
    let objectId ← element Der.Tag.objectId
    let critical ← readCritical
    let e : Extension := ⟨objectId, critical, ← element Der.Tag.octetString⟩
    match defect? strict earlier e with
    | some defect => throw defect
    | none => return e

/-- Extensions until nothing is left, at most `fuel` of them, behind `earlier` ones, last first. -/
def readMany (strict : Bool) (earlier : List Extension) : Nat → CertificateReader (List Extension)
  | 0 => return earlier.reverse
  | fuel + 1 => do
    if (← get).isEmpty then return earlier.reverse
    readMany strict ((← read strict earlier) :: earlier) fuel

/-- The extensions at the end of a certificate's content; there may be none. -/
def readAll (strict : Bool) : CertificateReader (List Extension) := do
  if (← get).isEmpty then return []
  inside (Der.Tag.context 3) (inside Der.Tag.sequence do
    readMany strict [] (← get).length)

end Extension

/-- The address in four or sixteen bytes. -/
def addressOfBytes? : Bytes → Option Ip
  | [a, b, c, d] => some (.v4 ⟨a, b, c, d⟩)
  | bytes => if bytes.length = 16 then (Ipv6.ofGroups? (pairs bytes)).map .v6 else none
where
  /-- The groups of two bytes each. -/
  pairs : Bytes → List UInt16
    | high :: low :: rest => bigEndian high low :: pairs rest
    | _ => []

/-- A listed name, if it is a DNS name or an address. -/
def listedName? (e : Der.Element) : Option Tls.SubjectName :=
  if e.tag = Der.Tag.contextPrimitive 2 then (Text.ofUtf8? e.content).map .dns
  else if e.tag = Der.Tag.contextPrimitive 7 then (addressOfBytes? e.content).map .ip
  else none

/-- The names in the extensions, as far as their list can be read. -/
def namesIn (extensions : List Extension) : List Tls.SubjectName :=
  match extensions.find? (·.objectId == Extension.subjectNames) with
  | none => []
  | some e =>
    match Der.only? Der.Tag.sequence e.value with
    | none => []
    | some list => (Der.elements list).filterMap listedName?

namespace Certificate

open CertificateReader

/-- The version field, which must be there and name the third version. -/
def readVersion : CertificateReader Unit :=
  inside (Der.Tag.context 0) (do
    match (Der.natural? (← element Der.Tag.integer)) with
    | some 2 => return ()
    | some n => throw (if n < 0x100 then .unsupportedVersion else .badEncoding)
    | none => throw .badEncoding) .unsupportedVersion

/-- What is signed in a certificate whose signature has this algorithm. -/
def readSigned (strict : Bool) (algorithm : Bytes) : CertificateReader Certificate := do
  readVersion
  let _ ← element Der.Tag.integer
  if (← element Der.Tag.sequence) ≠ algorithm then throw .algorithmMismatch
  let _ ← element Der.Tag.sequence
  let _ ← element Der.Tag.sequence
  let subject ← element Der.Tag.sequence
  let keyInfo ← element Der.Tag.sequence
  return ⟨subject, keyInfo, namesIn (← Extension.readAll strict)⟩

/-- The outer parts of a certificate: what is signed, and the algorithm of the signature. -/
def readParts : CertificateReader (Bytes × Bytes) :=
  inside Der.Tag.sequence do
    let signed ← element Der.Tag.sequence
    let algorithm ← element Der.Tag.sequence
    let _ ← wholeBits
    return (signed, algorithm)

/-- Reads all of some bytes. -/
def readWhole (read : CertificateReader α) (bytes : Bytes) : Except Defect α :=
  ((do let value ← read; finish; return value : CertificateReader α).run bytes).map (·.1)

/-- The certificate that the bytes are, or what is wrong with it. -/
def ofDer (strict : Bool) (der : Bytes) : Except Defect Certificate := do
  let (signed, algorithm) ← readWhole readParts der
  readWhole (readSigned strict algorithm) signed

/-- A certificate of the first version, which names no version and has no extensions. -/
def readFirstVersion : CertificateReader Certificate :=
  inside Der.Tag.sequence do
    let certificate : Certificate ← inside Der.Tag.sequence do
      let _ ← element Der.Tag.integer
      let _ ← element Der.Tag.sequence
      let _ ← element Der.Tag.sequence
      let _ ← element Der.Tag.sequence
      let subject ← element Der.Tag.sequence
      return ⟨subject, ← element Der.Tag.sequence, []⟩
    let _ ← element Der.Tag.sequence
    let _ ← element Der.Tag.bitString
    return certificate

/-- The certificate of an authority that is trusted. -/
def authorityOfDer (der : Bytes) : Except Defect Certificate :=
  match ofDer false der with
  | .error .unsupportedVersion =>
    match readWhole readFirstVersion der with
    | .ok certificate => .ok certificate
    | .error _ => .error .badEncoding
  | result => result

end Certificate

end MeshProxy.Pki
