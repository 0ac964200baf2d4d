import MeshProxy.Pki.Base64
import MeshProxy.Text.Quoted

/-!
# PEM

A PEM text holds sections between a line that begins them and a line that ends them, each with a label that
says what the base64 text between the two lines is. Everything outside sections is ignored, and so are
sections with an unknown label. A second beginning inside a section changes its label and keeps what has been
collected. Reading stops at the first fault; the sections before it have been read.
-/

namespace MeshProxy.Pki

/-- What a section holds. -/
inductive SectionKind where
  | certificate
  | publicKey
  | rsaPrivateKey
  | privateKey
  | ecPrivateKey
  | revocationList
  | certificateRequest
  | echConfigs
deriving DecidableEq, Repr

namespace SectionKind

def label : SectionKind → String
  | .certificate => "CERTIFICATE"
  | .publicKey => "PUBLIC KEY"
  | .rsaPrivateKey => "RSA PRIVATE KEY"
  | .privateKey => "PRIVATE KEY"
  | .ecPrivateKey => "EC PRIVATE KEY"
  | .revocationList => "X509 CRL"
  | .certificateRequest => "CERTIFICATE REQUEST"
  | .echConfigs => "ECHCONFIG"

def all : List SectionKind :=
  [.certificate, .publicKey, .rsaPrivateKey, .privateKey, .ecPrivateKey, .revocationList,
    .certificateRequest, .echConfigs]

/-- The kind that a label names. -/
def ofLabel? (label : Bytes) : Option SectionKind :=
  all.find? fun kind => bytesOf kind.label == label

end SectionKind

/-- A section with its decoded content. -/
structure Section where
  kind : SectionKind
  content : Bytes
deriving DecidableEq, Repr

/-- Why a PEM text cannot be read. -/
inductive PemFault where
  /-- A beginning that does not end in five hyphens. -/
  | illegalStart (line : Bytes)
  /-- A section that the text ends in. -/
  | missingEnd (label : Bytes)
  | badContent (fault : Base64Fault)
deriving DecidableEq, Repr

def PemFault.message : PemFault → String
  | .illegalStart line => "illegal section start: " ++ Text.quote (Text.ofUtf8Lossy line)
  | .missingEnd label => "section end " ++ Text.quote (Text.ofUtf8Lossy label) ++ " missing"
  | .badContent fault => fault.message

/-- What has been read of a PEM text, and the fault that reading stopped at. -/
structure Pem where
  sections : List Section := []
  fault? : Option PemFault := none
deriving DecidableEq, Repr

namespace Pem

def isLineEnd (byte : UInt8) : Bool := byte == 0x0A || byte == 0x0D

/-- The lines of a text. Each is ended by a line feed or a carriage return, which it includes. -/
def lines : Bytes → List Bytes
  | [] => []
  | byte :: rest =>
    if isLineEnd byte then [byte] :: lines rest
    else
      match lines rest with
      | [] => [[byte]]
      | line :: more => (byte :: line) :: more

def dashes : Bytes := bytesOf "-----"
def beginMark : Bytes := bytesOf "-----BEGIN "
def endMark : Bytes := bytesOf "-----END "

/-- A byte that may stand among the hyphens at the end of a beginning. -/
def isTrailer (byte : UInt8) : Bool := isLineEnd byte || byte == 0x20 || byte == 0x2D

/-- The label of a line that begins a section; the line must end in exactly five hyphens, blanks not
counted. -/
def beginLabel? (line : Bytes) : Option Bytes :=
  let trailer := (line.reverse.takeWhile isTrailer).reverse
  let hyphens := trailer.dropWhile (· != 0x2D)
  if hyphens.count 0x2D = 5 then
    some ((line.take (line.length - hyphens.length)).drop beginMark.length)
  else none

/-- Whether a line ends a section with this label. -/
def isEnd (label line : Bytes) : Bool := (endMark ++ label ++ dashes).isPrefixOf line

/-- Reads on from inside a section with a label, or outside any, with the lines collected so far, last
one first. -/
def scan (opened : Option Bytes) (collected : List Bytes) : List Bytes → Pem
  | [] =>
    match opened with
    | none => {}
    | some label => { fault? := some (.missingEnd label) }
  | line :: more =>
    if beginMark.isPrefixOf line then
      match beginLabel? line with
      | none => { fault? := some (.illegalStart line) }
      | some label => scan (some label) collected more
    else
      match opened with
      | none => scan none collected more
      | some label =>
        if isEnd label line then
          match SectionKind.ofLabel? label with
          | none => scan none [] more
          | some kind =>
            match Base64.decode collected.reverse.flatten with
            | .error fault => { fault? := some (.badContent fault) }
            | .ok content =>
              let rest := scan none [] more
              { rest with sections := ⟨kind, content⟩ :: rest.sections }
        else scan opened (line :: collected) more

/-- Reads a PEM text. -/
def read (bytes : Bytes) : Pem := scan none [] (lines bytes)

/-- The certificates of a text that has no fault anywhere. -/
def certificates (pem : Pem) : Except PemFault (List Bytes) :=
  match pem.fault? with
  | some fault => .error fault
  | none =>
    .ok ((pem.sections.filter fun s => s.kind == .certificate).map (·.content))

/-- Whether a section holds a private key. -/
def holdsKey (s : Section) : Bool :=
  s.kind == .rsaPrivateKey || s.kind == .privateKey || s.kind == .ecPrivateKey

/-- The first private key of a text; faults behind it do not matter. -/
def firstKey? (pem : Pem) : Except PemFault (Option Section) :=
  match pem.sections.find? holdsKey, pem.fault? with
  | some s, _ => .ok (some s)
  | none, some fault => .error fault
  | none, none => .ok none

end Pem

end MeshProxy.Pki
