import MeshProxy.Identity.Bundle
import MeshProxy.Pki.Certificate
import MeshProxy.Pki.PrivateKey
import MeshProxy.Routing.Plan
import MeshProxy.Startup.Chain

/-!
# Making a TLS policy

A policy is made from a certificate bundle and perhaps a server name. The server name is looked at first, then
the listening and the connecting side are set up, each from the whole bundle: the sidecar's certificates, its
key, the authorities, and last whether the key can be used and belongs to the first certificate.
-/

namespace MeshProxy.Tls

/-- The server name that a setting asks for. -/
def serverNameOf (name : String) : Except Chain ServerName :=
  match ServerName.ofText? name with
  | some serverName => .ok serverName
  | none =>
    .error ⟨"invalid TLS_SERVER_NAME " ++ Text.quote name, [Fault.invalidServerName.message]⟩

/-- The policy with the server name that a setting asks for, if one does. -/
def Policy.expecting (policy : Policy) (name : Option String) : Except Chain Policy :=
  match name with
  | none => .ok policy
  | some name => (serverNameOf name).map fun serverName => { policy with serverName }

/-- The two uses of a bundle. -/
inductive Side where
  | listening
  | connecting
deriving DecidableEq, Repr

/-- What the configuration of a side is called in errors. -/
def Side.configuration : Side → String
  | .listening => "rustls ServerConfig"
  | .connecting => "rustls ClientConfig"

/-- Why a key cannot stand beside a certificate. -/
inductive PairFault where
  | unusableKey
  | badCertificate (defect : Pki.Defect)
  | mismatch
deriving DecidableEq, Repr

def PairFault.message : PairFault → String
  | .unusableKey =>
    "unexpected error: failed to parse private key as RSA, ECDSA, or EdDSA"
  | .badCertificate defect => (Fault.certificate (.defective defect)).message
  | .mismatch => "keys may not be consistent: KeyMismatch"

/-- The certificates in a PEM text, of which there must be one at least. -/
def certificatesIn (pem : Bytes) : Except Chain (Bytes × List Bytes) :=
  match (Pki.Pem.read pem).certificates with
  | .error fault => .error ⟨"malformed PEM certificate data", [fault.message]⟩
  | .ok [] => .error ⟨"no certificates found in PEM data", []⟩
  | .ok (first :: more) => .ok (first, more)

/-- The private key in a PEM text. -/
def keyIn (pem : Bytes) : Except Chain Pki.Section :=
  match (Pki.Pem.read pem).firstKey? with
  | .error fault => .error ⟨"failed to read TLS private key", [fault.message]⟩
  | .ok none => .error ⟨"no private key found in PEM data", []⟩
  | .ok (some key) => .ok key

/-- The authority that a trusted certificate stands for. -/
def authorityOf (der : Bytes) : Except Chain Authority :=
  match Pki.Certificate.authorityOfDer der with
  | .ok certificate => .ok ⟨certificate.subject, certificate.keyInfo⟩
  | .error defect =>
    .error ⟨"failed to add CA certificate", [(Fault.certificate (.defective defect)).message]⟩

/-- The authorities in a PEM text. -/
def authoritiesIn (pem : Bytes) : Except Chain (List Authority) :=
  match certificatesIn pem with
  | .error chain => .error (chain.within "failed to parse CA bundle")
  | .ok (first, more) => (first :: more).mapM authorityOf

/-- The kind of a key. -/
def KeyKind.of : Pki.PublicKey → KeyKind
  | .rsa _ _ => .rsa
  | .ec curve _ => if curve = .p384 then .p384 else .p256
  | .ed25519 _ => .ed25519

/-- The credential of a certificate that a key belongs to, with more certificates behind it. The key is looked
at first. -/
def pair (own : Bytes) (more : List Bytes) (key : Pki.Section) : Except PairFault Credential :=
  match Pki.PrivateKey.publicKey? key with
  | none => .error .unusableKey
  | some publicKey =>
    match Pki.Certificate.ofDer true own with
    | .error defect => .error (.badCertificate defect)
    | .ok certificate =>
      if certificate.keyInfo = publicKey.info then
        .ok ⟨own :: more, certificate.names, .of publicKey⟩
      else .error .mismatch

/-- What one side makes of a bundle: the authorities it trusts and its own credential. -/
def Side.ofBundle (side : Side) (bundle : Identity.Bundle) :
    Except Chain (List Authority × Credential) := do
  let (own, more) ←
    match certificatesIn bundle.cert with
    | .ok certificates => .ok certificates
    | .error chain => .error (chain.within "failed to parse leaf certificate")
  let key ← keyIn bundle.key
  let trusted ← authoritiesIn bundle.ca
  match pair own more key with
  | .ok credential => .ok (trusted, credential)
  | .error fault => .error ⟨"failed to build " ++ side.configuration, [fault.message]⟩

/-- The policy that a bundle and a setting of the server name make. -/
def Policy.ofBundle (bundle : Identity.Bundle) (name : Option String) : Except Chain Policy := do
  let serverName ← name.mapM serverNameOf
  let (trusted, credential) ← Side.listening.ofBundle bundle
  let _ ← Side.connecting.ofBundle bundle
  return { trusted, credential, serverName }

end MeshProxy.Tls
