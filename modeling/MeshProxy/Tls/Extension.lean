import MeshProxy.Tls.Wire

/-!
# Extensions of hello messages

A hello message ends in extensions, each a type and a body. A kind of message knows some types, each with a form
its body must have; what it does with the others differs. No type may occur twice.
-/

namespace MeshProxy.Tls

open Reader

/-- An extension whose body has the form its type asks for. -/
structure Extension where
  type : Nat
  body : Bytes
deriving DecidableEq, Repr

namespace Extension

def serverName : Nat := 0x00
def statusRequest : Nat := 0x05
def groups : Nat := 0x0A
def pointFormats : Nat := 0x0B
def signatureSchemes : Nat := 0x0D
def protocols : Nat := 0x10
def clientCertificateTypes : Nat := 0x13
def serverCertificateTypes : Nat := 0x14
def extendedMasterSecret : Nat := 0x17
def certificateCompressions : Nat := 0x1B
def sessionTicket : Nat := 0x23
def resumption : Nat := 0x29
def earlyData : Nat := 0x2A
def versions : Nat := 0x2B
def cookie : Nat := 0x2C
def resumptionModes : Nat := 0x2D
def authorities : Nat := 0x2F
def keyShares : Nat := 0x33
def transport : Nat := 0x39
def outerExtensions : Nat := 0xFD00
def encryptedHello : Nat := 0xFE0D
def renegotiation : Nat := 0xFF01

/-- What the extensions of a kind of message may be. -/
structure Rules where
  /-- The name for bytes behind a body. -/
  name : String
  /-- The known types with the forms of their bodies. -/
  known : List (Nat × Reader Unit)
  /-- The fault of a type that is not known, if that is one. -/
  refusal? : Option MessageFault
  /-- The type that nothing may follow. -/
  last? : Option Nat

/-- One extension behind others. -/
def read (rules : Rules) (earlier : List Extension) : Reader Extension := do
  let type ← number 2 "ExtensionType"
  let body ← counted short
  let isRepeated := earlier.any (·.type == type)
  match rules.known.lookup type, rules.refusal? with
  | some form, _ =>
    if isRepeated then throw (.duplicateExtension type)
    within body (form *> finish rules.name)
  | none, some fault => throw fault
  | none, none => if isRepeated then throw (.duplicateExtension type)
  return ⟨type, body⟩

/-- Extensions until nothing is left, at most `fuel` of them, behind `earlier` ones, last first. -/
def readMany (rules : Rules) (earlier : List Extension) : Nat → Reader (List Extension)
  | 0 => return earlier.reverse
  | fuel + 1 => do
    if (← get).isEmpty then return earlier.reverse
    let extension ← read rules earlier
    if rules.last? = some extension.type ∧ !(← get).isEmpty then
      throw .preSharedKeyIsNotFinalExtension
    readMany rules (extension :: earlier) fuel

/-- All extensions of a message, behind the number of their bytes. -/
def readAll (rules : Rules) : Reader (List Extension) := do
  let part ← counted short
  within part (readMany rules [] part.length)

/-- The body of the extension of a type. -/
def body? (type : Nat) (extensions : List Extension) : Option Bytes :=
  (extensions.find? (·.type == type)).map (·.body)

/-- What the extension of a type says. -/
def value? (type : Nat) (form : Reader α) (extensions : List Extension) : Option α :=
  match (body? type extensions).map form.run with
  | some (.ok (value, _)) => some value
  | _ => none

/-! ## The forms of bodies -/

/-- A form without content. -/
def nothing : Reader Unit := pure ()

/-- Bytes behind their number, of which there must be one. -/
def filled (count : Reader Nat) : Reader Bytes := counted (positive count .illegalEmptyValue)

/-- A list that must not be empty. -/
def several (count : Reader Nat) (what : String) (read : Reader α) : Reader (List α) :=
  list (positive count (.illegalEmptyList what)) read

/-- Whom a client wants to reach. -/
inductive Wanted where
  | host
  | address
  | nobody
deriving DecidableEq, Repr

/-- Goes through the names that a client wants to reach, at most `fuel` of them. Of host names there may be one;
names of another kind end the list. -/
def wantedFrom (found : Option Wanted) : Nat → Reader (Option Wanted)
  | 0 => return found
  | fuel + 1 => do
    if (← get).isEmpty then return found
    if (← number 1 "ServerNameType") ≠ 0 then return found
    let name ← filled short
    if found.isSome then throw .invalidServerName
    let wanted :=
      match (Text.ofUtf8? name).bind ServerName.ofText? with
      | some (.dns _) => .host
      | some (.ip _) => .address
      | none => .nobody
    wantedFrom (some wanted) fuel

def wantedForm : Reader Wanted := do
  let part ← counted short
  return (← within part (wantedFrom none part.length)).getD .nobody

def groupsForm : Reader (List Nat) := several short "NamedGroups" (number 2 "NamedGroup")

def pointFormatsForm : Reader (List Nat) := several byte "ECPointFormats" (number 1 "ECPointFormat")

def schemesForm : Reader (List Nat) :=
  list (positive short .noSignatureSchemes) (number 2 "SignatureScheme")

def versionsForm : Reader (List Nat) := several byte "ProtocolVersions" (number 2 "ProtocolVersion")

def certificateCompressionsForm : Reader (List Nat) :=
  several byte "CertificateCompressionAlgorithms" (number 2 "CertificateCompressionAlgorithm")

def certificateTypesForm : Reader (List Nat) :=
  several byte "CertificateTypes" (number 1 "CertificateType")

def authoritiesForm : Reader (List Bytes) := list short (filled short)

/-- A group and a share of a key in it. -/
def keyShareForm : Reader (Nat × Bytes) := do
  let group ← number 2 "NamedGroup"
  return (group, ← filled short)

def keySharesForm : Reader (List (Nat × Bytes)) := list short keyShareForm

/-- The numbers of sessions that are to be resumed and of the proofs beside them. -/
def resumptionForm : Reader (Nat × Nat) := do
  let sessions ← several short "PskIdentities" (filled short *> long)
  let proofs ← several short "PskBinders" (filled byte)
  return (sessions.length, proofs.length)

def statusRequestForm : Reader Unit := do
  if (← number 1 "CertificateStatusType") = 1 then
    discard (list short (counted short) *> counted short)
  else discard rest

def encryptedHelloForm : Reader Unit := do
  match ← number 1 "EchClientHelloType" with
  | 0 =>
    discard (number 2 "HpkeKdf" *> number 2 "HpkeAead" *> byte *> counted short *> counted short)
  | 1 => return ()
  | _ => throw .invalidContentType

/-- The one protocol that a server has chosen. -/
def chosenProtocolForm : Reader Unit := do
  let part ← counted (positive short (.illegalEmptyList "ProtocolNames"))
  within part (filled byte *> finish "SingleProtocolName")

/-! ## The rules of messages -/

/-- The extensions of a client's hello. -/
def ofClient : Rules where
  name := "ClientExtensions"
  known := [
    (serverName, discard wantedForm),
    (statusRequest, statusRequestForm),
    (groups, discard groupsForm),
    (pointFormats, discard pointFormatsForm),
    (signatureSchemes, discard schemesForm),
    (protocols, discard (several short "ProtocolNames" (filled byte))),
    (clientCertificateTypes, discard certificateTypesForm),
    (serverCertificateTypes, discard certificateTypesForm),
    (extendedMasterSecret, nothing),
    (certificateCompressions, discard certificateCompressionsForm),
    (sessionTicket, discard rest),
    (resumption, discard resumptionForm),
    (earlyData, nothing),
    (versions, discard versionsForm),
    (cookie, discard (filled short)),
    (resumptionModes,
      discard (several byte "PskKeyExchangeModes" (number 1 "PskKeyExchangeMode"))),
    (authorities, discard authoritiesForm),
    (keyShares, discard keySharesForm),
    (transport, discard rest),
    (outerExtensions, discard (several byte "ExtensionTypes" (number 2 "ExtensionType"))),
    (encryptedHello, encryptedHelloForm),
    (renegotiation, discard (counted byte))]
  refusal? := none
  last? := some resumption

/-- The extensions of a server's hello. -/
def ofServer : Rules where
  name := "ServerExtensions"
  known := [
    (serverName, nothing),
    (statusRequest, nothing),
    (pointFormats, discard pointFormatsForm),
    (protocols, chosenProtocolForm),
    (clientCertificateTypes, discard (number 1 "CertificateType")),
    (serverCertificateTypes, discard (number 1 "CertificateType")),
    (extendedMasterSecret, nothing),
    (sessionTicket, nothing),
    (resumption, discard short),
    (earlyData, nothing),
    (versions, discard (number 2 "ProtocolVersion")),
    (keyShares, discard keyShareForm),
    (transport, discard rest),
    (encryptedHello, discard (counted short)),
    (renegotiation, discard (counted byte))]
  refusal? := none
  last? := none

/-- The extensions of a server's request to greet once more. -/
def ofRetryRequest : Rules where
  name := "HelloRetryRequestExtensions"
  known := [
    (keyShares, discard (number 2 "NamedGroup")),
    (cookie, discard (filled short)),
    (versions, discard (number 2 "ProtocolVersion")),
    (encryptedHello, discard rest)]
  refusal? := some .unknownRetryExtension
  last? := none

/-- The extensions of a server's request for a certificate. -/
def ofCertificateRequest : Rules where
  name := "CertificateRequestExtensions"
  known := [
    (signatureSchemes, discard schemesForm),
    (authorities, discard authoritiesForm),
    (certificateCompressions, discard certificateCompressionsForm)]
  refusal? := none
  last? := none

/-- What is known of a certificate's revocation. -/
def statusForm : Reader Unit := do
  if (← number 1 "CertificateStatusType") = 1 then discard (counted medium)
  else throw .invalidCertificateStatusType

/-- The extensions of a certificate in a message. -/
def ofCertificate : Rules where
  name := "CertificateExtensions"
  known := [(statusRequest, statusForm)]
  refusal? := some .unknownCertificateExtension
  last? := none

/-- The extensions of a ticket for a later session. -/
def ofTicket : Rules where
  name := "NewSessionTicketExtensions"
  known := [(earlyData, discard long)]
  refusal? := none
  last? := none

end Extension

end MeshProxy.Tls
