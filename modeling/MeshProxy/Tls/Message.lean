import MeshProxy.Tls.Extension

/-!
# Handshake messages

A handshake message is a kind, a length, and a body of the form that the kind asks for. Of the greetings it
matters what they say; of the other messages only that they have their form.
-/

namespace MeshProxy.Tls

open Reader

/-- The greeting of a client. -/
structure ClientHello where
  version : Nat
  suites : List Nat
  compressions : List Nat
  extensions : List Extension
deriving DecidableEq, Repr

/-- The greeting of a server. -/
structure ServerHello where
  version : Nat
  random : Bytes
  suite : Nat
  compression : Nat
  extensions : List Extension
deriving DecidableEq, Repr

/-- What a handshake message says. -/
inductive Message where
  | clientHello (hello : ClientHello)
  | serverHello (hello : ServerHello)
  /-- A server's request to greet once more. -/
  | retryRequest (extensions : List Extension)
  | other (type : HandshakeType)
deriving DecidableEq, Repr

namespace Message

def type : Message → HandshakeType
  | .clientHello _ => .clientHello
  | .serverHello _ => .serverHello
  | .retryRequest _ => .helloRetryRequest
  | .other type => type

/-- The random bytes that make a server's hello a request to greet once more. -/
def retryMark : Bytes := [
  0xCF, 0x21, 0xAD, 0x74, 0xE5, 0x9A, 0x61, 0x11, 0xBE, 0x1D, 0x8C, 0x02, 0x1E, 0x65, 0xB8, 0x91,
  0xC2, 0xA2, 0x11, 0x16, 0x7A, 0xBB, 0x8C, 0x5E, 0x07, 0x9E, 0x09, 0xE2, 0xC8, 0xA8, 0x33, 0x9C]

def readVersion : Reader Nat := number 2 "ProtocolVersion"

def readRandom : Reader Bytes := take 32 (.missingData "Random")

/-- The name of a session, which takes at most 32 bytes. -/
def readSession : Reader Bytes := do
  let length ← byte
  if 32 < length then throw (.trailingData "SessionID")
  take length (.missingData "SessionID")

/-- Extensions that may be left out as a whole. -/
def readExtensions (rules : Extension.Rules) : Reader (List Extension) := do
  if (← get).isEmpty then return []
  Extension.readAll rules

def readClientHello : Reader ClientHello := do
  let version ← readVersion
  let _ ← readRandom
  let _ ← readSession
  let suites ← Extension.several short "CipherSuites" (number 2 "CipherSuite")
  let compressions ← Extension.several byte "Compressions" (number 1 "Compression")
  let extensions ← readExtensions Extension.ofClient
  finish "ClientHelloPayload"
  return ⟨version, suites, compressions, extensions⟩

/-- The rest of a request to greet once more. -/
def readRetryRequest : Reader (List Extension) := do
  let _ ← readSession
  let _ ← number 2 "CipherSuite"
  if (← number 1 "Compression") ≠ 0 then throw .unsupportedCompression
  Extension.readAll Extension.ofRetryRequest

/-- A server's hello or its request to greet once more. -/
def readServerHello : Reader Message := do
  let version ← readVersion
  let random ← readRandom
  if random = retryMark then return .retryRequest (← readRetryRequest)
  let _ ← readSession
  let suite ← number 2 "CipherSuite"
  let compression ← number 1 "Compression"
  let extensions ← readExtensions Extension.ofServer
  finish "ServerHelloPayload"
  return .serverHello ⟨version, random, suite, compression, extensions⟩

/-- The length of a list of certificates, which has a limit. -/
def certificatesLength : Reader Nat := do
  let length ← medium
  if 0x10000 < length then throw .certificatePayloadTooLarge
  return length

/-- A certificate with its extensions. -/
def readCertificateEntry : Reader Unit :=
  discard (counted medium *> Extension.readAll Extension.ofCertificate)

/-- The last version of the protocol, in which some messages have another form. -/
def lastVersion : Nat := 0x0304

/-- The form of the messages that are no greetings, by their kind and the version of their record. -/
def form (version : Nat) (type : HandshakeType) : Reader Unit :=
  let isLast := version == lastVersion
  match type.code with
  | 0x04 =>
    if isLast then
      discard (long *> long *> counted byte *> Extension.filled short *>
        Extension.readAll Extension.ofTicket)
    else discard (long *> counted short)
  | 0x05 => finish "EndOfEarlyData"
  | 0x06 => throw (.unexpectedMessage "HelloRetryRequest")
  | 0x08 => discard (Extension.readAll Extension.ofServer)
  | 0x0B =>
    if isLast then discard (counted byte *> list certificatesLength readCertificateEntry)
    else discard (list certificatesLength (counted medium))
  | 0x0D =>
    if isLast then discard (counted byte *> Extension.readAll Extension.ofCertificateRequest)
    else
      discard (Extension.several byte "ClientCertificateTypes" (number 1 "ClientCertificateType") *>
        Extension.schemesForm *> Extension.authoritiesForm)
  | 0x0E => finish "ServerHelloDone"
  | 0x0F => discard (number 2 "SignatureScheme" *> counted short)
  | 0x16 => Extension.statusForm
  | 0x18 => discard (number 1 "KeyUpdateRequest")
  | 0x19 => discard (number 2 "CertificateCompressionAlgorithm" *> medium *> counted medium)
  | 0xFE => throw (.unexpectedMessage "MessageHash")
  | _ => discard rest

/-- What the body of a message says. -/
def readBody (version : Nat) (type : HandshakeType) : Reader Message := do
  let message ←
    if type = .clientHello then .clientHello <$> readClientHello
    else if type = .serverHello then readServerHello
    else form version type *> pure (.other type)
  finish "HandshakeMessagePayload"
  return message

end Message

end MeshProxy.Tls
