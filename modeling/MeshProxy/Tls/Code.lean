import MeshProxy.Text.Decimal
import MeshProxy.Text.Utf8

/-!
# The named numbers of TLS

The kinds of record, of handshake message and of alert. A number without a name is shown as a number, in as few
hexadecimal digits as it takes.
-/

namespace MeshProxy.Tls

/-- The name of a number of some kind. -/
def nameOf (kind : String) (names : List (UInt8 × String)) (code : UInt8) : String :=
  match names.lookup code with
  | some name => name
  | none => kind ++ "(0x" ++ String.ofList (Nat.toDigits 16 code.toNat) ++ ")"

/-- What a record carries. -/
inductive ContentType where
  | changeCipherSpec
  | alert
  | handshake
  | applicationData
  | heartbeat
deriving DecidableEq, Repr

namespace ContentType

def name : ContentType → String
  | changeCipherSpec => "ChangeCipherSpec"
  | alert => "Alert"
  | handshake => "Handshake"
  | applicationData => "ApplicationData"
  | heartbeat => "Heartbeat"

def code : ContentType → UInt8
  | changeCipherSpec => 0x14
  | alert => 0x15
  | handshake => 0x16
  | applicationData => 0x17
  | heartbeat => 0x18

def all : List ContentType := [changeCipherSpec, alert, handshake, applicationData, heartbeat]

/-- The content type with a number. -/
def ofCode? (code : UInt8) : Option ContentType := all.find? fun type => type.code == code

end ContentType

/-- The kind of a handshake message. -/
structure HandshakeType where
  code : UInt8
deriving DecidableEq, Repr

namespace HandshakeType

def clientHello : HandshakeType := ⟨0x01⟩
def serverHello : HandshakeType := ⟨0x02⟩
def helloRetryRequest : HandshakeType := ⟨0x06⟩

def names : List (UInt8 × String) := [
  (0x00, "HelloRequest"), (0x01, "ClientHello"), (0x02, "ServerHello"),
  (0x03, "HelloVerifyRequest"), (0x04, "NewSessionTicket"), (0x05, "EndOfEarlyData"),
  (0x06, "HelloRetryRequest"), (0x08, "EncryptedExtensions"), (0x0b, "Certificate"),
  (0x0c, "ServerKeyExchange"), (0x0d, "CertificateRequest"), (0x0e, "ServerHelloDone"),
  (0x0f, "CertificateVerify"), (0x10, "ClientKeyExchange"), (0x14, "Finished"),
  (0x15, "CertificateURL"), (0x16, "CertificateStatus"), (0x18, "KeyUpdate"),
  (0x19, "CompressedCertificate"), (0xfe, "MessageHash")]

def name (type : HandshakeType) : String := nameOf "HandshakeType" names type.code

end HandshakeType

/-- What one side tells the other when something is wrong. -/
structure Alert where
  code : UInt8
deriving DecidableEq, Repr

namespace Alert

def unknownAuthority : Alert := ⟨0x30⟩
def badCertificate : Alert := ⟨0x2a⟩

def names : List (UInt8 × String) := [
  (0x00, "CloseNotify"), (0x0a, "UnexpectedMessage"), (0x14, "BadRecordMac"),
  (0x15, "DecryptionFailed"), (0x16, "RecordOverflow"), (0x1e, "DecompressionFailure"),
  (0x28, "HandshakeFailure"), (0x29, "NoCertificate"), (0x2a, "BadCertificate"),
  (0x2b, "UnsupportedCertificate"), (0x2c, "CertificateRevoked"), (0x2d, "CertificateExpired"),
  (0x2e, "CertificateUnknown"), (0x2f, "IllegalParameter"), (0x30, "UnknownCA"),
  (0x31, "AccessDenied"), (0x32, "DecodeError"), (0x33, "DecryptError"),
  (0x3c, "ExportRestriction"), (0x46, "ProtocolVersion"), (0x47, "InsufficientSecurity"),
  (0x50, "InternalError"), (0x56, "InappropriateFallback"), (0x5a, "UserCanceled"),
  (0x64, "NoRenegotiation"), (0x6d, "MissingExtension"), (0x6e, "UnsupportedExtension"),
  (0x6f, "CertificateUnobtainable"), (0x70, "UnrecognisedName"),
  (0x71, "BadCertificateStatusResponse"), (0x72, "BadCertificateHashValue"),
  (0x73, "UnknownPSKIdentity"), (0x74, "CertificateRequired"), (0x78, "NoApplicationProtocol"),
  (0x79, "EncryptedClientHelloRequired")]

def name (alert : Alert) : String := nameOf "AlertDescription" names alert.code

end Alert

end MeshProxy.Tls
