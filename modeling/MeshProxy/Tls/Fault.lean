import MeshProxy.Pki.Certificate
import MeshProxy.Stream.Fault
import MeshProxy.Tls.Code

/-!
# How a TLS connection fails
-/

namespace MeshProxy.Tls

/-- What is wrong with bytes that should be a TLS message. -/
inductive MessageFault where
  | invalidContentType
  | unknownProtocolVersion
  | messageTooLarge
  | invalidEmptyPayload
  | messageTooShort
  | handshakePayloadTooLarge
  | certificatePayloadTooLarge
  | invalidCcs
  | invalidCertificateStatusType
  | invalidServerName
  | noSignatureSchemes
  | preSharedKeyIsNotFinalExtension
  | unsupportedCompression
  | illegalEmptyValue
  | unknownRetryExtension
  | unknownCertificateExtension
  | duplicateExtension (type : Nat)
  | missingData (what : String)
  | trailingData (what : String)
  | illegalEmptyList (what : String)
  | unexpectedMessage (what : String)
deriving DecidableEq, Repr

def MessageFault.name : MessageFault → String
  | .invalidContentType => "InvalidContentType"
  | .unknownProtocolVersion => "UnknownProtocolVersion"
  | .messageTooLarge => "MessageTooLarge"
  | .invalidEmptyPayload => "InvalidEmptyPayload"
  | .messageTooShort => "MessageTooShort"
  | .handshakePayloadTooLarge => "HandshakePayloadTooLarge"
  | .certificatePayloadTooLarge => "CertificatePayloadTooLarge"
  | .invalidCcs => "InvalidCcs"
  | .invalidCertificateStatusType => "InvalidCertificateStatusType"
  | .invalidServerName => "InvalidServerName"
  | .noSignatureSchemes => "NoSignatureSchemes"
  | .preSharedKeyIsNotFinalExtension => "PreSharedKeyIsNotFinalExtension"
  | .unsupportedCompression => "UnsupportedCompression"
  | .illegalEmptyValue => "IllegalEmptyValue"
  | .unknownRetryExtension => "UnknownHelloRetryRequestExtension"
  | .unknownCertificateExtension => "UnknownCertificateExtension"
  | .duplicateExtension type => "DuplicateExtension(" ++ toString type ++ ")"
  | .missingData what => "MissingData(" ++ Text.quote what ++ ")"
  | .trailingData what => "TrailingData(" ++ Text.quote what ++ ")"
  | .illegalEmptyList what => "IllegalEmptyList(" ++ Text.quote what ++ ")"
  | .unexpectedMessage what => "UnexpectedMessage(" ++ Text.quote what ++ ")"

/-- A well-formed message that the peer must not send. -/
inductive Misbehaviour where
  | tooManyWarnings
  | interleavedRecord
  | pendingFragment
  | badServerName
  | extraCompressions
  | repeatedKeyShares
  | repeatedCertificateCompressions
  | noResumptionModes
  | unequalResumptionCounts
  | badKeyShare
  | compressionNotOffered
  | extensionNotOffered
  | compressedPointsOnly
  | suiteNotOffered
  | suiteOfOtherVersion
  | oldVersionInNewExtension
  | downgrade
  | clearExtension
  | missingKeyShare
  | keyShareOfOtherGroup
  | retryOfOfferedGroup
  | retryOfNothing
  | retryOfOtherSession
deriving DecidableEq, Repr

def Misbehaviour.name : Misbehaviour → String
  | .tooManyWarnings => "TooManyWarningAlertsReceived"
  | .interleavedRecord => "MessageInterleavedWithHandshakeMessage"
  | .pendingFragment => "KeyEpochWithPendingFragment"
  | .badServerName => "ServerNameMustContainOneHostName"
  | .extraCompressions => "OfferedIncorrectCompressions"
  | .repeatedKeyShares => "OfferedDuplicateKeyShares"
  | .repeatedCertificateCompressions => "OfferedDuplicateCertificateCompressions"
  | .noResumptionModes => "MissingPskModesExtension"
  | .unequalResumptionCounts => "PskExtensionWithMismatchedIdsAndBinders"
  | .badKeyShare => "InvalidKeyShare"
  | .compressionNotOffered => "SelectedUnofferedCompression"
  | .extensionNotOffered => "UnsolicitedServerHelloExtension"
  | .compressedPointsOnly => "ServerHelloMustOfferUncompressedEcPoints"
  | .suiteNotOffered => "SelectedUnofferedCipherSuite"
  | .suiteOfOtherVersion => "SelectedUnusableCipherSuiteForVersion"
  | .oldVersionInNewExtension => "SelectedTls12UsingTls13VersionExtension"
  | .downgrade => "AttemptedDowngradeToTls12WhenTls13IsSupported"
  | .clearExtension => "UnexpectedCleartextExtension"
  | .missingKeyShare => "MissingKeyShare"
  | .keyShareOfOtherGroup => "WrongGroupForKeyShare"
  | .retryOfOfferedGroup => "IllegalHelloRetryRequestWithOfferedGroup"
  | .retryOfNothing => "IllegalHelloRetryRequestWithNoChanges"
  | .retryOfOtherSession => "IllegalHelloRetryRequestWithWrongSessionId"

/-- An offer that this side cannot take up. -/
inductive Incompatibility where
  | nullCompressionRequired
  | signatureSchemesRequired
  | versionNotOffered
  | versionNotOfferedOrEnabled
  | noGroupInCommon
  | noSuiteInCommon
  | keyShareRequired
  | uncompressedPointsRequired
  | noSchemeInCommon
  | oldServer
deriving DecidableEq, Repr

def Incompatibility.name : Incompatibility → String
  | .nullCompressionRequired => "NullCompressionRequired"
  | .signatureSchemesRequired => "SignatureAlgorithmsExtensionRequired"
  | .versionNotOffered => "Tls12NotOffered"
  | .versionNotOfferedOrEnabled => "Tls12NotOfferedOrEnabled"
  | .noGroupInCommon => "NoKxGroupsInCommon"
  | .noSuiteInCommon => "NoCipherSuitesInCommon"
  | .keyShareRequired => "KeyShareExtensionRequired"
  | .uncompressedPointsRequired => "UncompressedEcPointsRequired"
  | .noSchemeInCommon => "NoSignatureSchemesInCommon"
  | .oldServer => "ServerDoesNotSupportTls12Or13"

/-- Why one side refuses the certificate of the other. -/
inductive CertificateFault where
  | defective (defect : Pki.Defect)
  | unknownIssuer
  | wrongName (expected : ServerName) (listed : List SubjectName)
  /-- Anything else, by the text that tells of it and the alert that announces it. -/
  | told (text : String) (alert : Alert)
deriving DecidableEq, Repr

def CertificateFault.message : CertificateFault → String
  | .defective defect => defect.message
  | .unknownIssuer => "UnknownIssuer"
  | .wrongName expected listed =>
    "certificate not valid for name " ++ Text.quote expected.toText ++ "; certificate " ++
      if listed.isEmpty then
        "is not valid for any names (according to its subjectAltName extension)"
      else "is only valid for " ++ enumerate listed
  | .told text _ => text

/-- The alert that announces a refusal. -/
def CertificateFault.alert : CertificateFault → Alert
  | .unknownIssuer => .unknownAuthority
  | .defective _ => .badCertificate
  | .wrongName _ _ => .badCertificate
  | .told _ alert => alert

/-- The failure of a TLS handshake or of an established TLS stream. -/
inductive Fault where
  | certificate (fault : CertificateFault)
  | alerted (alert : Alert)
  | corrupt (fault : MessageFault)
  /-- A record of another kind than the handshake. -/
  | unexpectedRecord (got : ContentType)
  /-- A handshake message of another kind than those expected. -/
  | unexpectedMessage (got : HandshakeType) (expected : List HandshakeType)
  | misbehaved (how : Misbehaviour)
  | incompatible (why : Incompatibility)
  /-- The key of this side makes no signature that the peer would take. -/
  | unfitKey
  /-- The peer closed during the handshake. -/
  | handshakeEnd
  /-- The peer closed an established stream without saying so. -/
  | closedSilently
  /-- The handshake took longer than allowed. -/
  | tooSlow
  /-- The text that should name the server names nothing. -/
  | invalidServerName
deriving DecidableEq, Repr

namespace Fault

def message : Fault → String
  | .certificate fault => "invalid peer certificate: " ++ fault.message
  | .alerted alert => "received fatal alert: " ++ alert.name
  | .corrupt fault => "received corrupt message of type " ++ fault.name
  | .unexpectedRecord got =>
    "received unexpected message: got " ++ got.name ++ " when expecting " ++
      ContentType.handshake.name
  | .unexpectedMessage got expected =>
    "received unexpected handshake message: got " ++ got.name ++ " when expecting " ++
      String.intercalate " or " (expected.map (·.name))
  | .misbehaved how => "peer misbehaved: " ++ how.name
  | .incompatible why => "peer is incompatible: " ++ why.name
  | .unfitKey => "unexpected error: incompatible signing key"
  | .handshakeEnd => "tls handshake eof"
  | .closedSilently =>
    "peer closed connection without sending TLS close_notify: " ++
      "https://docs.rs/rustls/latest/rustls/manual/_03_howto/index.html#unexpected-eof"
  | .tooSlow => "TLS handshake timed out"
  | .invalidServerName => "invalid dns name"

/-- The kind of input or output fault that a failure counts as. -/
def kind : Fault → FaultKind
  | .handshakeEnd => .unexpectedEof
  | .closedSilently => .unexpectedEof
  | .tooSlow => .timedOut
  | .invalidServerName => .other
  | _ => .invalidData

def toIoFault (fault : Fault) : IoFault := .told fault.kind fault.message

end Fault

end MeshProxy.Tls
