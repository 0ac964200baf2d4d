import MeshProxy.Tls.Handshake
import MeshProxy.Tls.Message

/-!
# What a side makes of the other's greeting

A server takes up a client's hello if the two have a version, a cipher suite, a group and a signature scheme in
common; a client takes up a server's hello if it selects from what the client has offered. Either looks for
faults in a fixed order and names the first.
-/

namespace MeshProxy.Tls

/-- The fault of the first condition that holds. -/
def firstFault? (checks : List (Bool × Fault)) : Option Fault :=
  (checks.find? (·.1)).map (·.2)

/-! ## What both sides support -/

/-- The version before the last one. -/
def olderVersion : Nat := 0x0303

/-- The cipher suites of the last version. -/
def lastSuites : List Nat := [0x1301, 0x1302, 0x1303]

/-- The older cipher suites whose server has an RSA key. -/
def rsaSuites : List Nat := [0xC02F, 0xC030, 0xCCA8]

/-- The older cipher suites whose server has a key on a curve. -/
def curveSuites : List Nat := [0xC02B, 0xC02C, 0xCCA9]

/-- The groups with the lengths of a share of a key. -/
def groups : List (Nat × Nat) := [(0x1D, 32), (0x17, 65), (0x18, 97)]

/-- Whether the bytes can be a share of a key in the group. Points of two coordinates are marked as such. -/
def isKeyShare (group : Nat) (share : Bytes) : Bool :=
  groups.lookup group == some share.length && (group == 0x1D || share.head? == some 0x04)

namespace KeyKind

/-- The older cipher suites of a server with such a key. -/
def olderSuites : KeyKind → List Nat
  | .rsa => rsaSuites
  | _ => curveSuites

/-- The signature schemes that go with the older cipher suites of such a key. -/
def suiteSchemes : KeyKind → List Nat
  | .rsa => [0x0401, 0x0501, 0x0601, 0x0804, 0x0805, 0x0806]
  | _ => [0x0403, 0x0503, 0x0603, 0x0807]

/-- The signature schemes that such a key can use in a version. -/
def schemes (version : Nat) : KeyKind → List Nat
  | .rsa =>
    if version = Message.lastVersion then [0x0804, 0x0805, 0x0806]
    else [0x0401, 0x0501, 0x0601, 0x0804, 0x0805, 0x0806]
  | .p256 => [0x0403]
  | .p384 => [0x0503]
  | .ed25519 => [0x0807]

end KeyKind

/-! ## The server -/

namespace ClientHello

/-- What the hello says in the extension of a type. -/
def value? (type : Nat) (form : Reader α) (hello : ClientHello) : Option α :=
  Extension.value? type form hello.extensions

def schemes (hello : ClientHello) : List Nat :=
  (hello.value? Extension.signatureSchemes Extension.schemesForm).getD []

/-- The groups in common, the client's first choice first. -/
def commonGroups (hello : ClientHello) : List Nat :=
  ((hello.value? Extension.groups Extension.groupsForm).getD []).filter fun group =>
    (groups.lookup group).isSome

/-- The version that is spoken, or why there is none in common. -/
def agreedVersion (hello : ClientHello) : Except Incompatibility Nat :=
  match hello.value? Extension.versions Extension.versionsForm with
  | some offered =>
    if Message.lastVersion ∈ offered then .ok Message.lastVersion
    else if olderVersion ∈ offered then .ok olderVersion
    else .error .versionNotOfferedOrEnabled
  | none => if hello.version < olderVersion then .error .versionNotOffered else .ok olderVersion

/-- The faults that every client's hello may have; some message may have begun behind it. -/
def generalFault? (hello : ClientHello) (isLast : Bool) : Option Fault :=
  firstFault? [
    (!hello.compressions.contains 0, .incompatible .nullCompressionRequired),
    (!isLast, .misbehaved .pendingFragment),
    (hello.value? Extension.serverName Extension.wantedForm == some .nobody,
      .misbehaved .badServerName),
    (hello.schemes.isEmpty, .incompatible .signatureSchemesRequired)]

/-- The faults of a hello that lead to no cipher suite among `suites`. -/
def selectionFault? (hello : ClientHello) (suites : List Nat) : Option Fault :=
  firstFault? [
    (hello.commonGroups.isEmpty, .incompatible .noGroupInCommon),
    (!hello.suites.any suites.contains, .incompatible .noSuiteInCommon)]

/-- The faults of a hello in the last version. Without a share of a key in the group in common the client is
asked to greet once more. -/
def lastVersionFault? (hello : ClientHello) (key : KeyKind) : Option Fault :=
  let shares := hello.value? Extension.keyShares Extension.keySharesForm
  let group := hello.commonGroups.head?.getD 0
  let share := (shares.getD []).lookup group
  let compressions :=
    (hello.value? Extension.certificateCompressions Extension.certificateCompressionsForm).getD []
  let resumption := hello.value? Extension.resumption Extension.resumptionForm
  let hasModes := (Extension.body? Extension.resumptionModes hello.extensions).isSome
  match
    firstFault? [
      (hello.compressions.length != 1, .misbehaved .extraCompressions),
      (shares.isNone, .incompatible .keyShareRequired),
      (!((shares.getD []).map (·.1)).Nodup, .misbehaved .repeatedKeyShares),
      (!compressions.Nodup, .misbehaved .repeatedCertificateCompressions)] with
  | some fault => some fault
  | none =>
    if share.isNone then none
    else
      firstFault? [
        (resumption.isSome && !hasModes, .misbehaved .noResumptionModes),
        (resumption.any fun (sessions, proofs) => sessions != proofs,
          .misbehaved .unequalResumptionCounts),
        (!share.any (isKeyShare group), .misbehaved .badKeyShare),
        (!hello.schemes.any (key.schemes Message.lastVersion).contains,
          .incompatible .noSchemeInCommon)]

/-- The faults of a hello in the older version. -/
def olderVersionFault? (hello : ClientHello) (key : KeyKind) : Option Fault :=
  let points := (hello.value? Extension.pointFormats Extension.pointFormatsForm).getD [0]
  firstFault? [
    (!points.contains 0, .incompatible .uncompressedPointsRequired),
    (!hello.schemes.any key.suiteSchemes.contains, .incompatible .noSchemeInCommon),
    (!hello.schemes.any (key.schemes olderVersion).contains, .unfitKey)]

end ClientHello

/-- The first fault that a server finds in a client's hello. -/
def Server.helloFault? (server : Server) (hello : ClientHello) (isLast : Bool) : Option Fault :=
  let key := server.credential.key
  (hello.generalFault? isLast).or <|
    match hello.agreedVersion with
    | .error why => some (.incompatible why)
    | .ok version =>
      if version = Message.lastVersion then
        (hello.selectionFault? lastSuites).or (hello.lastVersionFault? key)
      else (hello.selectionFault? key.olderSuites).or (hello.olderVersionFault? key)

/-! ## The client -/

/-- The types of the extensions that a client sends. It names the server only by a DNS name. -/
def Client.extensions (client : Client) : List Nat :=
  (match client.expected with
    | .dns _ => [Extension.serverName]
    | .ip _ => []) ++
    [Extension.statusRequest, Extension.groups, Extension.pointFormats,
      Extension.signatureSchemes, Extension.extendedMasterSecret, Extension.sessionTicket,
      Extension.versions, Extension.resumptionModes, Extension.keyShares]

/-- The group that a client sends a share of a key in. -/
def offeredGroup : Nat := 0x1D

namespace ServerHello

/-- What the hello says in the extension of a type. -/
def value? (type : Nat) (form : Reader α) (hello : ServerHello) : Option α :=
  Extension.value? type form hello.extensions

/-- The version that an extension selects. -/
def selectedVersion? (hello : ServerHello) : Option Nat :=
  hello.value? Extension.versions (Reader.number 2 "ProtocolVersion")

/-- The version that is spoken. -/
def spokenVersion (hello : ServerHello) : Nat :=
  if hello.version = olderVersion then hello.selectedVersion?.getD olderVersion else hello.version

/-- The end of the random bytes of a server that could do better than the older version. -/
def downgradeMark : Bytes := bytesOf "DOWNGRD" ++ [0x01]

/-- The faults of a hello in the last version. Its extensions are few, and the rest comes encrypted. -/
def lastVersionFault? (hello : ServerHello) (isLast : Bool) : Option Fault :=
  let allowed := [Extension.keyShares, Extension.resumption, Extension.versions]
  let isClear := hello.extensions.any fun extension =>
    (Extension.ofServer.known.lookup extension.type).isSome && !allowed.contains extension.type
  let share := hello.value? Extension.keyShares Extension.keyShareForm
  firstFault? [
    (isClear, .misbehaved .clearExtension),
    (share.isNone, .misbehaved .missingKeyShare),
    (share.any fun (group, _) => group != offeredGroup, .misbehaved .keyShareOfOtherGroup),
    (!share.any fun (group, share) => isKeyShare group share, .misbehaved .badKeyShare),
    (!isLast, .misbehaved .pendingFragment)]

end ServerHello

/-- The first fault that a client finds in a server's hello. -/
def Client.helloFault? (client : Client) (hello : ServerHello) (isLast : Bool) : Option Fault :=
  let version := hello.spokenVersion
  let points := (hello.value? Extension.pointFormats Extension.pointFormatsForm).getD [0]
  let suites := lastSuites ++ rsaSuites ++ curveSuites
  let isOld := version == olderVersion
  let checks := firstFault? [
    (version != Message.lastVersion && !isOld, .incompatible .oldServer),
    (isOld && hello.selectedVersion?.isSome, .misbehaved .oldVersionInNewExtension),
    (hello.compression != 0, .misbehaved .compressionNotOffered),
    (hello.extensions.any fun extension =>
        !(Extension.renegotiation :: client.extensions).contains extension.type,
      .misbehaved .extensionNotOffered),
    (!points.contains 0, .misbehaved .compressedPointsOnly),
    (!suites.contains hello.suite, .misbehaved .suiteNotOffered),
    (lastSuites.contains hello.suite == isOld, .misbehaved .suiteOfOtherVersion)]
  checks.or <|
    if isOld then
      if hello.random.drop 24 = ServerHello.downgradeMark then some (.misbehaved .downgrade)
      else none
    else hello.lastVersionFault? isLast

/-- The first fault that a client finds in a request to greet once more. A peer that has not read the client's
hello cannot name the client's session in its request. -/
def retryFault (extensions : List Extension) (isLast : Bool) : Fault :=
  let group := Extension.value? Extension.keyShares (Reader.number 2 "NamedGroup") extensions
  let hasCookie := (Extension.body? Extension.cookie extensions).isSome
  (firstFault? [
    (!isLast, .misbehaved .pendingFragment),
    (!hasCookie && group == some offeredGroup, .misbehaved .retryOfOfferedGroup),
    (!hasCookie && group.isNone, .misbehaved .retryOfNothing)]).getD
    (.misbehaved .retryOfOtherSession)

end MeshProxy.Tls
