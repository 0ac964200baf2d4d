import MeshProxy.Tls.Record
import MeshProxy.Tls.Welcome

/-!
# Hearing a peer out

What a side makes of bytes that arrive before any handshake has been agreed, up to the peer's greeting or the
first fault. Records are taken one after another; alerts that only warn are passed over, a few of them; the
payloads of handshake records are joined, and the first message that is whole is the greeting or a fault. From
the greeting on, a peer that has not heard this side says nothing that could lead anywhere.
-/

namespace MeshProxy.Tls

/-- The side of a handshake that hears the peer. -/
inductive Party where
  | server (server : Server)
  | client (client : Client)
deriving DecidableEq, Repr

namespace Party

/-- The fault of the first message that the peer has sent, or none if it is a greeting this side takes up.
`isLast` says that no other message has begun behind it. -/
def fault? (party : Party) (message : Message) (isLast : Bool) : Option Fault :=
  match party, message with
  | .server self, .clientHello hello => self.helloFault? hello isLast
  | .server _, message => some (.unexpectedMessage message.type [.clientHello])
  | .client self, .serverHello hello => self.helloFault? hello isLast
  | .client _, .retryRequest extensions => some (retryFault extensions isLast)
  | .client _, message => some (.unexpectedMessage message.type [.serverHello, .helloRetryRequest])

end Party

/-- What has come of hearing a peer. -/
inductive Heard where
  /-- More bytes are needed. -/
  | waits
  /-- The peer's greeting has been taken up. -/
  | greeted
  | failed (fault : Fault)
deriving DecidableEq, Repr

/-- What a side remembers between records. -/
structure Hearing where
  /-- The version of the record in which the unfinished message began. -/
  version : Nat := 0
  /-- What has come of an unfinished message. -/
  unfinished : Bytes := []
  /-- The warnings so far. -/
  warnings : Nat := 0
deriving DecidableEq, Repr

namespace Hearing

/-- The largest length that a handshake message may announce. -/
def messageLimit : Nat := 0xFFFF

/-- The length that the message at the front announces, once its header is there. -/
def announced? : Bytes → Option Nat
  | _ :: high :: middle :: low :: _ => some (Pki.Der.bigNat [high, middle, low])
  | _ => none

/-- The lengths that the messages at the front announce, at most `fuel` of them, and whether the last of
them is whole. -/
def survey : Nat → Bytes → List Nat × Bool
  | 0, bytes => ([], bytes.isEmpty)
  | fuel + 1, bytes =>
    match announced? bytes with
    | none => ([], bytes.isEmpty)
    | some length =>
      if bytes.length < 4 + length then ([length], false)
      else
        let (more, isWhole) := survey fuel (bytes.drop (4 + length))
        (length :: more, isWhole)

/-- The first message of joined payloads, if it is whole. -/
def message? (version : Nat) : Bytes → Option (Except MessageFault Message)
  | [] => none
  | code :: rest =>
    match announced? (code :: rest) with
    | none => none
    | some length =>
      let body := rest.drop 3
      if body.length < length then none
      else some (((Message.readBody version ⟨code⟩).run (body.take length)).map (·.1))

/-- The number of warnings that are passed over. -/
def patience : Nat := 4

/-- An alert, by its level and description; a level other than a warning ends the connection. -/
def alert (hearing : Hearing) (payload : Bytes) : Except Fault Hearing :=
  match (do
    let level ← Reader.number 1 "AlertLevel"
    let description ← Reader.number 1 "AlertDescription"
    Reader.finish "AlertMessagePayload"
    return (level, description) : Reader (Nat × Nat)).run payload with
  | .error fault => .error (.corrupt fault)
  | .ok ((level, description), _) =>
    if level ≠ 1 then .error (.alerted ⟨UInt8.ofNat description⟩)
    else if hearing.warnings = patience then .error (.misbehaved .tooManyWarnings)
    else .ok { hearing with warnings := hearing.warnings + 1 }

/-- The fault of a record that announces a change of the cipher, which comes too early. -/
def cipherChangeFault : Bytes → Fault
  | [0x01] => .unexpectedRecord .changeCipherSpec
  | 0x01 :: _ => .corrupt (.trailingData "ChangeCipherSpecPayload")
  | _ => .corrupt .invalidCcs

/-- Takes a record of the handshake: what follows from it, unless the first message is still
unfinished. -/
def handshake (hearing : Hearing) (party : Party) (record : Record) : Except Heard Hearing :=
  let version := if hearing.unfinished.isEmpty then record.version else hearing.version
  let joined := hearing.unfinished ++ record.payload
  let (lengths, isWhole) := survey joined.length joined
  if lengths.any (messageLimit < ·) then .error (.failed (.corrupt .handshakePayloadTooLarge))
  else
    match message? version joined with
    | none => .ok { hearing with version, unfinished := joined }
    | some (.error fault) => .error (.failed (.corrupt fault))
    | some (.ok message) =>
      match party.fault? message isWhole with
      | some fault => .error (.failed fault)
      | none => .error .greeted

/-- Takes a record. -/
def take (hearing : Hearing) (party : Party) (record : Record) : Except Heard Hearing :=
  if !hearing.unfinished.isEmpty && record.type != .handshake then
    .error (.failed (.misbehaved .interleavedRecord))
  else
    match record.type with
    | .handshake => hearing.handshake party record
    | .alert => (hearing.alert record.payload).mapError .failed
    | .changeCipherSpec => .error (.failed (cipherChangeFault record.payload))
    | .applicationData => .error (.failed (.unexpectedRecord .applicationData))
    | .heartbeat => .error (.failed (.corrupt .invalidContentType))

/-- Takes the records at the front, at most `fuel` of them. -/
def run (party : Party) (hearing : Hearing) : Nat → Bytes → Heard
  | 0, _ => .waits
  | fuel + 1, bytes =>
    match Record.take? bytes with
    | .error fault => .failed (.corrupt fault)
    | .ok none => .waits
    | .ok (some (record, rest)) =>
      match hearing.take party record with
      | .error heard => heard
      | .ok hearing => run party hearing fuel rest

end Hearing

/-- What comes of the bytes that have arrived from a peer; a record takes at least five. -/
def Party.hear (party : Party) (bytes : Bytes) : Heard :=
  Hearing.run party {} (bytes.length + 1) bytes

end MeshProxy.Tls
