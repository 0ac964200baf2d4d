import MeshProxy.Tls.Wire

/-!
# TLS records

The bytes of a TLS connection come in records: a content type, a version, the length of the payload, and the
payload. Every part of the header is judged as soon as it is there, and the payload only when it is whole.
-/

namespace MeshProxy.Tls

/-- A record in the clear. -/
structure Record where
  type : ContentType
  version : Nat
  payload : Bytes
deriving DecidableEq, Repr

namespace Record

/-- Whether a record may bear this version: any whose first byte is three, and the other versions that have
a name of their own. -/
def isVersion (version : Nat) : Bool :=
  version / 0x100 == 0x03 || [0x0002, 0xFEFC, 0xFEFD, 0xFEFF].contains version

/-- The length from which on a payload is too large. -/
def limit : Nat := 16384 + 2048

/-- The record at the front and what follows it; none if more bytes are needed. -/
def take? : Bytes → Except MessageFault (Option (Record × Bytes))
  | [] => .ok none
  | code :: rest =>
    match ContentType.ofCode? code, rest with
    | none, _ => .error .invalidContentType
    | some type, high :: low :: rest =>
      let version := Pki.Der.bigNat [high, low]
      if !isVersion version then .error .unknownProtocolVersion
      else
        match rest with
        | high :: low :: rest =>
          let length := Pki.Der.bigNat [high, low]
          if length = 0 ∧ type ≠ .applicationData then .error .invalidEmptyPayload
          else if limit ≤ length then .error .messageTooLarge
          else if rest.length < length then .ok none
          else .ok (some (⟨type, version, rest.take length⟩, rest.drop length))
        | _ => .ok none
    | some _, _ => .ok none

end Record

end MeshProxy.Tls
