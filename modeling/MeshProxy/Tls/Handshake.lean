import MeshProxy.Text.Utf8
import MeshProxy.Tls.Fault

/-!
# The TLS handshake, as far as trust is concerned

A server shows its certificates and a client may show some. Each side has the certificates of the other judged:
whether an authority it trusts has issued them, and, on the client's side, whether they are valid for the
expected name. Judging takes signatures, dates and purposes into account and is not done here; a `Judge` is
given. The client decides first, and a server accepts a client that shows nothing. A handshake may also break
before it comes to that.
-/

namespace MeshProxy.Tls

/-- A certificate authority, by its distinguished name and its public key. -/
structure Authority where
  subject : Bytes
  keyInfo : Bytes
deriving DecidableEq, Repr

/-- The kinds of keys that a certificate may certify. -/
inductive KeyKind where
  | rsa
  | p256
  | p384
  | ed25519
deriving DecidableEq, Repr

/-- What one side shows of itself: its certificate and those that lead from it to an authority, and what its
own says about it. -/
structure Credential where
  chain : List Bytes
  names : List SubjectName
  key : KeyKind
deriving DecidableEq, Repr

/-- The listening side of a handshake. -/
structure Server where
  trusted : List Authority
  credential : Credential
deriving DecidableEq, Repr

/-- The connecting side of a handshake. -/
structure Client where
  trusted : List Authority
  credential : Option Credential
  expected : ServerName
deriving DecidableEq, Repr

/-- How each side judges what the other shows. -/
structure Judge where
  ofServer : Client → Credential → Option CertificateFault
  ofClient : Server → Credential → Option CertificateFault

/-- A judge that looks for an authority that has issued the certificates first, and then for the expected
name. -/
def Judge.ofIssuing (issues : Authority → List Bytes → Bool) : Judge where
  ofServer client shown :=
    if client.trusted.any (issues · shown.chain) then
      if shown.names.any (·.isFor client.expected) then none
      else some (.wrongName client.expected shown.names)
    else some .unknownIssuer
  ofClient server shown :=
    if server.trusted.any (issues · shown.chain) then none else some .unknownIssuer

/-- How a handshake between two TLS speakers ends. -/
inductive Outcome where
  | agreed
  | refusedByClient (fault : CertificateFault)
  | refusedByServer (fault : CertificateFault)
  /-- The connection has failed, or the two have no way of speaking TLS in common. -/
  | broken (cause : IoFault)
deriving DecidableEq, Repr

/-- The handshake of a client with a server, unless it breaks. -/
def handshake (judge : Judge) (client : Client) (server : Server) : Outcome :=
  match judge.ofServer client server.credential with
  | some fault => .refusedByClient fault
  | none =>
    match client.credential.bind (judge.ofClient server) with
    | some fault => .refusedByServer fault
    | none => .agreed

namespace Outcome

/-- What the server learns. -/
def server : Outcome → Except IoFault Unit
  | .agreed => .ok ()
  | .refusedByClient fault => .error (Fault.alerted fault.alert).toIoFault
  | .refusedByServer fault => .error (Fault.certificate fault).toIoFault
  | .broken cause => .error cause

/-- What the client learns by the end of its own part, in which it cannot yet be refused. -/
def client : Outcome → Except IoFault Unit
  | .refusedByClient fault => .error (Fault.certificate fault).toIoFault
  | .broken cause => .error cause
  | _ => .ok ()

/-- What the client learns from its first read after the handshake. -/
def clientAfterwards : Outcome → Except IoFault Unit
  | .refusedByServer fault => .error (Fault.alerted fault.alert).toIoFault
  | outcome => outcome.client

end Outcome

end MeshProxy.Tls
