import MeshProxy.Handshake.Target
import MeshProxy.Stream.Fault

/-!
# How a session fails

Every failure ends the session it happens in and goes no further. A failure has a short label for the log
and a text; only the failure of an established relay is an ordinary end.
-/

namespace MeshProxy

/-- What goes wrong before relaying: with the target text, with the exchange of preamble and
rendezvous, or with a TLS handshake that this side accepts. -/
inductive HandshakeFault where
  | target (text : String) (fault : Target.Fault)
  | readPreamble (cause : IoFault)
  | emptyPreamble
  | preambleNotText
  | sendPreamble (cause : IoFault)
  | flushPreamble (cause : IoFault)
  | awaitRendezvous (cause : IoFault)
  | wrongRendezvous (byte : UInt8)
  | sendRendezvous (cause : IoFault)
  | flushRendezvous (cause : IoFault)
  | tlsRefused (cause : IoFault)
  | tlsTimedOut
  /-- A cause told in words only. -/
  | told (text : String)
deriving DecidableEq, Repr

def HandshakeFault.message : HandshakeFault → String
  | .target text fault => fault.message text
  | .readPreamble cause => "failed to read preamble: " ++ cause.message
  | .emptyPreamble => "empty preamble"
  | .preambleNotText => "preamble is not valid UTF-8"
  | .sendPreamble cause => "failed to send preamble: " ++ cause.message
  | .flushPreamble cause => "failed to flush preamble: " ++ cause.message
  | .awaitRendezvous cause => "peer closed before rendezvous: " ++ cause.message
  | .wrongRendezvous byte =>
    "unexpected rendezvous byte 0x" ++ String.ofList (Text.hexByte byte)
  | .sendRendezvous cause => "failed to send rendezvous: " ++ cause.message
  | .flushRendezvous cause => "failed to flush rendezvous: " ++ cause.message
  | .tlsRefused cause => "TLS accept failed: " ++ cause.message
  | .tlsTimedOut => "TLS accept timed out"
  | .told text => text

/-- Why the destination before redirection could not be recovered. -/
inductive ResolutionFault where
  | wrongFamily (family : Nat)
  | queryFailed (cause : IoFault)
  | shortAnswer (length : Nat)
  | told (text : String)
deriving DecidableEq, Repr

def ResolutionFault.message : ResolutionFault → String
  | .wrongFamily family => "unexpected address family " ++ toString family
  | .queryFailed cause => "getsockopt(SO_ORIGINAL_DST) failed: " ++ cause.message
  | .shortAnswer length => "short SO_ORIGINAL_DST answer (" ++ toString length ++ " bytes)"
  | .told text => text

/-- The failure of one session. -/
inductive Failure where
  /-- The destination before redirection is unknown. -/
  | resolution (fault : ResolutionFault)
  /-- The next hop or the destination could not be reached. -/
  | dial (target : String) (cause : IoFault)
  /-- Preamble, rendezvous or TLS handshake went wrong. -/
  | handshake (fault : HandshakeFault)
  /-- A direction of the established relay failed. -/
  | relay (cause : IoFault)
  /-- The preamble named this sidecar's own internal listener. -/
  | loopback (target : String)
deriving DecidableEq, Repr

namespace Failure

/-- The label of a failure in the log. -/
def kind : Failure → String
  | .resolution _ => "resolution"
  | .dial _ _ => "dial"
  | .handshake _ => "handshake"
  | .relay _ => "relay"
  | .loopback _ => "loopback"

def message : Failure → String
  | .resolution fault => "original destination unavailable: " ++ fault.message
  | .dial target cause => "failed to dial " ++ target ++ ": " ++ cause.message
  | .handshake fault => "handshake failed: " ++ fault.message
  | .relay cause => "relay terminated: " ++ cause.message
  | .loopback target => "loopback detected: preamble targets own internal listener " ++ target

/-- The ordinary way in which a relayed connection ends. -/
def isOrdinary : Failure → Bool
  | .relay _ => true
  | _ => false

/-- The input or output fault behind a failure. -/
def cause? : Failure → Option IoFault
  | .dial _ cause => some cause
  | .relay cause => some cause
  | _ => none

end Failure

end MeshProxy
