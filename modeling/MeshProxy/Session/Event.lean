import MeshProxy.Log.Record
import MeshProxy.Session.Failure

/-!
# What a session reports

The events of a session in the order they happen, and the log record that each of them makes. All carry the
session they belong to, except the half-close of the forward direction, which copies on its own.
-/

namespace MeshProxy

/-- The two directions of a relay. -/
inductive Direction where
  /-- From the client to the upstream. -/
  | forward
  /-- From the upstream to the client. -/
  | backward
deriving DecidableEq, Repr

def Direction.label : Direction → String
  | .forward => "client→upstream"
  | .backward => "upstream→client"

inductive SessionEvent where
  /-- An inbound session has connected its destination. -/
  | destinationConnected (target : String)
  /-- An outbound session has connected its next hop, over TLS or in the clear. -/
  | hopConnected (hop target : String) (secure : Bool)
  /-- A direction ran dry and its writer's write half was shut. -/
  | halfClosed (direction : Direction) (bytes : Nat)
  /-- The session ended as it should. -/
  | closed
  /-- The session failed. -/
  | failed (failure : Failure)
deriving DecidableEq, Repr

namespace SessionEvent

/-- The last event of a session that ended with this result. -/
def ofResult : Except Failure Unit → SessionEvent
  | .ok () => .closed
  | .error failure => .failed failure

/-- The record of an event. A refused loop and every failure but that of an established relay are
warnings. -/
def record (span : Log.Span) : SessionEvent → Log.Record
  | .destinationConnected target =>
    ⟨.debug, "sidecar::session::inbound", "connected to destination",
      [("target", .text target)], some span⟩
  | .hopConnected hop target secure =>
    ⟨.debug, "sidecar::session::outbound", "connected to next hop",
      [("next_hop", .text hop), ("target", .text target), ("tls", .flag secure)], some span⟩
  | .halfClosed direction bytes =>
    ⟨.debug, "sidecar::relay", "half-close",
      [("label", .text direction.label), ("bytes", .number bytes)],
      if direction = .forward then none else some span⟩
  | .closed => ⟨.debug, "sidecar::session", "session closed", [], some span⟩
  | .failed failure =>
    let fields := [("kind", .text failure.kind), ("error", .text failure.message)]
    match failure with
    | .loopback _ =>
      ⟨.warn, "sidecar::session", "refusing session; check next-hop configuration", fields,
        some span⟩
    | .relay _ => ⟨.debug, "sidecar::session", "session closed", fields, some span⟩
    | _ => ⟨.warn, "sidecar::session", "session failed", fields, some span⟩

end SessionEvent

end MeshProxy
