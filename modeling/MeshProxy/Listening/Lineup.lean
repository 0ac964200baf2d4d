import MeshProxy.Listening.Role
import MeshProxy.Routing.Plan
import MeshProxy.Startup.Chain

/-!
# The listeners of a sidecar

A plan says which listeners there are: the internal one unless the sidecar is a gateway, the external one, and
the one for TLS if there is a policy. They are opened in this order, and the first that cannot be opened stops
the sidecar; they close in the same order.
-/

namespace MeshProxy

/-- A listener to be opened. -/
structure Listener where
  role : Role
  address : SocketAddress
deriving DecidableEq, Repr

/-- What is reported of the listeners as a whole. -/
inductive LineupEvent where
  /-- A gateway has no internal listener. -/
  | internalDisabled
  | of (role : Role) (event : ListenerEvent)
deriving DecidableEq, Repr

def LineupEvent.record : LineupEvent → Log.Record
  | .internalDisabled =>
    { level := .info, target := "sidecar::proxy"
      message := "gateway mode: internal listener disabled" }
  | .of role event => event.record role

namespace Plan

/-- The listeners of a plan, in the order they are opened. -/
def listeners (plan : Plan) : List Listener :=
  (if plan.gateway then [] else [⟨.internal, plan.internalAddress⟩]) ++
    [⟨.external, .v4 .unspecified plan.externalPort⟩] ++
    (if plan.tls.isSome then [⟨.externalTls, .v4 .unspecified plan.externalTlsPort⟩] else [])

end Plan

namespace Listener

/-- The error of a listener that cannot be opened. -/
def failure (listener : Listener) (cause : IoFault) : Chain :=
  ⟨"failed to bind " ++ listener.role.name ++ " listener on " ++ listener.address.toText,
    [cause.message]⟩

/-- Opens listeners one after the other. `bind` says why an address cannot be bound, if it cannot. -/
def openAll (bind : SocketAddress → Option IoFault) :
    List Listener → List LineupEvent × Except Chain Unit
  | [] => ([], .ok ())
  | listener :: more =>
    match bind listener.address with
    | some cause => ([], .error (listener.failure cause))
    | none =>
      let (events, result) := openAll bind more
      (.of listener.role (.listening listener.address) :: events, result)

end Listener

namespace Plan

/-- Opens the listeners of a plan. -/
def openListeners (plan : Plan) (bind : SocketAddress → Option IoFault) :
    List LineupEvent × Except Chain Unit :=
  let (events, result) := Listener.openAll bind plan.listeners
  ((if plan.gateway then [.internalDisabled] else []) ++ events, result)

/-- What is reported when the listeners close. -/
def closing (plan : Plan) : List LineupEvent :=
  plan.listeners.map fun listener => .of listener.role .closed

/-- Opens the listeners and closes them when told to stop, which happens once all are open. -/
def serveUntilStopped (plan : Plan) (bind : SocketAddress → Option IoFault) :
    List LineupEvent × Except Chain Unit :=
  match plan.openListeners bind with
  | (events, .ok ()) => (events ++ plan.closing, .ok ())
  | (events, .error chain) => (events, .error chain)

end Plan

end MeshProxy
