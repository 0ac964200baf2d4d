import MeshProxy.Relay.Flow
import MeshProxy.Session.Event

/-!
# The relay between two streams

Two flows in opposite directions join a client and an upstream. When either flow ends, the other is stopped
where it stands and both streams are dropped; if the flow ended because its reader ran dry, its writer's
write half is shut first. From then on nothing changes any more.
-/

namespace MeshProxy

/-- A relay in progress or at its end. -/
structure Relay where
  client : Endpoint
  upstream : Endpoint
  forward : Flow := {}
  backward : Flow := {}
  /-- The direction that ended first and how. -/
  ending : Option (Direction × Except IoFault Unit) := none

namespace Relay

/-- The two sides of a relay. -/
inductive Side where
  | client
  | upstream
deriving DecidableEq, Repr

/-- Drops both streams; the writer of a direction that ran dry has its write half shut. -/
def close (r : Relay) (direction : Direction) (result : Except IoFault Unit) : Relay :=
  let ranDry := result matches .ok ()
  { r with
    client := { r.client with
      shut := r.client.shut || (ranDry && direction == .backward), dropped := true }
    upstream := { r.upstream with
      shut := r.upstream.shut || (ranDry && direction == .forward), dropped := true }
    ending := some (direction, result) }

/-- Takes over what a turn of a direction did to its two streams. -/
def absorb (r : Relay) (direction : Direction) (turn : Flow.Turn) : Relay :=
  match direction with
  | .forward =>
    { r with
      client := { r.client with source := turn.unread }
      upstream := { r.upstream with
        sink := turn.sink, received := r.upstream.received ++ turn.delivered }
      forward := turn.flow }
  | .backward =>
    { r with
      upstream := { r.upstream with source := turn.unread }
      client := { r.client with
        sink := turn.sink, received := r.client.received ++ turn.delivered }
      backward := turn.flow }

/-- The turn of a direction as the streams stand. -/
def turn (r : Relay) : Direction → Flow.Turn
  | .forward => Flow.run r.upstream.sink r.forward r.client.source
  | .backward => Flow.run r.client.sink r.backward r.upstream.source

/-- Lets one direction run until it waits or ends the relay. -/
def advance (r : Relay) (direction : Direction) : Relay :=
  match r.ending with
  | some _ => r
  | none =>
    let turn := r.turn direction
    match turn.ending with
    | none => r.absorb direction turn
    | some result => (r.absorb direction turn).close direction result

/-- Lets everything run until it waits. The backward direction, which the session copies itself, goes
first. -/
def settle (r : Relay) : Relay := (r.advance .backward).advance .forward

/-- The relay after an event on one side. -/
def step (r : Relay) (side : Side) (event : StreamEvent) : Relay :=
  match r.ending with
  | some _ => r
  | none =>
    match side with
    | .client => settle { r with client := r.client.apply event }
    | .upstream => settle { r with upstream := r.upstream.apply event }

/-- A relay between two streams, settled. -/
def start (client upstream : Endpoint) : Relay := settle { client, upstream }

/-- How the session around a relay ended, if it did. -/
def result? (r : Relay) : Option (Except Failure Unit) :=
  r.ending.map fun (_, result) =>
    match result with
    | .ok () => .ok ()
    | .error e => .error (.relay e)

/-- The number of bytes a direction has copied. -/
def copied (r : Relay) : Direction → Nat
  | .forward => r.forward.copied
  | .backward => r.backward.copied

/-- What the relay reports: a half-close if a direction ran dry. -/
def events (r : Relay) : List SessionEvent :=
  match r.ending with
  | some (direction, .ok ()) => [.halfClosed direction (r.copied direction)]
  | _ => []

/-- Everything that a session reports which consists of this relay alone. -/
def sessionEvents (r : Relay) : List SessionEvent :=
  match r.result? with
  | none => []
  | some result => r.events ++ [.ofResult result]

end Relay

end MeshProxy
