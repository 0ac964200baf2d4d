import Mathlib
import MeshProxy.Proofs.Net.Spelling
import MeshProxy.Proofs.Persona.Inbound.FirstRead
import MeshProxy.Routing.Plan

/-!
# The loop guard

An inbound session decides about its target with the read that takes it: it refuses the text of the own internal address
and dials any other text (`Decided`). The decision is kept by every event and by the answer to the dial
(`Decided.react`, `Decided.answer`), so it stands in every state once a target has arrived (`decided_follow`).

So of the targets that name the own internal address, only the one whose port is plain is refused (`loop_guard`). With a
sign or a zero to spare in front of the port, the session connects to its own listener and serves the connection
(`loop_guard_bypassed`).
-/

namespace MeshProxy

open Relay (Happening)

namespace Inbound

/-- The session has refused its target for a loop; nothing was dialed or written. -/
structure Refuses (target : String) (s : Inbound) : Prop where
  result : s.result? = some (.error (.loopback target))
  dials : s.dials = []
  toClient : s.toClient = []
  upstream : s.upstream? = none

/-- What a session has decided about a target that has arrived. -/
inductive Decided (own target : String) : Inbound → Prop where
  | refused {client : Endpoint} :
    target = own →
    client.received = [] →
    Decided own target (.refused client none none (.loopback target))
  | dialed {s : Inbound} :
    target ≠ own →
    s.dials = [target] →
    Decided own target s

variable {own target : String} {s : Inbound} {client : Endpoint}

lemma decided_greet (rcv : client.received = [])
    (ar : (Preamble.read client.source).1 = .arrived target) : Decided own target (greet own client) := by
  have read : Preamble.read client.source = (.arrived target, (Preamble.read client.source).2) :=
    Prod.ext ar rfl
  rw [greet, read]
  simp only [dial]
  split
  case isTrue same => exact .refused same rcv
  case isFalse other => exact .dialed other rfl

lemma Decided.refuses (dc : Decided own target s) (same : target = own) : Refuses target s := by
  cases dc with
  | refused _ nil => exact ⟨rfl, rfl, nil, rfl⟩
  | dialed other _ => exact absurd same other

lemma Decided.dials (dc : Decided own target s) (other : target ≠ own) : s.dials = [target] := by
  cases dc with
  | refused same _ => exact absurd same other
  | dialed _ dials => exact dials

lemma Decided.react (dc : Decided own target s) (e : Happening) :
    Decided own target (s.react own e.1 e.2) := by
  cases dc with
  | refused same nil => exact .refused same nil
  | dialed other dials =>
    refine .dialed other ?_
    obtain ⟨side, event⟩ := e
    cases s with
    | greeting => cases dials
    | dialing => cases side <;> exact dials
    | refused => exact dials
    | relaying => exact dials

lemma Decided.answer (dc : Decided own target s) (reach : Reach) (peer : Endpoint) :
    Decided own target (s.answer reach peer) := by
  cases dc with
  | refused same nil => exact .refused same nil
  | dialed other dials =>
    refine .dialed other ?_
    cases s with
    | greeting => cases dials
    | refused => exact dials
    | relaying => exact dials
    | dialing client target =>
      cases reach with
      | refused => exact dials
      | silent => exact dials
      | connected =>
        simp only [Inbound.answer, connect]
        split <;> exact dials

lemma decided_follow {course : Course} (ar : (Preamble.read course.fromClient).1 = .arrived target) :
    Decided own target (follow own course) := by
  apply follow_of_read _ _ _ ar
  · exact fun _ => decided_greet
  · exact fun _ e dc => dc.react e
  · exact fun _ dc => dc.answer course.reach course.peer

/-- The session has dialed its target, and that is its own internal listener. -/
structure Loops (plan : Plan) (target : String) (s : Inbound) : Prop where
  dials : s.dials = [target]
  itself : ∀ network : Dial.Network, network.lookup plan.bindIp.toText = .ok [plan.bindIp] →
    Dial.addresses network target = .ok [plan.internalAddress]

/-- Of the targets that name the own internal address, the one whose port is plain is refused, and every other is
dialed. -/
theorem loop_guard (plan : Plan) (course : Course) {ip : Ipv4} {portText : List Char}
    (bind : plan.bindIp = .v4 ip) (ar : (Preamble.read course.fromClient).1 = .arrived target)
    (nm : Target.Names target ip plan.internalPort portText) :
    if Text.Plain portText then Refuses target (follow plan.internalAddress.toText course)
    else Loops plan target (follow plan.internalAddress.toText course) := by
  have text : target = plan.internalAddress.toText ↔ Text.Plain portText := by
    rw [Plan.internalAddress, bind]
    exact nm.eq_toText_iff
  have dc : Decided plan.internalAddress.toText target (follow plan.internalAddress.toText course) :=
    decided_follow ar
  split
  case isTrue plain => exact dc.refuses (text.mpr plain)
  case isFalse spare =>
    refine ⟨dc.dials (fun same => spare (text.mp same)), ?_⟩
    intro network lookup
    rw [bind] at lookup
    rw [Plan.internalAddress, bind]
    exact nm.addresses lookup

/-- A sidecar at the usual ports. -/
def usualPlan : Plan where
  bindIp := .v4 .loopback
  internalPort := 18000
  externalPort := 18001
  externalTlsPort := 18443
  hopOverride := none
  timeout := 5000
  gateway := false
  tls := none

/-- A client sends a target, and whatever is dialed connects. -/
def courseTo (target : String) : Course where
  reads := [.data (bytesOf target)]
  reach := .connected .plain

/-- The own address is refused as it is written, and dialed with a zero to spare in front of the port. -/
theorem loop_guard_spellings :
    Refuses "127.0.0.1:18000"
        (follow usualPlan.internalAddress.toText (courseTo "127.0.0.1:18000")) ∧
      Loops usualPlan "127.0.0.1:018000"
        (follow usualPlan.internalAddress.toText (courseTo "127.0.0.1:018000")) := by
  constructor
  · have plain : Text.Plain "18000".toList := by decide
    have nm : Target.Names "127.0.0.1:18000" .loopback usualPlan.internalPort "18000".toList :=
      ⟨⟨"127.0.0.1".toList, by decide, by decide⟩, by decide⟩
    have guard := loop_guard usualPlan (courseTo "127.0.0.1:18000") rfl (by cbv) nm
    rwa [if_pos plain] at guard
  · have spare : ¬ Text.Plain "018000".toList := by decide
    have nm : Target.Names "127.0.0.1:018000" .loopback usualPlan.internalPort "018000".toList :=
      ⟨⟨"127.0.0.1".toList, by decide, by decide⟩, by decide⟩
    have guard := loop_guard usualPlan (courseTo "127.0.0.1:018000") rfl (by cbv) nm
    rwa [if_neg spare] at guard

/-- So the own address in another spelling is not always refused. -/
theorem loop_guard_bypassed :
    ¬ ∀ (plan : Plan) (course : Course) (target : String) (ip : Ipv4) (portText : List Char),
      plan.bindIp = .v4 ip → (Preamble.read course.fromClient).1 = .arrived target →
      Target.Names target ip plan.internalPort portText →
      Refuses target (follow plan.internalAddress.toText course) := by
  intro safe
  have refuses := safe usualPlan (courseTo "127.0.0.1:+18000") "127.0.0.1:+18000" .loopback "+18000".toList rfl
    (by cbv) ⟨⟨"127.0.0.1".toList, by decide, by decide⟩, by decide⟩
  have dc : Decided usualPlan.internalAddress.toText "127.0.0.1:+18000"
      (follow usualPlan.internalAddress.toText (courseTo "127.0.0.1:+18000")) := decided_follow (by cbv)
  have none := refuses.dials
  rw [dc.dials (by decide)] at none
  cases none

end Inbound

end MeshProxy
