import MeshProxy.Proofs.Persona.Inbound
import MeshProxy.Routing.Plan

/-!
# Inbound sessions are safe

`Inbound.Safe` says what holds of an inbound session in every state: which target it has dialed, and how what its two
peers have received hangs on what they have supplied. `inbound_safe` proves it of every course. As long as the session
is calling, nothing has travelled (`safe_of_calling`); after the answer, the relay accounts for what has
(`safe_of_answered`).
-/

namespace MeshProxy

open Relay (Side Happening arrivals arrivalsOf)

namespace Inbound

/-- How the rendezvous is sent in a course, if it is: over the stream of the client as it is at the answer. -/
def rendezvous (course : Course) : Sent :=
  Rendezvous.send (course.client.after .client course.early).sink

/-- What holds of an inbound session in every state that a course leads to. -/
structure Safe (own : String) (course : Course) (s : Inbound) : Prop where
  /-- There is at most one dial. -/
  one_dial : s.dials.length ≤ 1
  /-- What is dialed is the chunk that the first read from the client takes, if that is a target and not the own
  address. -/
  dials : ∀ target ∈ s.dials,
    (∃ rest, course.fromClient.read Target.maxBytes = (.bytes (bytesOf target), rest)) ∧
      (bytesOf target).length ≤ Target.maxBytes ∧ Target.fault? target = none ∧ target ≠ own
  /-- The client has received a part of the rendezvous and the peer's bytes behind it. -/
  toClient : s.toClient <+: Rendezvous.byte :: course.fromPeer.payload
  /-- It has received nothing before the dial succeeded. -/
  connected : s.toClient ≠ [] → s.dials ≠ [] ∧ ∃ far, course.reach = .connected far
  /-- Behind the first chunk, the upstream has received what the client sent. -/
  toUpstream : ∀ chunk rest, course.fromClient.read Target.maxBytes = (.bytes chunk, rest) →
    chunk ++ s.toUpstream <+: course.fromClient.payload
  /-- If the upstream has received anything, the session has dialed and the rendezvous was taken and flushed. -/
  confirmed : s.toUpstream ≠ [] → s.dials ≠ [] ∧
    (rendezvous course).fault = none ∧
    (rendezvous course).written.accepted = [Rendezvous.byte] ∧
    (rendezvous course).flushes = 1
  /-- While the session relays, nothing is held back. -/
  relayed : ∀ target relay, s = .relaying target relay → relay.ending = none →
    course.fromClient.payload = bytesOf target ++ s.toUpstream ∧
      s.toClient = Rendezvous.byte :: course.fromPeer.payload

variable {own target : String} {course : Course} {s : Inbound} {rest : Source}

/-- A target that is taken is the first chunk. -/
lemma Taken.dialed {fromClient : Source} (tk : Taken own fromClient target rest) :
    (∃ rest, fromClient.read Target.maxBytes = (.bytes (bytesOf target), rest)) ∧
      (bytesOf target).length ≤ Target.maxBytes ∧ Target.fault? target = none ∧ target ≠ own :=
  ⟨⟨rest, tk.read⟩, Source.length_of_read tk.read, tk.valid, tk.other⟩

/-- The first chunk is a part of what the client sent. -/
lemma prefix_of_read {source : Source} {chunk : Bytes}
    (rd : source.read Target.maxBytes = (.bytes chunk, rest)) : chunk ++ [] <+: source.payload := by
  rw [List.append_nil, Source.payload_of_read rd]
  exact List.prefix_append _ _

/-- A session that has sent nothing to its upstream, and to its client nothing without a connection, is safe if
what it has dialed was taken. -/
lemma safe_of_silent (dials : s.dials = [] ∨ ∃ target rest, s.dials = [target] ∧
      Taken own course.fromClient target rest)
    (client : s.toClient <+: [Rendezvous.byte])
    (connected : s.toClient ≠ [] → s.dials ≠ [] ∧ ∃ far, course.reach = .connected far)
    (upstream : s.toUpstream = []) (idle : ∀ target relay, s ≠ .relaying target relay) :
    Safe own course s where
  one_dial := by
    rcases dials with eq | ⟨target, rest, eq, tk⟩ <;> simp [eq]
  dials target mem := by
    rcases dials with eq | ⟨target', rest, eq, tk⟩
    · rw [eq] at mem
      cases mem
    · rw [eq, List.mem_singleton] at mem
      rw [mem]
      exact tk.dialed
  toClient := client.trans (List.prefix_append [Rendezvous.byte] _)
  connected := connected
  toUpstream chunk rest rd := by
    rw [upstream]
    exact prefix_of_read rd
  confirmed some := absurd upstream some
  relayed target relay eq := absurd eq (idle target relay)

/-- A session that is calling is safe. -/
lemma safe_of_calling {heard : Endpoint} (cl : Calling own heard s) (rcv : heard.received = [])
    (src : heard.source = course.fromClient) : Safe own course s := by
  have silent (nil : s.toClient = []) (dials : s.dials = [] ∨ ∃ target rest, s.dials = [target] ∧
      Taken own heard.source target rest) (upstream : s.toUpstream = [])
      (idle : ∀ target relay, s ≠ .relaying target relay) : Safe own course s := by
    rw [src] at dials
    exact safe_of_silent dials (by simp [nil]) (absurd nil) upstream idle
  cases cl with
  | greeting => exact silent rcv (.inl rfl) rfl (by rintro _ _ ⟨⟩)
  | dialing tk => exact silent rcv (.inr ⟨_, _, rfl, tk⟩) rfl (by rintro _ _ ⟨⟩)
  | rejected nil => exact silent nil (.inl rfl) rfl (by rintro _ _ ⟨⟩)

/-- A relay between two peers carries what they have supplied. -/
lemma safe_of_relaying {relay : Relay} {far : Far} (tk : Taken own course.fromClient target rest)
    (conn : course.reach = .connected far) (ok : (rendezvous course).fault = none)
    (fa : relay.Faithful (Direction.each [] [Rendezvous.byte]) (Direction.each rest course.fromPeer)) :
    Safe own course (.relaying target relay) where
  one_dial := Nat.le_refl 1
  dials target' mem := by
    rw [List.mem_singleton.mp mem]
    exact tk.dialed
  toClient := by
    apply (fa.delivered .backward).trans
    exact (List.prefix_append_right_inj [Rendezvous.byte]).mpr course.fromPeer.ahead_prefix_payload
  connected _ := ⟨List.cons_ne_nil _ _, far, conn⟩
  toUpstream chunk rest' rd := by
    rw [tk.read] at rd
    cases rd
    rw [tk.payload, List.prefix_append_right_inj]
    exact (fa.delivered .forward).trans rest.ahead_prefix_payload
  confirmed _ := ⟨List.cons_ne_nil _ _, ok, Rendezvous.fault_send ok⟩
  relayed target' relay' eq run := by
    cases eq
    have all : relay.delivered .forward = rest.payload := (fa.waiting run .forward).delivered
    refine ⟨?_, (fa.waiting run .backward).delivered⟩
    rw [tk.payload, ← all]
    rfl

/-- A session that is answered is safe. -/
lemma safe_of_answered
    (an : Answered own course.reach (rendezvous course) course.fromClient course.fromPeer s) :
    Safe own course s := by
  cases an with
  | @unreached client target rest failure tk nil =>
    have nil : (refused client (some target) none failure).toClient = [] := nil
    exact safe_of_silent (.inr ⟨target, rest, rfl, tk⟩) (by simp [nil]) (absurd nil) rfl
      (by rintro _ _ ⟨⟩)
  | unsent tk conn part nil =>
    exact safe_of_silent (.inr ⟨_, _, rfl, tk⟩) part (fun _ => ⟨List.cons_ne_nil _ _, _, conn⟩) nil
      (by rintro _ _ ⟨⟩)
  | relaying tk conn ok fa => exact safe_of_relaying tk conn ok fa

/-- Safety: whatever comes from outside, an inbound session is safe in every state. -/
theorem inbound_safe (plan : Plan) (course : Course) :
    Safe plan.internalAddress.toText course (follow plan.internalAddress.toText course) := by
  have rcv : (course.client.after .client course.early).received = [] := Endpoint.received_after _ _ _
  have fresh : course.peer.received = [] := rfl
  have src := Endpoint.source_after course.client .client course.early
  have cl : Calling plan.internalAddress.toText (course.client.after .client course.early) _ :=
    (calling_greet plan.internalAddress.toText rfl).after rfl course.early
  rcases answer_cases cl rcv fresh course.reach with cl | an
  · refine safe_of_calling (cl.after rcv course.later) ((Endpoint.received_after _ _ _).trans rcv) ?_
    rw [Endpoint.source_after, src]
    rfl
  · have an := an.after course.later
    rw [src] at an
    exact safe_of_answered an

end Inbound

end MeshProxy
