import Mathlib
import MeshProxy.Proofs.Handshake.RoundTrip
import MeshProxy.Proofs.Net.SocketText
import MeshProxy.Proofs.Persona.Atomicity
import MeshProxy.Proofs.Persona.Inbound.LoopGuard

/-!
# The own internal address is never dialed

The text of the own internal address is a target if the address is an IPv4 address, and none if it is an IPv6 address. So
there are two ways in which an inbound session refuses it: for a loop, or as a preamble that is no target. What the first
read was answered tells what becomes of a session (`Inbound.told`): what fails as a preamble fails in every state, and a
session that has dialed does not end for a loop (`Inbound.noLoop_follow`).

With these, `Inbound.guards_own_address` says exactly when a session is refused for a loop, and that every other target is
dialed once.
-/

namespace MeshProxy

open Relay (Happening)

/-- The first read from the client gets these bytes. -/
def Course.FirstChunk (course : Course) (chunk : Bytes) : Prop :=
  (course.fromClient.read Target.maxBytes).1 = .bytes chunk

namespace Inbound

/-- A session is over before it dialed or wrote anything. -/
structure Refused (failure : Failure) (s : Inbound) : Prop where
  result : s.result? = some (.error failure)
  dials : s.dials = []
  toClient : s.toClient = []
  upstream : s.upstream? = none

/-- If a session has dialed, it does not end for a loop. -/
def NoLoop (s : Inbound) : Prop :=
  s.dials ≠ [] → ∀ target, s.result? ≠ some (.error (.loopback target))

variable {own target : String} {s : Inbound} {client : Endpoint}

/-! ## A preamble that is refused -/

/-- A preamble that cannot be read ends the session, whatever happens later. -/
lemma refused_follow {course : Course} {fault : HandshakeFault}
    (rd : (Preamble.read course.fromClient).1 = .failed fault) :
    Refused (.handshake fault) (follow own course) := by
  let Ended (s : Inbound) : Prop := ∃ client, s = .refused client none none (.handshake fault) ∧ client.received = []
  have ended : Ended (follow own course) := by
    -- Once refused, the session keeps what it was refused for.
    apply follow_of_read _ _ _ rd
    · intro client rcv rd
      have whole : Preamble.read client.source = (.failed fault, (Preamble.read client.source).2) := Prod.ext rd rfl
      rw [greet, whole]
      exact ⟨_, rfl, rcv⟩
    · rintro s e ⟨client, rfl, rcv⟩
      exact ⟨client, rfl, rcv⟩
    · rintro s ⟨client, rfl, rcv⟩
      exact ⟨client, rfl, rcv⟩
  obtain ⟨client, eq, rcv⟩ := ended
  rw [eq]
  exact ⟨rfl, rfl, rcv, rfl⟩

/-! ## A session that has dialed -/

lemma noLoop_of_undialed (undialed : s.dials = []) : NoLoop s := by
  intro dialed
  exact absurd undialed dialed

lemma noLoop_greet (own : String) (client : Endpoint) : NoLoop (greet own client) := by
  simp only [greet]
  split
  case h_1 => exact noLoop_of_undialed rfl
  case h_2 => exact noLoop_of_undialed rfl
  case h_3 =>
    simp only [dial]
    split
    case isTrue => exact noLoop_of_undialed rfl
    case isFalse =>
      intro _ target eq
      cases eq

lemma NoLoop.react (nl : NoLoop s) (e : Happening) : NoLoop (s.react own e.1 e.2) := by
  obtain ⟨side, event⟩ := e
  cases s with
  | refused => exact nl
  | greeting client =>
    cases side with
    | client => exact noLoop_greet own _
    | upstream => exact nl
  | dialing client dialed =>
    intro _ target eq
    cases side <;> cases eq
  | relaying dialed relay =>
    intro _ target eq
    exact Relay.not_early eq (Failure.early_loopback target)

lemma NoLoop.answer (nl : NoLoop s) (reach : Reach) (peer : Endpoint) : NoLoop (s.answer reach peer) := by
  cases s with
  | greeting => exact nl
  | refused => exact nl
  | relaying => exact nl
  | dialing client dialed =>
    intro _ target eq
    cases reach with
    | refused => cases eq
    | silent => cases eq
    | connected =>
      simp only [Inbound.answer, connect] at eq
      split at eq
      case h_1 => cases eq
      case h_2 => exact Relay.not_early eq (Failure.early_loopback target)

lemma noLoop_follow (own : String) (course : Course) : NoLoop (follow own course) := by
  have kept (s : Inbound) (e : Happening) (nl : NoLoop s) : NoLoop (s.react own e.1 e.2) := nl.react e
  have early := after_of_kept kept (noLoop_greet own course.client) course.early
  exact after_of_kept kept (early.answer course.reach course.peer) course.later

/-! ## The own address -/

/-- What the first read gets decides the answer. -/
lemma read_of_firstChunk {course : Course} {chunk : Bytes} (first : course.FirstChunk chunk) :
    (Preamble.read course.fromClient).1 = Preamble.answerOf chunk := by
  have rd : course.fromClient.read Target.maxBytes =
      (.bytes chunk, (course.fromClient.read Target.maxBytes).2) := Prod.ext first rfl
  rw [Preamble.read, rd, Preamble.answerOf]
  dsimp only
  cases Preamble.ofChunk chunk <;> rfl

lemma read_of_valid {course : Course} (first : course.FirstChunk (bytesOf target))
    (valid : Target.fault? target = none) : (Preamble.read course.fromClient).1 = .arrived target := by
  rw [read_of_firstChunk first]
  exact Preamble.answerOf_eq_arrived_iff.mpr ⟨rfl, valid⟩

lemma read_of_fault {course : Course} {fault : Target.Fault} (first : course.FirstChunk (bytesOf target))
    (bad : Target.fault? target = some fault) (ne : target ≠ "") :
    (Preamble.read course.fromClient).1 = .failed (.target target fault) := by
  have some : bytesOf target ≠ [] := by
    intro nil
    apply ne
    rw [← String.utf8ByteSize_eq_zero_iff, ← length_bytesOf, nil]
    rfl
  have text : Text.ofUtf8? (bytesOf target) = .some target := Text.ofUtf8?_eq_some_iff.mpr rfl
  rw [read_of_firstChunk first]
  simp only [Preamble.answerOf, Preamble.ofChunk, if_neg some, text, bad]

/-- A session waits for a preamble, has refused one, or has decided about the target in it. -/
inductive Told (own : String) (course : Course) : Prop where
  | nothing :
    (∃ client, follow own course = .greeting client) →
    Told own course
  | fault {fault : HandshakeFault} :
    Refused (.handshake fault) (follow own course) →
    Told own course
  | target {target : String} :
    course.FirstChunk (bytesOf target) →
    Target.fault? target = none →
    Decided own target (follow own course) →
    Told own course

lemma told (own : String) (course : Course) : Told own course := by
  cases first : (Preamble.read course.fromClient).1 with
  | waits =>
    obtain ⟨nil, -⟩ := nil_of_waits (Prod.ext first rfl)
    exact .nothing (follow_of_nil nil)
  | failed fault => exact .fault (refused_follow first)
  | arrived target =>
    obtain ⟨rd, valid⟩ := read_of_arrived (Prod.ext first rfl)
    exact .target (congrArg Prod.fst rd) valid (decided_follow first)

/-- A session that ends for a loop has read the text of the own address, and that is a target. -/
lemma own_of_loopback {course : Course} (ended : (follow own course).result? = some (.error (.loopback target))) :
    target = own ∧ course.FirstChunk (bytesOf own) ∧ Target.fault? own = none ∧
      Refuses target (follow own course) := by
  cases told own course with
  | nothing waiting =>
    obtain ⟨client, eq⟩ := waiting
    rw [eq] at ended
    cases ended
  | fault refused =>
    rw [refused.result] at ended
    cases ended
  | @target taken first valid dc =>
    by_cases same : taken = own
    · have refuses := dc.refuses same
      -- The failure names the target that was refused.
      have result := refuses.result
      rw [ended] at result
      cases result
      subst same
      exact ⟨rfl, first, valid, refuses⟩
    · have dialed : (follow own course).dials ≠ [] := by
        rw [dc.dials same]
        exact List.cons_ne_nil _ _
      exact absurd ended (noLoop_follow own course dialed target)

lemma own_not_mem_dials (own : String) (course : Course) : own ∉ (follow own course).dials := by
  cases told own course with
  | nothing waiting =>
    obtain ⟨client, eq⟩ := waiting
    rw [eq]
    exact List.not_mem_nil
  | fault refused =>
    rw [refused.dials]
    exact List.not_mem_nil
  | @target taken _ _ dc =>
    by_cases same : taken = own
    · rw [(dc.refuses same).dials]
      exact List.not_mem_nil
    · rw [dc.dials same, List.mem_singleton]
      exact Ne.symm same

/-- How an inbound session treats the text of the own internal address, and every other target. -/
structure Guards (plan : Plan) (course : Course) (s : Inbound) : Prop where
  /-- It is refused for a loop exactly if the first chunk is the text of the own address, and that an IPv4 address. -/
  loop_iff : (∃ target, s.result? = some (.error (.loopback target))) ↔
    course.FirstChunk (bytesOf plan.internalAddress.toText) ∧ ∃ ip, plan.bindIp = .v4 ip
  /-- Then it says that text, and nothing was dialed or written. -/
  loop : ∀ target, s.result? = some (.error (.loopback target)) →
    target = plan.internalAddress.toText ∧ Refused (.loopback target) s
  /-- An own IPv6 address is refused as well, for its host. -/
  ipv6 : ∀ ip, plan.bindIp = .v6 ip →
    (∀ target, s.result? ≠ some (.error (.loopback target))) ∧
    (course.FirstChunk (bytesOf plan.internalAddress.toText) →
      Refused (.handshake (.target plan.internalAddress.toText .badHost)) s)
  not_dialed : plan.internalAddress.toText ∉ s.dials
  dialed : ∀ target, course.FirstChunk (bytesOf target) → Target.fault? target = none →
    target ≠ plan.internalAddress.toText → s.dials = [target]

lemma Refuses.refused (rf : Refuses target s) : Refused (.loopback target) s :=
  ⟨rf.result, rf.dials, rf.toClient, rf.upstream⟩

lemma fault?_of_v4 {plan : Plan} {ip : Ipv4} (bind : plan.bindIp = .v4 ip) :
    Target.fault? plan.internalAddress.toText = none := by
  rw [Plan.internalAddress, bind]
  exact SocketAddress.fault?_toText_v4 ip plan.internalPort

lemma fault?_of_v6 {plan : Plan} {ip : Ipv6} (bind : plan.bindIp = .v6 ip) :
    Target.fault? plan.internalAddress.toText = some .badHost := by
  rw [Plan.internalAddress, bind]
  exact SocketAddress.fault?_toText_v6 ip plan.internalPort

/-- Whatever the own address is, and whatever comes from outside, a session is refused for a loop exactly if its first
chunk is the text of an own IPv4 address; it never dials the own address, and every other target once. -/
theorem guards_own_address (plan : Plan) (course : Course) :
    Guards plan course (follow plan.internalAddress.toText course) where
  loop_iff := by
    constructor
    · intro ⟨target, ended⟩
      obtain ⟨-, first, valid, -⟩ := own_of_loopback ended
      refine ⟨first, ?_⟩
      cases bind : plan.bindIp with
      | v4 ip => exact ⟨ip, rfl⟩
      | v6 ip =>
        rw [fault?_of_v6 bind] at valid
        cases valid
    · intro ⟨first, ip, bind⟩
      have ar := read_of_valid first (fault?_of_v4 bind)
      have dc : Decided plan.internalAddress.toText plan.internalAddress.toText _ := decided_follow ar
      exact ⟨_, (dc.refuses rfl).result⟩
  loop := by
    intro target ended
    obtain ⟨same, -, -, refuses⟩ := own_of_loopback ended
    exact ⟨same, refuses.refused⟩
  ipv6 := by
    intro ip bind
    have bad := fault?_of_v6 bind
    constructor
    · intro target ended
      obtain ⟨-, -, valid, -⟩ := own_of_loopback ended
      rw [bad] at valid
      cases valid
    · intro first
      have ne : plan.internalAddress.toText ≠ "" := by
        intro empty
        rw [empty] at bad
        revert bad
        decide
      exact refused_follow (read_of_fault first bad ne)
  not_dialed := own_not_mem_dials _ course
  dialed := by
    intro target first valid other
    exact (decided_follow (read_of_valid first valid)).dials other

end Inbound

end MeshProxy
