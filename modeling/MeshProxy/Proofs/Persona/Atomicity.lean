import MeshProxy.Proofs.Persona.Inbound.Safety
import MeshProxy.Proofs.Persona.Outbound.FailClosed
import MeshProxy.Proofs.Relay.Ending

/-!
# Failing before the relay undoes a session

A session of either persona holds its streams as long as it runs. If it fails before it relays, it is `Undone` in the
same step: the streams are given up, nothing of the client has gone anywhere but a preamble into a dial, and from then on
nothing changes. What a client can have received by then is nothing, or the rendezvous alone if it took that and failed to
flush it.

Either persona has one invariant for this, `Kept`, which goes through all its phases: a session that waits holds streams
that nothing was written to but the preamble, one that is refused is undone, and one that relays holds its streams as long
as the relay runs. `failure_is_atomic` reads the result off it.
-/

namespace MeshProxy

open Relay (Side Happening arrivals arrivalsOf)

/-- The failure of a dial, of a handshake, or for a loop: all that can happen before a relay. -/
def Failure.Early (failure : Failure) : Prop := failure.kind ∈ ["dial", "handshake", "loopback"]

lemma Failure.early_dial (target : String) (cause : IoFault) : (Failure.dial target cause).Early := by
  simp [Early, kind]

lemma Failure.early_handshake (fault : HandshakeFault) : (Failure.handshake fault).Early := by
  simp [Early, kind]

lemma Failure.early_loopback (target : String) : (Failure.loopback target).Early := by
  simp [Early, kind]

/-- A stream that is neither shut nor given up. -/
structure Endpoint.Held (e : Endpoint) : Prop where
  dropped : e.dropped = false
  shut : e.shut = false

lemma Endpoint.Held.apply {e : Endpoint} (held : e.Held) (event : StreamEvent) : (e.apply event).Held := by
  obtain ⟨dropped, shut⟩ := held
  cases event <;> exact ⟨dropped, shut⟩

lemma Endpoint.Held.hear {e : Endpoint} (held : e.Held) (side : Side) (h : Happening) :
    (e.hear side h).Held := by
  simp only [Endpoint.hear]
  split
  · exact held.apply h.2
  · exact held

lemma Endpoint.Held.after {e : Endpoint} (held : e.Held) (side : Side) (es : List Happening) :
    (e.after side es).Held := by
  induction es generalizing e with
  | nil => exact held
  | cons h es ih => exact ih (held.hear side h)

/-- Both streams of a session are given up, and the far side of the upstream notices. -/
structure Released (client : Endpoint) (upstream : Option Endpoint) (farEnd : FarEnd) : Prop where
  client : client.dropped = true
  upstream : ∀ e, upstream = some e → e.dropped = true
  far : farEnd ≠ .open

lemma FarEnd.ofDropped_ne_open (e : Endpoint) : FarEnd.ofDropped e ≠ .open := by
  simp only [ofDropped]
  split <;> nofun

lemma FarEnd.ofDroppedTls_ne_open (e : Endpoint) : FarEnd.ofDroppedTls e ≠ .open := by
  simp only [ofDroppedTls]
  split
  · nofun
  · split <;> nofun

namespace Relay

variable {r : Relay}

/-- A relay holds its streams as long as it runs. -/
def Holds (r : Relay) : Prop := r.ending = none → ∀ side, (r.endpoint side).Held

lemma holds_settle (run : r.ending = none) (held : ∀ side, (r.endpoint side).Held) : r.settle.Holds := by
  have it : r.Intact := fun side => ⟨(held side).dropped, (held side).shut⟩
  intro run' side
  obtain ⟨dropped, shut⟩ := (it.settle run (due_eq_none run run')).1 side
  exact ⟨dropped, shut⟩

lemma holds_start {client upstream : Endpoint} (ch : client.Held) (uh : upstream.Held) :
    (start client upstream).Holds := by
  apply holds_settle rfl
  intro side
  cases side
  · exact ch
  · exact uh

lemma Holds.step (hd : r.Holds) (e : Happening) : (r.step e.1 e.2).Holds := by
  cases en : r.ending with
  | some x => rwa [step_of_ended en]
  | none =>
    have held := hd en
    rw [step_of_running en]
    apply holds_settle (by rw [ending_meet, en])
    obtain ⟨place, event⟩ := e
    intro side
    cases place <;> cases side
    · exact (held .client).apply event
    · exact held .upstream
    · exact held .client
    · exact (held .upstream).apply event

/-- A relay that fails does not fail early. -/
lemma not_early {failure : Failure} (eq : r.result? = some (.error failure)) : ¬ failure.Early := by
  simp only [result?] at eq
  cases en : r.ending with
  | none => simp [en] at eq
  | some x =>
    obtain ⟨d, result⟩ := x
    cases result with
    | ok => simp [en] at eq
    | error e =>
      simp only [en, Option.map_some, Option.some.injEq, Except.error.injEq] at eq
      subst eq
      simp [Failure.Early, Failure.kind]

end Relay

/-- A handshake step that fails has been refused by the writer, or has failed to flush all that was written. -/
lemma Sink.send_cases {sink : Sink} {bytes : Bytes} {onWrite onFlush : IoFault → HandshakeFault}
    {fault : HandshakeFault} (no : (sink.send bytes onWrite onFlush).fault = some fault) :
    (¬ sink.Fits bytes ∧ ∃ cause, fault = onWrite cause) ∨
      (sink.Fits bytes ∧ ∃ cause, fault = onFlush cause) := by
  simp only [send] at no
  split at no
  case h_1 refusal ref =>
    refine .inl ⟨by simp [← refusal_writeAll, ref], refusal.cause, ?_⟩
    exact (Option.some.inj no).symm
  case h_2 ref =>
    obtain ⟨cause, -, eq⟩ := Option.map_eq_some_iff.mp no
    exact .inr ⟨refusal_writeAll.mp ref, cause, eq.symm⟩

/-- A preamble that cannot be read is not a rendezvous that cannot be flushed. -/
lemma Preamble.ne_flush_of_failed {source rest : Source} {fault : HandshakeFault}
    (rd : read source = (.failed fault, rest)) (cause : IoFault) : fault ≠ .flushRendezvous cause := by
  rintro rfl
  simp only [read] at rd
  split at rd
  case h_1 => cases rd
  case h_2 => cases rd
  case h_3 chunk _ _ =>
    split at rd
    case h_2 => cases rd
    case h_1 no =>
      cases rd
      simp only [ofChunk] at no
      split at no
      · cases no
      · split at no
        · cases no
        · split at no <;> cases no

/-- Whatever is read as a preamble, a single bounded read is made for it. -/
lemma Preamble.snd_read (source : Source) :
    (read source).2 = (source.read Target.maxBytes).2 := by
  simp only [read]
  split
  case h_1 rd => rw [rd]
  case h_2 rd => rw [rd]
  case h_3 rd => split <;> rw [rd]

/-! ## Inbound sessions -/

namespace Inbound

/-- What the client of a session has received that failed before it relayed; `sent` is how the rendezvous was sent, if
it was. -/
inductive Replied (sent : Sent) (client : Endpoint) : Failure → Prop where
  | nothing {failure : Failure} :
    client.received = [] →
    (∀ cause, failure ≠ .handshake (.flushRendezvous cause)) →
    Replied sent client failure
  /-- The client took the rendezvous and could not flush it. -/
  | rendezvous {cause : IoFault} :
    sent.written.accepted = [Rendezvous.byte] →
    sent.fault = some (.flushRendezvous cause) →
    client.received = [Rendezvous.byte] →
    Replied sent client (.handshake (.flushRendezvous cause))

/-- What is left of a session that failed before it relayed. -/
structure Undone (sent : Sent) (fromClient : Source) (client : Endpoint) (dialed : Option String)
    (upstream : Option Endpoint) (failure : Failure) : Prop where
  early : failure.Early
  client_dropped : client.dropped = true
  upstream_dropped : ∀ e, upstream = some e → e.dropped = true
  replied : Replied sent client failure
  toUpstream : ∀ e, upstream = some e → e.received = []
  dialed : ∀ target, dialed = some target →
    (fromClient.read Target.maxBytes).1 = .bytes (bytesOf target)
  /-- A single read was made from the client. -/
  unread : fromClient ≠ [] ∧ client.source <+: (fromClient.read Target.maxBytes).2

/-- The invariant of a session; `heard` is the stream of the client if nothing were read from it. -/
inductive Kept (own : String) (sent : Sent) (heard : Endpoint) : Inbound → Prop where
  | greeting :
    heard.source = [] →
    Kept own sent heard (.greeting heard)
  | dialing {target : String} {rest : Source} :
    Taken own heard.source target rest →
    Kept own sent heard (.dialing { heard with source := rest } target)
  | refused {client : Endpoint} {dialed : Option String} {upstream : Option Endpoint} {failure : Failure} :
    Undone sent heard.source client dialed upstream failure →
    Kept own sent heard (.refused client dialed upstream failure)
  | relaying {target : String} {relay : Relay} :
    relay.Holds →
    Kept own sent heard (.relaying target relay)

variable {own target : String} {sent : Sent} {heard : Endpoint} {fromClient rest : Source} {s : Inbound}

lemma Taken.ne_nil (tk : Taken own fromClient target rest) : fromClient ≠ [] := by
  rintro rfl
  cases tk.read

/-- What the client supplies later is left behind the one read. -/
lemma Undone.append {client : Endpoint} {dialed : Option String} {upstream : Option Endpoint}
    {failure : Failure} (un : Undone sent fromClient client dialed upstream failure) (more : Source) :
    Undone sent (fromClient ++ more) client dialed upstream failure := by
  obtain ⟨ne, pre⟩ := un.unread
  have later : (fromClient ++ more).read Target.maxBytes =
      ((fromClient.read Target.maxBytes).1, (fromClient.read Target.maxBytes).2 ++ more) :=
    Source.read_append ne more
  refine { un with dialed := ?_, unread := ⟨by simp [ne], ?_⟩ }
  · rw [later]
    exact un.dialed
  · rw [later]
    exact pre.trans (List.prefix_append _ _)

/-- A client that has received nothing is given up before there is an upstream. -/
lemma undone_of_unconnected {client : Endpoint} {dialed : Option String} {failure : Failure} (early : failure.Early)
    (rcv : client.received = []) (other : ∀ cause, failure ≠ .handshake (.flushRendezvous cause))
    (from_read : ∀ target, dialed = some target → (fromClient.read Target.maxBytes).1 = .bytes (bytesOf target))
    (ne : fromClient ≠ []) (unread : client.source <+: (fromClient.read Target.maxBytes).2) :
    Undone sent fromClient client.drop dialed none failure where
  early := early
  client_dropped := rfl
  upstream_dropped := by rintro _ ⟨⟩
  replied := .nothing rcv other
  toUpstream := by rintro _ ⟨⟩
  dialed := from_read
  unread := ⟨ne, unread⟩

lemma kept_greet (own : String) (sent : Sent) (rcv : heard.received = []) :
    Kept own sent heard (greet own heard) := by
  have ne {answer : Awaited String} {rest : Source} (rd : Preamble.read heard.source = (answer, rest))
      (decided : answer ≠ .waits) : heard.source ≠ [] := by
    intro nil
    rw [nil] at rd
    cases rd
    exact decided rfl
  have unread {answer : Awaited String} {rest : Source} (rd : Preamble.read heard.source = (answer, rest)) :
      rest <+: (heard.source.read Target.maxBytes).2 := by
    rw [← Preamble.snd_read, rd]
  simp only [greet]
  split
  case h_1 rest wt =>
    obtain ⟨src, rfl⟩ := nil_of_waits wt
    rw [← src]
    exact .greeting src
  case h_2 fault rest rd =>
    refine .refused (undone_of_unconnected (Failure.early_handshake fault) rcv ?_ (by rintro _ ⟨⟩)
      (ne rd (by rintro ⟨⟩)) (unread rd))
    intro cause eq
    cases eq
    exact Preamble.ne_flush_of_failed rd cause rfl
  case h_3 target rest ar =>
    obtain ⟨rd, valid⟩ := read_of_arrived ar
    simp only [dial]
    split
    case isFalse other => exact .dialing ⟨rd, valid, other⟩
    case isTrue =>
      exact .refused (undone_of_unconnected (Failure.early_loopback target) rcv (by rintro _ ⟨⟩) (by rintro _ ⟨⟩)
        (ne ar (by rintro ⟨⟩)) (unread ar))

lemma kept_connect {client peer : Endpoint} (tk : Taken own heard.source target client.source)
    (rcv : client.received = []) (held : client.Held) (fresh : peer.received = []) (ph : peer.Held) :
    Kept own (Rendezvous.send client.sink) heard (connect client peer target) := by
  simp only [connect]
  split
  case h_2 ok => exact .relaying (Relay.holds_start ⟨held.dropped, held.shut⟩ ph)
  case h_1 fault no =>
    have unread : client.source <+: (heard.source.read Target.maxBytes).2 := by
      rw [tk.read]
    refine .refused
      { early := Failure.early_handshake fault
        client_dropped := rfl
        upstream_dropped := by rintro _ ⟨⟩; rfl
        replied := ?_
        toUpstream := by rintro _ ⟨⟩; exact fresh
        dialed := by rintro _ ⟨⟩; rw [tk.read]
        unread := ⟨tk.ne_nil, unread⟩ }
    have accepted : (Rendezvous.send client.sink).written.accepted = client.sink.take [Rendezvous.byte] :=
      Sink.accepted_send _ _ _ _
    rcases Sink.send_cases no with ⟨nf, cause, rfl⟩ | ⟨fits, cause, rfl⟩
    · -- A writer without room for one byte has room for none.
      obtain ⟨n, -, lt, tk⟩ := Sink.exists_room_of_not_fits nf
      have zero : n = 0 := by simpa using lt
      refine .nothing ?_ (by rintro _ ⟨⟩)
      simp [Endpoint.absorb, Endpoint.drop, rcv, accepted, tk, zero]
    · rw [fits.take_eq] at accepted
      refine .rendezvous accepted no ?_
      simp [Endpoint.absorb, Endpoint.drop, rcv, accepted]

lemma Kept.react (kp : Kept own sent heard s) (rcv : heard.received = []) (e : Happening) :
    Kept own sent (heard.hear .client e) (s.react own e.1 e.2) := by
  have src := heard.source_hear .client e
  cases kp with
  | refused un =>
    refine .refused ?_
    rw [src]
    exact un.append _
  | relaying holds => exact .relaying (holds.step e)
  | greeting nil =>
    obtain ⟨side, event⟩ := e
    cases side with
    | client => exact kept_greet own sent (by simp [rcv])
    | upstream => exact .greeting nil
  | @dialing target rest tk =>
    obtain ⟨side, event⟩ := e
    cases side with
    | upstream => exact .dialing tk
    | client =>
      have tk := tk.append (arrivalsOf event)
      rw [← Relay.source_apply] at tk
      simp only [Inbound.react, Endpoint.apply_source]
      exact .dialing tk

lemma Kept.after (kp : Kept own sent heard s) (rcv : heard.received = []) (es : List Happening) :
    Kept own sent (heard.after .client es) (s.after own es) := by
  induction es generalizing s heard with
  | nil => exact kp
  | cons e es ih => exact ih (kp.react rcv e) (by simp [rcv])

lemma Kept.answer {peer : Endpoint} (kp : Kept own (Rendezvous.send heard.sink) heard s)
    (rcv : heard.received = []) (held : heard.Held) (fresh : peer.received = []) (ph : peer.Held)
    (reach : Reach) : Kept own (Rendezvous.send heard.sink) heard (s.answer reach peer) := by
  cases kp with
  | greeting nil => exact .greeting nil
  | refused un => exact .refused un
  | relaying holds => exact .relaying holds
  | @dialing target rest tk =>
    cases reach with
    | silent => exact .dialing tk
    | connected far =>
      have tk : Taken own heard.source target { heard with source := rest }.source := tk
      exact kept_connect tk rcv ⟨held.dropped, held.shut⟩ fresh ph
    | refused cause =>
      refine .refused (undone_of_unconnected (Failure.early_dial target cause) rcv (by rintro _ ⟨⟩) ?_ tk.ne_nil ?_)
      · rintro _ ⟨⟩
        rw [tk.read]
      · rw [tk.read]

/-- The invariant holds in every state that a course leads to. -/
lemma kept_follow (own : String) (course : Course) :
    ∃ heard : Endpoint, heard.source = course.fromClient ∧ heard.Held ∧
      Kept own (rendezvous course) heard (follow own course) := by
  have rcv : (course.client.after .client course.early).received = [] := Endpoint.received_after _ _ _
  have fresh : course.peer.received = [] := rfl
  have ch : course.client.Held := ⟨rfl, rfl⟩
  have ph : course.peer.Held := ⟨rfl, rfl⟩
  have held := ch.after .client course.early
  have greeted : Kept own (rendezvous course) course.client (greet own course.client) := kept_greet own _ rfl
  have answered := (greeted.after rfl course.early).answer rcv held fresh ph course.reach
  refine ⟨_, ?_, held.after .client course.later, answered.after rcv course.later⟩
  rw [Endpoint.source_after, Endpoint.source_after]
  rfl

/-- What a session has done that failed before it relayed. -/
structure Abandons (course : Course) (s : Inbound) (failure : Failure) : Prop where
  released : Released s.client s.upstream? s.farEnd
  not_relaying : ∀ target relay, s ≠ .relaying target relay
  /-- Of the client's bytes, the first chunk has gone into the dial, if there was one, and no other was even read. -/
  one_dial : s.dials.length ≤ 1
  dials : ∀ target ∈ s.dials, (course.fromClient.read Target.maxBytes).1 = .bytes (bytesOf target)
  unread : s.client.source <+: (course.fromClient.read Target.maxBytes).2
  toUpstream : s.toUpstream = []
  replied : Replied (rendezvous course) s.client failure
  /-- Nothing makes a difference any more, so there is no other dial either. -/
  stays : (∀ own es, s.after own es = s) ∧ ∀ reach peer, s.answer reach peer = s

/-- A session holds its streams until it is over, and failing before it relays undoes it. -/
structure FailsWhole (course : Course) (s : Inbound) : Prop where
  held : s.result? = none → s.client.Held ∧ ∀ e, s.upstream? = some e → e.Held
  abandons : ∀ failure, s.result? = some (.error failure) → failure.Early → s.Abandons course failure

lemma after_of_refused {client : Endpoint} {dialed : Option String} {upstream : Option Endpoint}
    {failure : Failure} (own : String) (es : List Happening) :
    (refused client dialed upstream failure).after own es = .refused client dialed upstream failure := by
  induction es with
  | nil => rfl
  | cons e es ih => exact ih

lemma Undone.abandons {course : Course} {client : Endpoint} {dialed : Option String}
    {upstream : Option Endpoint} {failure : Failure}
    (un : Undone (rendezvous course) course.fromClient client dialed upstream failure) :
    (refused client dialed upstream failure).Abandons course failure where
  released := by
    refine ⟨un.client_dropped, un.upstream_dropped, ?_⟩
    cases upstream with
    | none => nofun
    | some e => exact FarEnd.ofDropped_ne_open e
  not_relaying := by rintro _ _ ⟨⟩
  one_dial := by cases dialed <;> simp [Inbound.dials]
  dials target mem := un.dialed target (Option.mem_toList.mp mem)
  unread := un.unread.2
  toUpstream := by
    cases up : upstream with
    | none => rfl
    | some e => exact un.toUpstream e up
  replied := un.replied
  stays := ⟨after_of_refused, fun _ _ => rfl⟩

lemma fails_whole (own : String) (course : Course) : FailsWhole course (follow own course) := by
  obtain ⟨heard, src, held, kp⟩ := kept_follow own course
  generalize follow own course = s at kp
  cases kp with
  | greeting => exact ⟨fun _ => ⟨held, by rintro _ ⟨⟩⟩, by rintro _ ⟨⟩⟩
  | dialing => exact ⟨fun _ => ⟨⟨held.dropped, held.shut⟩, by rintro _ ⟨⟩⟩, by rintro _ ⟨⟩⟩
  | refused un =>
    rw [src] at un
    refine ⟨by rintro ⟨⟩, ?_⟩
    rintro _ ⟨⟩ _
    exact un.abandons
  | relaying holds =>
    refine ⟨fun run => ?_, fun failure eq early => absurd early (Relay.not_early eq)⟩
    have held := holds (Option.map_eq_none_iff.mp run)
    refine ⟨held .client, ?_⟩
    rintro _ ⟨⟩
    exact held .upstream

end Inbound

/-! ## Outbound sessions -/

namespace Outbound

/-- What is left of a session that failed before it relayed. -/
structure Refused.Undone (target : String) (fromClient : Source) (refused : Refused) : Prop where
  early : refused.failure.Early
  client_dropped : refused.client.dropped = true
  upstream_dropped : ∀ e, refused.upstream = some e → e.dropped = true
  toClient : refused.client.received = []
  toUpstream : ∀ e, refused.upstream = some e → e.received <+: bytesOf target
  unread : refused.client.source <+: fromClient

namespace Stage

/-- A client that is not read, and a stream that it has not been written to. -/
structure Waits (fromClient : Source) (client : Endpoint) : Prop where
  held : client.Held
  unread : client.source = fromClient
  received : client.received = []

/-- The invariant of a session. -/
inductive Kept (target : String) (fromClient : Source) : Stage → Prop where
  | dialing {client : Endpoint} :
    Waits fromClient client →
    Kept target fromClient (.dialing client)
  | securing {client upstream : Endpoint} {tls : Tls.Client} :
    Waits fromClient client →
    upstream.Held →
    upstream.received = [] →
    Kept target fromClient (.securing client upstream tls)
  | agreeing {client upstream : Endpoint} :
    Waits fromClient client →
    upstream.Held →
    upstream.received = [] →
    Kept target fromClient (.agreeing client upstream)
  | greeting {client upstream : Endpoint} :
    Waits fromClient client →
    upstream.Held →
    upstream.received <+: bytesOf target →
    Kept target fromClient (.greeting client upstream)
  | refused {refused : Refused} :
    refused.Undone target fromClient →
    Kept target fromClient (.refused refused)
  | relaying {relay : Relay} :
    relay.Holds →
    Kept target fromClient (.relaying relay)

variable {target host : String} {fromClient : Source} {client upstream : Endpoint} {s : Outbound}

lemma Waits.step (wt : Waits fromClient client) (event : StreamEvent) :
    Waits (fromClient ++ arrivals .client [(.client, event)]) (client.apply event) where
  held := wt.held.apply event
  unread := by simp [Relay.source_apply, wt.unread, arrivals]
  received := by rw [Relay.received_apply, wt.received]

/-- Giving a waiting client up, with whatever upstream there is, undoes the session. -/
lemma Waits.undone (wt : Waits fromClient client) {refused : Refused} (eq : refused.client = client.drop)
    (early : refused.failure.Early) (dropped : ∀ e, refused.upstream = some e → e.dropped = true)
    (sent : ∀ e, refused.upstream = some e → e.received <+: bytesOf target) :
    refused.Undone target fromClient where
  early := early
  client_dropped := by rw [eq]; rfl
  upstream_dropped := dropped
  toClient := by rw [eq]; exact wt.received
  toUpstream := sent
  unread := by rw [eq]; exact wt.unread ▸ List.prefix_rfl

lemma kept_await (wt : Waits fromClient client) (uh : upstream.Held)
    (sent : upstream.received <+: bytesOf target) : Kept target fromClient (await client upstream) := by
  simp only [await]
  split
  case h_1 => exact .greeting wt ⟨uh.dropped, uh.shut⟩ sent
  case h_2 fault _ _ =>
    refine .refused (wt.undone rfl (Failure.early_handshake fault) ?_ ?_)
    · rintro _ ⟨⟩
      rfl
    · rintro _ ⟨⟩
      exact sent
  case h_3 => exact .relaying (Relay.holds_start wt.held ⟨uh.dropped, uh.shut⟩)

lemma kept_greet (wt : Waits fromClient client) (uh : upstream.Held) (fresh : upstream.received = []) :
    Kept target fromClient (greet client upstream target) := by
  have sent : (upstream.absorb (Preamble.send upstream.sink target).written).received <+: bytesOf target := by
    simpa [Endpoint.absorb, fresh] using Preamble.accepted_send upstream.sink target
  simp only [greet]
  split
  case h_2 => exact kept_await wt ⟨uh.dropped, uh.shut⟩ sent
  case h_1 fault _ =>
    refine .refused (wt.undone rfl (Failure.early_handshake fault) ?_ ?_)
    · rintro _ ⟨⟩
      rfl
    · rintro _ ⟨⟩
      exact sent

/-- A session that ends with an upstream that was sent nothing is undone. -/
lemma kept_of_silent (wt : Waits fromClient client) {refused : Refused} {upstream : Endpoint}
    (eq : refused.client = client.drop) (early : refused.failure.Early)
    (up : refused.upstream = some upstream.drop) (fresh : upstream.received = []) :
    Kept target fromClient (.refused refused) := by
  refine .refused (wt.undone eq early ?_ ?_)
  · rw [up]
    rintro _ ⟨⟩
    rfl
  · rw [up]
    rintro _ ⟨⟩
    rw [show upstream.drop.received = [] from fresh]
    exact List.nil_prefix

lemma kept_insecure (wt : Waits fromClient client) (fresh : upstream.received = []) (fault : Tls.Fault)
    (farFault : Option Tls.Fault) : Kept target fromClient (insecure client upstream host fault farFault) :=
  kept_of_silent wt rfl (Failure.early_dial _ _) rfl fresh

lemma kept_secure (wt : Waits fromClient client) (uh : upstream.Held) (fresh : upstream.received = [])
    (tls : Tls.Client) : Kept target fromClient (secure client upstream tls host) := by
  rcases secure_cases client upstream tls host with eq | ⟨refused, cause, rest, eq, given, up, failure⟩
  · rw [eq]
    exact .securing wt uh fresh
  · rw [eq]
    exact kept_of_silent wt given (failure ▸ Failure.early_dial host cause) up fresh

lemma kept_handshake (wt : Waits fromClient client) (uh : upstream.Held) (fresh : upstream.received = [])
    (policy : Tls.Policy) (far : Far) :
    Kept target fromClient (handshake client upstream policy far host) := by
  simp only [handshake]
  split
  case h_1 => exact kept_insecure wt fresh _ _
  case h_2 => exact kept_insecure wt fresh _ _
  case h_3 => exact kept_secure wt uh fresh _
  case h_4 => exact .agreeing wt uh fresh

lemma kept_conclude (wt : Waits fromClient client) (uh : upstream.Held) (fresh : upstream.received = [])
    (outcome : Tls.Outcome) : Kept target fromClient (conclude client upstream outcome host target) := by
  cases outcome with
  | agreed => exact kept_greet wt uh fresh
  | refusedByClient fault => exact kept_insecure wt fresh _ _
  | refusedByServer fault => exact kept_of_silent wt rfl (Failure.early_handshake _) rfl fresh
  | broken cause => exact kept_of_silent wt rfl (Failure.early_dial _ _) rfl fresh

lemma Kept.step (kp : s.stage.Kept target fromClient) (e : Happening) :
    (s.step e.1 e.2).stage.Kept target (fromClient ++ arrivals .client [e]) := by
  obtain ⟨plan, dest, dials, stage⟩ := s
  obtain ⟨side, event⟩ := e
  have still : arrivals .client [(.upstream, event)] = [] := rfl
  cases kp with
  | refused un => exact .refused { un with unread := un.unread.trans (List.prefix_append _ _) }
  | relaying holds => exact .relaying (holds.step (side, event))
  | dialing wt =>
    cases side with
    | client => exact .dialing (wt.step event)
    | upstream =>
      rw [still, List.append_nil]
      exact .dialing wt
  | securing wt uh fresh =>
    cases side with
    | client => exact .securing (wt.step event) uh fresh
    | upstream =>
      rw [still, List.append_nil]
      exact kept_secure wt (uh.apply event) (by rw [Relay.received_apply, fresh]) _
  | agreeing wt uh fresh =>
    cases side with
    | client => exact .agreeing (wt.step event) uh fresh
    | upstream =>
      rw [still, List.append_nil]
      exact .agreeing wt (uh.apply event) (by rw [Relay.received_apply, fresh])
  | greeting wt uh sent =>
    cases side with
    | client => exact .greeting (wt.step event) uh sent
    | upstream =>
      rw [still, List.append_nil]
      exact kept_await wt (uh.apply event) (by rwa [Relay.received_apply])

lemma Kept.meet (kp : s.stage.Kept s.target fromClient) (o : Occurrence) :
    (s.meet o).stage.Kept s.target (fromClient ++ supplied .client [o]) := by
  cases o with
  | happens e => exact kp.step e
  | concluded outcome =>
    rw [supplied_of_settles rfl, List.append_nil]
    obtain ⟨plan, dest, dials, stage⟩ := s
    cases stage with
    | agreeing client upstream =>
      cases kp with
      | agreeing wt uh fresh => exact kept_conclude wt uh fresh outcome
    | _ => exact kp
  | lapse =>
    rw [supplied_of_settles rfl, List.append_nil]
    obtain ⟨plan, dest, dials, stage⟩ := s
    cases stage with
    | securing client upstream tls =>
      cases kp with
      | securing wt uh fresh => exact kept_insecure wt fresh _ _
    | agreeing client upstream =>
      cases kp with
      | agreeing wt uh fresh => exact kept_insecure wt fresh _ _
    | _ => exact kp

lemma Kept.meetAll (kp : s.stage.Kept s.target fromClient) (os : List Occurrence) :
    (s.meetAll os).stage.Kept s.target (fromClient ++ supplied .client os) := by
  induction os generalizing s fromClient with
  | nil => simpa using kp
  | cons o os ih =>
    have next := kp.meet o
    have same : (s.meet o).target = s.target := target_meetAll s [o]
    rw [← same] at next ⊢
    rw [supplied_cons, ← List.append_assoc]
    exact ih next

end Stage

variable {plan : Plan} {dest : Destination} {s : Outbound}

lemma kept_answer (plan : Plan) (dest : Destination) {client peer : Endpoint} {fromClient : Source}
    (wt : Stage.Waits fromClient client) (ph : peer.Held) (fresh : peer.received = []) (reach : Reach) :
    ((dial plan dest client).answer reach peer).stage.Kept dest.toText fromClient := by
  cases reach with
  | silent => exact .dialing wt
  | refused cause => exact .refused (wt.undone rfl (Failure.early_dial _ _) (by rintro _ ⟨⟩) (by rintro _ ⟨⟩))
  | connected far =>
    simp only [dial, answer]
    split
    · exact Stage.kept_greet wt ph fresh
    · exact Stage.kept_of_silent wt rfl (Failure.early_handshake _) rfl (by exact fresh)
    · exact Stage.kept_handshake wt ph fresh _ _

/-- The invariant holds in every state that a course leads to, whatever the session meets then. -/
lemma kept_follow (plan : Plan) (dest : Destination) (course : Course) (os : List Occurrence) :
    ((follow plan dest course).meetAll os).stage.Kept dest.toText (ofClient course os) := by
  have ch : course.client.Held := ⟨rfl, rfl⟩
  have ph : course.peer.Held := ⟨rfl, rfl⟩
  have wt : Stage.Waits (course.reads ++ arrivals .client course.early)
      (course.client.after .client course.early) :=
    ⟨ch.after .client course.early, Endpoint.source_after _ _ _, Endpoint.received_after _ _ _⟩
  have target : (answered plan dest course).target = dest.toText := target_answer _ _ _
  have kp : (answered plan dest course).stage.Kept dest.toText _ := kept_answer plan dest wt ph rfl course.reach
  rw [← target] at kp ⊢
  have kp := kp.meetAll (met course os)
  rw [supplied_met, ← List.append_assoc] at kp
  rw [meetAll_follow]
  exact kp

/-- What a session has done that failed before it relayed. -/
structure Abandons (plan : Plan) (dest : Destination) (course : Course) (os : List Occurrence)
    (s : Outbound) : Prop where
  released : Released s.client s.upstream? s.farEnd
  not_relaying : ∀ relay, s.stage ≠ .relaying relay
  one_dial : s.dials = [(plan.nextHop dest).toText]
  /-- Nothing of the client was even read. -/
  unread : s.client.source <+: ofClient course os
  toUpstream : s.toUpstream <+: bytesOf dest.toText
  toClient : s.toClient = []
  /-- Nothing makes a difference any more, so there is no other dial either. -/
  stays : (∀ os, s.meetAll os = s) ∧ ∀ reach peer, s.answer reach peer = s

/-- A session holds its streams until it is over, and failing before it relays undoes it. -/
structure FailsWhole (plan : Plan) (dest : Destination) (course : Course) (os : List Occurrence)
    (s : Outbound) : Prop where
  held : s.result? = none → s.client.Held ∧ ∀ e, s.upstream? = some e → e.Held
  abandons : ∀ failure, s.result? = some (.error failure) → failure.Early →
    s.Abandons plan dest course os

lemma stays_of_refused {refused : Refused} (eq : s.stage = .refused refused) :
    (∀ os, s.meetAll os = s) ∧ ∀ reach peer, s.answer reach peer = s := by
  obtain ⟨plan, dest, dials, stage⟩ := s
  cases eq
  constructor
  · intro os
    refine meetAll_of_meet (fun t => t = _) ?_ rfl os
    rintro _ o rfl
    cases o <;> rfl
  · intro reach peer
    rfl

/-- What became of the upstream of a refused session is not that it stays open. -/
lemma farEnd_of_refused {refused : Refused} (eq : s.stage = .refused refused) : s.farEnd ≠ .open := by
  simp only [farEnd, eq]
  split
  · nofun
  · nofun
  · split
    · split
      · exact FarEnd.ofDroppedTls_ne_open _
      · exact FarEnd.ofDropped_ne_open _
    · exact FarEnd.ofDropped_ne_open _

lemma Refused.Undone.abandons {course : Course} {os : List Occurrence} {refused : Refused}
    (un : refused.Undone dest.toText (ofClient course os)) (eq : s.stage = .refused refused)
    (dials : s.dials = [(plan.nextHop dest).toText]) : s.Abandons plan dest course os := by
  have stays := stays_of_refused eq
  have far := farEnd_of_refused eq
  obtain ⟨plan', dest', dials', stage⟩ := s
  cases eq
  refine ⟨⟨un.client_dropped, un.upstream_dropped, far⟩, by rintro _ ⟨⟩, dials, un.unread, ?_, un.toClient, stays⟩
  cases up : refused.upstream with
  | none => simp [Outbound.toUpstream, upstream?, up]
  | some e => simpa [Outbound.toUpstream, upstream?, up] using un.toUpstream e up

lemma fails_whole (plan : Plan) (dest : Destination) (course : Course) (os : List Occurrence) :
    FailsWhole plan dest course os ((follow plan dest course).meetAll os) := by
  have kp := kept_follow plan dest course os
  have dials : ((follow plan dest course).meetAll os).dials = [(plan.nextHop dest).toText] := by
    rw [(hop_meetAll _ os).2, dials_follow]
  have both {client upstream : Endpoint} (wt : Stage.Waits (ofClient course os) client) (uh : upstream.Held) :
      client.Held ∧ ∀ e, some upstream = some e → e.Held := by
    refine ⟨wt.held, ?_⟩
    rintro _ ⟨⟩
    exact uh
  generalize (follow plan dest course).meetAll os = s at kp dials
  obtain ⟨plan', dest', dials', stage⟩ := s
  cases kp with
  | dialing wt => exact ⟨fun _ => ⟨wt.held, by rintro _ ⟨⟩⟩, by rintro _ ⟨⟩⟩
  | securing wt uh => exact ⟨fun _ => both wt uh, by rintro _ ⟨⟩⟩
  | agreeing wt uh => exact ⟨fun _ => both wt uh, by rintro _ ⟨⟩⟩
  | greeting wt uh => exact ⟨fun _ => both wt uh, by rintro _ ⟨⟩⟩
  | refused un => exact ⟨by rintro ⟨⟩, fun _ _ _ => un.abandons rfl dials⟩
  | relaying holds =>
    refine ⟨fun run => ?_, fun failure eq early => absurd early (Relay.not_early eq)⟩
    have held := holds (Option.map_eq_none_iff.mp run)
    refine ⟨held .client, ?_⟩
    rintro _ ⟨⟩
    exact held .upstream

end Outbound

/-- A session of either persona that fails before it relays is undone in that step, and for good. -/
theorem failure_is_atomic (plan : Plan) :
    (∀ course, Inbound.FailsWhole course (Inbound.follow plan.internalAddress.toText course)) ∧
      ∀ dest course os,
        Outbound.FailsWhole plan dest course os ((Outbound.follow plan dest course).meetAll os) :=
  ⟨Inbound.fails_whole _, Outbound.fails_whole plan⟩

/-- A client that takes the rendezvous and cannot flush it. -/
example :
    (Inbound.follow "127.0.0.1:18000" {
      reads := [.data (bytesOf "10.0.0.5:80")], sink := { flushFault := some (.system 104) }
      reach := .connected .plain }).toClient = [Rendezvous.byte] := by
  decide +kernel

end MeshProxy
