import MeshProxy.Persona.Inbound
import MeshProxy.Proofs.Handshake.Exchange
import MeshProxy.Proofs.Persona.Course

/-!
# The phases of an inbound session

Before its dial is answered, an inbound session is `Calling`: all it has done with its client is the one read that
takes the preamble (`Taken`), and that only if there was something to read. The answer ends the session, or it is
`Answered`: what follows then hangs on the rendezvous. Either is kept by every event (`Calling.react`,
`Answered.react`), and `answer_cases` says what an answer leads to.

The preamble is a single read, so what the client has sent behind it is left in its stream (`Taken.append`) and is what
the relay starts with.

A session whose dials are answered at once, as a setting says, follows a course as well (`exists_course`).
-/

namespace MeshProxy

open Relay (Side Happening arrivals arrivalsOf)

namespace Inbound

/-- What the upstream has received. -/
def toUpstream (s : Inbound) : Bytes := (s.upstream?.map (·.received)).getD []

/-- What the client has received. -/
def toClient (s : Inbound) : Bytes := s.client.received

/-- A session after all that happens on its streams. -/
def after (own : String) (s : Inbound) (es : List Happening) : Inbound :=
  es.foldl (fun s e => s.react own e.1 e.2) s

/-- The state that a course leads to. -/
def follow (own : String) (course : Course) : Inbound :=
  (((greet own course.client).after own course.early).answer course.reach course.peer).after own
    course.later

/-- The first read from a client takes a target that is not the own address. -/
structure Taken (own : String) (fromClient : Source) (target : String) (rest : Source) : Prop where
  /-- The bytes of the target are what one bounded read takes. -/
  read : fromClient.read Target.maxBytes = (.bytes (bytesOf target), rest)
  valid : Target.fault? target = none
  other : target ≠ own

/-- The dial is not answered yet; `heard` is the stream of the client if nothing were read from it. -/
inductive Calling (own : String) (heard : Endpoint) : Inbound → Prop where
  | greeting :
    heard.source = [] →
    Calling own heard (.greeting heard)
  | dialing {target : String} {rest : Source} :
    Taken own heard.source target rest →
    Calling own heard (.dialing { heard with source := rest } target)
  | rejected {client : Endpoint} {failure : Failure} :
    client.received = [] →
    Calling own heard (.refused client none none failure)

/-- The dial is answered; `sent` is how the rendezvous is sent if there is a connection. -/
inductive Answered (own : String) (reach : Reach) (sent : Sent) (fromClient fromPeer : Source) :
    Inbound → Prop where
  | unreached {client : Endpoint} {target : String} {rest : Source} {failure : Failure} :
    Taken own fromClient target rest →
    client.received = [] →
    Answered own reach sent fromClient fromPeer (.refused client (some target) none failure)
  | unsent {client upstream : Endpoint} {target : String} {rest : Source} {far : Far}
      {failure : Failure} :
    Taken own fromClient target rest →
    reach = .connected far →
    client.received <+: [Rendezvous.byte] →
    upstream.received = [] →
    Answered own reach sent fromClient fromPeer
      (.refused client (some target) (some upstream) failure)
  | relaying {relay : Relay} {target : String} {rest : Source} {far : Far} :
    Taken own fromClient target rest →
    reach = .connected far →
    sent.fault = none →
    relay.Faithful (Direction.each [] [Rendezvous.byte]) (Direction.each rest fromPeer) →
    Answered own reach sent fromClient fromPeer (.relaying target relay)

variable {own target : String} {heard : Endpoint} {reach : Reach} {sent : Sent}
  {fromClient fromPeer rest : Source}

/-- What the client sends behind the preamble is left for later. -/
lemma Taken.append (tk : Taken own fromClient target rest) (more : Source) :
    Taken own (fromClient ++ more) target (rest ++ more) := by
  have ne : fromClient ≠ [] := by
    rintro rfl
    cases tk.read
  refine ⟨?_, tk.valid, tk.other⟩
  -- The first read has had its answer; a stream that grows later does not make the chunk longer.
  rw [Source.read_append ne, tk.read]

/-- The data of the client are the preamble and what is left behind it. -/
lemma Taken.payload (tk : Taken own fromClient target rest) :
    fromClient.payload = bytesOf target ++ rest.payload :=
  Source.payload_of_read tk.read

/-- A preamble that has arrived is the chunk of a single read. -/
lemma read_of_arrived {source : Source} (ar : Preamble.read source = (.arrived target, rest)) :
    source.read Target.maxBytes = (.bytes (bytesOf target), rest) ∧ Target.fault? target = none := by
  simp only [Preamble.read] at ar
  split at ar
  case h_1 => cases ar
  case h_2 => cases ar
  case h_3 chunk _ rd =>
    split at ar
    case h_1 => cases ar
    case h_2 text ok =>
      cases ar
      obtain ⟨rfl, valid⟩ := Preamble.ofChunk_eq_ok ok
      exact ⟨rd, valid⟩

/-- Only an empty stream keeps a session waiting for the preamble. -/
lemma nil_of_waits {source : Source} (wt : Preamble.read source = (.waits, rest)) :
    source = [] ∧ rest = [] := by
  simp only [Preamble.read] at wt
  split at wt
  case h_1 rd =>
    cases wt
    exact Source.nil_of_read rd
  case h_2 => cases wt
  case h_3 => split at wt <;> cases wt

/-- Greeting a client is the first thing a session does, and has it calling. -/
lemma calling_greet (own : String) (rcv : heard.received = []) : Calling own heard (greet own heard) := by
  simp only [greet]
  split
  case h_1 rest wt =>
    obtain ⟨src, rfl⟩ := nil_of_waits wt
    rw [← src]
    exact .greeting src
  case h_2 => exact .rejected rcv
  case h_3 target rest ar =>
    obtain ⟨rd, valid⟩ := read_of_arrived ar
    simp only [dial]
    split
    case isTrue => exact .rejected rcv
    case isFalse ne => exact .dialing ⟨rd, valid, ne⟩

/-- What happens to a session that is calling leaves it so. -/
lemma Calling.react {s : Inbound} (cl : Calling own heard s) (rcv : heard.received = [])
    (e : Happening) : Calling own (heard.hear .client e) (s.react own e.1 e.2) := by
  obtain ⟨side, event⟩ := e
  cases side with
  | upstream => cases cl <;> simp only [Inbound.react, Endpoint.hear] <;> constructor <;> assumption
  | client =>
    cases cl with
    | greeting src => exact calling_greet own (by simp [rcv])
    | @dialing target rest tk =>
      have tk := tk.append (arrivalsOf event)
      rw [← Relay.source_apply] at tk
      simp only [Inbound.react, Endpoint.apply_source]
      exact .dialing tk
    | rejected none => exact .rejected none

/-- Whatever happens to a session that is calling leaves it so. -/
lemma Calling.after {s : Inbound} (cl : Calling own heard s) (rcv : heard.received = [])
    (es : List Happening) : Calling own (heard.after .client es) (s.after own es) := by
  induction es generalizing s heard with
  | nil => exact cl
  | cons e es ih => exact ih (cl.react rcv e) (by simp [rcv])

/-- What happens to a session that is answered leaves it so. -/
lemma Answered.react {s : Inbound} (an : Answered own reach sent fromClient fromPeer s)
    (e : Happening) :
    Answered own reach sent (fromClient ++ arrivals .client [e]) (fromPeer ++ arrivals .upstream [e])
      (s.react own e.1 e.2) := by
  cases an with
  | unreached tk none => exact .unreached (tk.append _) none
  | unsent tk conn part none => exact .unsent (tk.append _) conn part none
  | relaying tk conn ok fa =>
    have fa := fa.step e
    rw [Direction.each_append] at fa
    exact .relaying (tk.append _) conn ok fa

/-- Whatever happens to a session that is answered leaves it so. -/
lemma Answered.after {s : Inbound} (an : Answered own reach sent fromClient fromPeer s)
    (es : List Happening) :
    Answered own reach sent (fromClient ++ arrivals .client es) (fromPeer ++ arrivals .upstream es)
      (s.after own es) := by
  induction es generalizing s fromClient fromPeer with
  | nil => simpa [Inbound.after] using an
  | cons e es ih =>
    rw [Relay.arrivals_cons .client, Relay.arrivals_cons .upstream, ← List.append_assoc,
      ← List.append_assoc]
    exact ih (an.react e)

/-- Sending the rendezvous has a session answered, whether it is sent well or not. -/
lemma answered_connect {client peer : Endpoint} (tk : Taken own fromClient target client.source)
    (rcv : client.received = []) (fresh : peer.received = []) {far : Far}
    (conn : reach = .connected far) :
    Answered own reach (Rendezvous.send client.sink) fromClient peer.source
      (connect client peer target) := by
  simp only [connect]
  split
  case h_1 fault no =>
    refine .unsent tk conn ?_ fresh
    simpa [Endpoint.absorb, Endpoint.drop, rcv] using Rendezvous.accepted_send client.sink
  case h_2 ok =>
    have sent : (client.absorb (Rendezvous.send client.sink).written).received = [Rendezvous.byte] := by
      rw [Endpoint.absorb, rcv, (Rendezvous.fault_send ok).1]
      rfl
    refine .relaying tk conn ok (Relay.faithful_start ?_ ?_)
    · exact Direction.eq_each fresh sent
    · exact Direction.eq_each rfl rfl

/-- An answer to a session that is calling is heard or not. -/
lemma answer_cases {s : Inbound} {peer : Endpoint} (cl : Calling own heard s)
    (rcv : heard.received = []) (fresh : peer.received = []) (reach : Reach) :
    Calling own heard (s.answer reach peer) ∨
      Answered own reach (Rendezvous.send heard.sink) heard.source peer.source
        (s.answer reach peer) := by
  cases cl with
  | greeting src => exact .inl (.greeting src)
  | rejected none => exact .inl (.rejected none)
  | @dialing target rest tk =>
    have tk' : Taken own heard.source target { heard with source := rest }.source := tk
    cases reach with
    | refused cause => exact .inr (.unreached tk rcv)
    | silent => exact .inl (.dialing tk)
    | connected far => exact .inr (answered_connect tk' rcv fresh rfl)

/-! ## Dials that are answered at once -/

/-- A session that has nothing more to dial. -/
inductive Dialed : Inbound → Prop where
  | refused {client : Endpoint} {dialed : Option String} {upstream : Option Endpoint} {failure : Failure} :
    Dialed (.refused client dialed upstream failure)
  | relaying {target : String} {relay : Relay} : Dialed (.relaying target relay)

/-- An answer other than silence is the end of dialing. -/
lemma dialed_answer {reach : Reach} (ne : reach ≠ .silent) (client : Endpoint) (target : String) :
    Dialed ((dialing client target).answer reach) := by
  cases reach with
  | refused cause => exact .refused
  | silent => exact absurd rfl ne
  | connected far =>
    simp only [answer, connect]
    split
    · exact .refused
    · exact .relaying

/-- A setting has no say in a session that has nothing more to dial. -/
lemma Dialed.foldl_step {s : Inbound} (dd : Dialed s) (setting : Setting) (es : List Happening) :
    es.foldl (fun s e => step setting s e.1 e.2) s = s.after setting.ownAddress es := by
  induction es generalizing s with
  | nil => rfl
  | cons e es ih =>
    cases dd with
    | refused => exact ih .refused
    | relaying => exact ih .relaying

/-- A setting has something to answer only where there is a dial, and then it is not silent. -/
lemma settle_cases (setting : Setting) (s : Inbound) :
    settle setting s = s ∨
      ∃ client target, s = .dialing client target ∧ setting.reach target ≠ .silent := by
  cases s with
  | greeting client => exact .inl rfl
  | refused client dialed upstream failure => exact .inl rfl
  | relaying target relay => exact .inl rfl
  | dialing client target =>
    by_cases silent : setting.reach target = .silent
    · refine .inl ?_
      simp only [settle, silent, answer]
    · exact .inr ⟨client, target, rfl, silent⟩

/-- A session whose dials are answered at once, as a setting says, goes through the same states as one whose one
dial is answered some time. -/
lemma exists_answer (setting : Setting) (s : Inbound) (es : List Happening) :
    ∃ early later reach, es = early ++ later ∧
      es.foldl (fun s e => step setting s e.1 e.2) (settle setting s) =
        ((s.after setting.ownAddress early).answer reach).after setting.ownAddress later := by
  -- Events are early as long as the setting has nothing to answer; from then on all are late.
  induction es generalizing s with
  | nil =>
    rcases settle_cases setting s with eq | ⟨client, target, rfl, heard⟩
    · refine ⟨[], [], .silent, rfl, ?_⟩
      cases s <;> exact eq
    · exact ⟨[], [], setting.reach target, rfl, rfl⟩
  | cons e es ih =>
    rcases settle_cases setting s with eq | ⟨client, target, rfl, heard⟩
    · obtain ⟨early, later, reach, split, same⟩ := ih (s.react setting.ownAddress e.1 e.2)
      refine ⟨e :: early, later, reach, by rw [split, List.cons_append], ?_⟩
      rw [eq]
      exact same
    · refine ⟨[], e :: es, setting.reach target, rfl, ?_⟩
      exact (dialed_answer heard client target).foldl_step setting (e :: es)

/-- So every state of such a session is one that a course leads to. -/
theorem exists_course (setting : Setting) (reads : Source) (sink : Sink) (es : List Happening) :
    ∃ course : Course, course.reads = reads ∧ course.sink = sink ∧
      course.early ++ course.later = es ∧
      es.foldl (fun s e => step setting s e.1 e.2) (start setting { source := reads, sink }) =
        follow setting.ownAddress course := by
  obtain ⟨early, later, reach, split, same⟩ :=
    exists_answer setting (greet setting.ownAddress { source := reads, sink }) es
  exact ⟨{ reads, sink, early, reach, later }, rfl, rfl, split.symm, same⟩

end Inbound

end MeshProxy
