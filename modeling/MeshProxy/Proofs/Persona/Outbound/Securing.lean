import MeshProxy.Proofs.Persona.Outbound.Meeting

/-!
# How a TLS handshake is decided

`Fails` tells of the first thing that decides against the handshake of an outbound session, and `Undecided` says that
there is none so far: with a TLS server nothing has settled it, and a peer that does not speak TLS has said nothing yet that
`Spoils` it. A session waits exactly as long as its handshake is undecided (`Stage.securing_of_undecided`,
`stage_of_unsettled`) and is `Lost` from the moment it fails (`Stage.lost_of_fails_plain`, `Stage.lost_of_fails_server`).
-/

namespace MeshProxy

open Relay (Side Happening arrivals arrivalsOf)

namespace Tls

/-- What a peer has said that does not speak TLS leaves no hope for a handshake with it. -/
inductive Client.Spoils (client : Client) (said : Source) : IoFault → Prop where
  /-- It is not what a server says. -/
  | heard {fault : Fault} :
    (Party.client client).hear said.opening.1 = .failed fault →
    Spoils client said fault.toIoFault
  /-- It is over. -/
  | ended {rest : Source} :
    (∀ fault, (Party.client client).hear said.opening.1 ≠ .failed fault) →
    said.opening.2 = .finish :: rest →
    Spoils client said Fault.handshakeEnd.toIoFault
  /-- It cannot be read. -/
  | unreadable {cause : IoFault} {rest : Source} :
    (∀ fault, (Party.client client).hear said.opening.1 ≠ .failed fault) →
    said.opening.2 = .fault cause :: rest →
    Spoils client said cause

end Tls

namespace Outbound

/-- Nothing has decided yet what becomes of a handshake. `reads` is what the stream of the far side held at first. -/
def Undecided (tls : Tls.Client) (reads : Source) (far : Far) (os : List Occurrence) : Prop :=
  match far with
  | .plain => .lapse ∉ os ∧
      ∀ before, before <+: os → ∀ cause, ¬ tls.Spoils (reads ++ supplied .upstream before) cause
  | .tls _ => ∀ o ∈ os, o.settles = false

/-- The first thing that decides about a handshake is that it fails. -/
inductive Fails (tls : Tls.Client) (reads : Source) : Far → List Occurrence → IoFault → Prop where
  /-- The time for it passes. -/
  | late {far : Far} {before later : List Occurrence} :
    Undecided tls reads far before →
    Fails tls reads far (before ++ .lapse :: later) Tls.Fault.tooSlow.toIoFault
  /-- The client finds fault with the server or the connection. -/
  | refused {server : Tls.Server} {before later : List Occurrence} {outcome : Tls.Outcome} {cause : IoFault} :
    Undecided tls reads (.tls server) before →
    outcome.client = .error cause →
    Fails tls reads (.tls server) (before ++ .concluded outcome :: later) cause
  /-- What a peer that does not speak TLS says first is too much already. -/
  | spoilt_first {os : List Occurrence} {cause : IoFault} :
    tls.Spoils reads cause →
    Fails tls reads .plain os cause
  | spoilt {before later : List Occurrence} {o : Occurrence} {cause : IoFault} :
    Undecided tls reads .plain before →
    tls.Spoils (reads ++ supplied .upstream (before ++ [o])) cause →
    Fails tls reads .plain (before ++ o :: later) cause

/-- The dial of `target` has failed: nothing has travelled, and the streams are given up. -/
structure DialFailed (s : Outbound) (target : String) (cause : IoFault) : Prop where
  result : s.result? = some (.error (.dial target cause))
  toUpstream : s.toUpstream = []
  toClient : s.toClient = []
  client_dropped : s.client.dropped = true
  upstream_dropped : ∀ upstream, s.upstream? = some upstream → upstream.dropped = true

section Deciding

variable {tls : Tls.Client} {reads : Source} {far : Far} {os : List Occurrence}

lemma undecided_tail {o : Occurrence} (un : Undecided tls reads .plain (o :: os)) :
    Undecided tls (reads ++ supplied .upstream [o]) .plain os := by
  obtain ⟨in_time, hopeful⟩ := un
  refine ⟨fun mem => in_time (List.mem_cons_of_mem o mem), ?_⟩
  intro before pre cause
  rw [List.append_assoc, ← supplied_cons]
  exact hopeful (o :: before) ((List.prefix_cons_inj o).mpr pre) cause

/-- Nothing that has been said so far spoils a handshake that is undecided. -/
lemma unspoilt_of_undecided (un : Undecided tls reads .plain os) (cause : IoFault) :
    ¬ tls.Spoils (reads ++ supplied .upstream os) cause :=
  un.2 os List.prefix_rfl cause

/-- Handshakes that have failed stay so. -/
lemma Fails.append {cause : IoFault} (fs : Fails tls reads far os cause) (more : List Occurrence) :
    Fails tls reads far (os ++ more) cause := by
  cases fs with
  | late un =>
    rw [List.append_assoc]
    exact .late un
  | refused un error =>
    rw [List.append_assoc]
    exact .refused un error
  | spoilt_first sp => exact .spoilt_first sp
  | spoilt un sp =>
    rw [List.append_assoc]
    exact .spoilt un sp

/-- A handshake with a peer that does not speak TLS fails if it is decided. -/
lemma undecided_or_fails (tls : Tls.Client) (reads : Source) (os : List Occurrence) :
    Undecided tls reads .plain os ∨ ∃ cause, Fails tls reads .plain os cause := by
  -- from the right, since a handshake that has failed stays so whatever is met after it
  induction os using List.reverseRecOn with
  | nil =>
    by_cases sp : ∃ cause, tls.Spoils reads cause
    · obtain ⟨cause, sp⟩ := sp
      exact .inr ⟨cause, .spoilt_first sp⟩
    · refine .inl ⟨List.not_mem_nil, ?_⟩
      intro before pre cause
      rw [List.prefix_nil.mp pre, supplied_nil, List.append_nil]
      exact not_exists.mp sp cause
  | append_singleton os o ih =>
    rcases ih with un | ⟨cause, fs⟩
    · by_cases lapse : o = .lapse
      · subst lapse
        exact .inr ⟨_, .late un⟩
      · by_cases sp : ∃ cause, tls.Spoils (reads ++ supplied .upstream (os ++ [o])) cause
        · obtain ⟨cause, sp⟩ := sp
          exact .inr ⟨cause, .spoilt un sp⟩
        · refine .inl ⟨by simp [un.1, Ne.symm lapse], ?_⟩
          intro before pre cause
          rcases List.prefix_concat_iff.mp pre with rfl | pre
          · exact not_exists.mp sp cause
          · exact un.2 before pre cause
    · exact .inr ⟨cause, fs.append [o]⟩

end Deciding

namespace Stage

variable {host : String} {cause : IoFault} {client upstream : Endpoint} {tls : Tls.Client} {s : Outbound}
  {os : List Occurrence}

/-- The dial of `host` has failed: nothing has travelled, and the streams are given up. -/
inductive Lost (host : String) (cause : IoFault) : Stage → Prop where
  | intro {refused : Refused} :
    refused.failure = .dial host cause →
    refused.client.received = [] →
    refused.client.dropped = true →
    (∀ upstream, refused.upstream = some upstream → upstream.received = [] ∧ upstream.dropped = true) →
    Lost host cause (.refused refused)

lemma lost_of_dropped {refused : Refused} (why : refused.failure = .dial host cause)
    (eq : refused.client = client.drop) (rcv : client.received = []) (up : refused.upstream = some upstream.drop)
    (fresh : upstream.received = []) : Lost host cause (.refused refused) := by
  refine .intro why (by rw [eq]; exact rcv) (by rw [eq]; rfl) ?_
  rw [up]
  rintro _ ⟨⟩
  exact ⟨fresh, rfl⟩

lemma lost_insecure (rcv : client.received = []) (fresh : upstream.received = []) (fault : Tls.Fault)
    (farFault : Option Tls.Fault) : Lost host fault.toIoFault (insecure client upstream host fault farFault) :=
  lost_of_dropped rfl rfl rcv rfl fresh

/-- What spoils a handshake ends it. -/
lemma lost_secure (rcv : client.received = []) (fresh : upstream.received = [])
    (sp : tls.Spoils upstream.source cause) : Lost host cause (secure client upstream tls host) := by
  cases sp with
  | heard failed =>
    simp only [secure, failed]
    exact lost_insecure rcv (by exact fresh) _ _
  | ended other eq =>
    cases heard : (Tls.Party.client tls).hear upstream.source.opening.1 with
    | failed fault => exact absurd heard (other fault)
    | _ =>
      simp only [secure, heard, eq]
      exact lost_insecure rcv (by exact fresh) .handshakeEnd none
  | unreadable other eq =>
    cases heard : (Tls.Party.client tls).hear upstream.source.opening.1 with
    | failed fault => exact absurd heard (other fault)
    | _ =>
      simp only [secure, heard, eq]
      exact lost_of_dropped rfl rfl rcv rfl fresh

/-- And nothing else does. -/
lemma secure_of_unspoilt (no : ∀ cause, ¬ tls.Spoils upstream.source cause) :
    secure client upstream tls host = .securing client upstream tls := by
  have other (fault : Tls.Fault) : (Tls.Party.client tls).hear upstream.source.opening.1 ≠ .failed fault :=
    fun failed => no _ (.heard failed)
  simp only [secure]
  split
  case h_1 fault failed => exact absurd failed (other fault)
  case h_2 eq _ => exact absurd (.ended other eq) (no _)
  case h_3 eq _ => exact absurd (.unreadable other eq) (no _)
  case h_4 => rfl

lemma Lost.meetAll (lo : s.stage.Lost host cause) (os : List Occurrence) : (s.meetAll os).stage.Lost host cause := by
  obtain ⟨plan, dest, dials, stage⟩ := s
  cases lo with
  | intro why rcv dropped up =>
    rw [stage_meetAll_of_refused rfl os]
    exact .intro why rcv dropped up

lemma Lost.dialFailed (lo : s.stage.Lost host cause) : s.DialFailed host cause := by
  obtain ⟨plan, dest, dials, stage⟩ := s
  cases lo with
  | @intro refused why rcv dropped up =>
    refine ⟨by simp [result?, why], ?_, rcv, dropped, fun upstream eq => (up upstream eq).2⟩
    cases eq : refused.upstream with
    | none => simp [toUpstream, upstream?, eq]
    | some upstream => simp [toUpstream, upstream?, eq, (up upstream eq).1]

lemma securing_meetAll (eq : s.stage = .securing client upstream tls)
    (un : Undecided tls upstream.source .plain os) :
    (s.meetAll os).stage =
      .securing (client.after .client (happenings os)) (upstream.after .upstream (happenings os)) tls := by
  -- by induction on what is met, with the streams as they are by then: only an event of the upstream side adds to what
  -- the client hears, and every other occurrence leaves the hopes of the handshake where they were
  induction os generalizing s client upstream with
  | nil => exact eq
  | cons o os ih =>
    have now : ∀ cause, ¬ tls.Spoils (upstream.source ++ supplied .upstream [o]) cause := un.2 [o] ⟨os, rfl⟩
    have rest := undecided_tail un
    cases o with
    | lapse => exact absurd List.mem_cons_self un.1
    | concluded outcome =>
      have next : (s.conclude outcome).stage = .securing client upstream tls := by simp [Outbound.conclude, eq]
      rw [supplied_of_settles rfl, List.append_nil] at rest
      exact ih next rest
    | happens e =>
      obtain ⟨side, event⟩ := e
      cases side with
      | client =>
        have next : (s.step .client event).stage = .securing (client.apply event) upstream tls := by simp [step, eq]
        have still : supplied .upstream [.happens (.client, event)] = [] := rfl
        rw [still, List.append_nil] at rest
        exact ih next rest
      | upstream =>
        rw [← source_supplied] at now rest
        have next : (s.step .upstream event).stage = .securing client (upstream.apply event) tls := by
          simp [step, eq, secure_of_unspoilt now]
        exact ih next rest

/-- As long as nothing is decided, a session waits for a peer that does not speak TLS, and both streams collect what
happens. -/
lemma securing_of_undecided (eq : s.stage = secure client upstream tls host)
    (un : Undecided tls upstream.source .plain os) :
    (s.meetAll os).stage =
      .securing (client.after .client (happenings os)) (upstream.after .upstream (happenings os)) tls := by
  have first : ∀ cause, ¬ tls.Spoils upstream.source cause := by
    intro cause sp
    exact un.2 [] List.nil_prefix cause ((List.append_nil upstream.source).symm ▸ sp)
  exact securing_meetAll (eq.trans (secure_of_unspoilt first)) un

/-- What spoils a handshake that goes on is the end of it. -/
lemma lost_of_spoilt (eq : s.stage = .securing client upstream tls) (rcv : client.received = [])
    (fresh : upstream.received = []) (still : ∀ cause, ¬ tls.Spoils upstream.source cause) {o : Occurrence}
    (sp : tls.Spoils (upstream.source ++ supplied .upstream [o]) cause) :
    (s.meet o).stage.Lost s.hop.host cause := by
  have arrives : supplied .upstream [o] ≠ [] := by
    intro none
    rw [none, List.append_nil] at sp
    exact still cause sp
  cases o with
  | concluded outcome => exact absurd rfl arrives
  | lapse => exact absurd rfl arrives
  | happens e =>
    obtain ⟨side, event⟩ := e
    cases side with
    | client => exact absurd rfl arrives
    | upstream =>
      rw [← source_supplied] at sp
      have next : (s.step .upstream event).stage = secure client (upstream.apply event) tls s.hop.host := by
        simp [step, eq]
      rw [meet, next]
      exact lost_secure rcv (by simp [fresh]) sp

/-- A handshake with a peer that does not speak TLS loses a session when it fails. -/
lemma lost_of_fails_plain (eq : s.stage = secure client upstream tls s.hop.host) (rcv : client.received = [])
    (fresh : upstream.received = []) (fs : Fails tls upstream.source .plain os cause) :
    (s.meetAll os).stage.Lost s.hop.host cause := by
  have host (before : List Occurrence) : s.hop.host = (s.meetAll before).hop.host := by
    rw [(hop_meetAll s before).1]
  cases fs with
  | spoilt_first sp =>
    apply Lost.meetAll
    rw [eq]
    exact lost_secure rcv fresh sp
  | @late _ before later un =>
    rw [meetAll_append]
    apply Lost.meetAll (s := (s.meetAll before).meet .lapse)
    rw [host before]
    simp only [meet, expire, securing_of_undecided eq un]
    exact lost_insecure (by simp [rcv]) (by simp [fresh]) _ _
  | @spoilt before later o cause un sp =>
    rw [meetAll_append]
    apply Lost.meetAll (s := (s.meetAll before).meet o)
    have said : (upstream.after .upstream (happenings before)).source = upstream.source ++ supplied .upstream before :=
      Endpoint.source_after _ _ _
    rw [host before]
    refine lost_of_spoilt (securing_of_undecided eq un) (by simp [rcv]) (by simp [fresh]) ?_ ?_
    · rw [said]
      exact unspoilt_of_undecided un
    · rw [said, List.append_assoc, ← supplied_append]
      exact sp

/-- A handshake with a TLS server loses a session when it fails. -/
lemma lost_of_fails_server (eq : s.stage = .agreeing client upstream) (rcv : client.received = [])
    (fresh : upstream.received = []) {reads : Source} {server : Tls.Server}
    (fs : Fails tls reads (.tls server) os cause) : (s.meetAll os).stage.Lost s.hop.host cause := by
  have fresh' (before : List Occurrence) : (upstream.after .upstream (happenings before)).received = [] := by
    simp [fresh]
  have rcv' (before : List Occurrence) : (client.after .client (happenings before)).received = [] := by simp [rcv]
  cases fs with
  | @late _ before later un =>
    rw [meetAll_of_settled eq un]
    exact Lost.meetAll (lost_insecure (rcv' before) (fresh' before) _ _) later
  | @refused _ before later outcome cause un error =>
    rw [meetAll_of_settled eq un]
    refine Lost.meetAll ?_ later
    cases outcome with
    | agreed => cases error
    | refusedByServer fault => cases error
    | refusedByClient fault =>
      cases error
      exact lost_insecure (rcv' before) (fresh' before) _ _
    | broken cause =>
      cases error
      exact lost_of_dropped rfl rfl (rcv' before) rfl (fresh' before)

end Stage

end Outbound

end MeshProxy
