import MeshProxy.Proofs.Persona.Outbound.FailClosed
import MeshProxy.Proofs.Relay.Recut

/-!
# TLS is transparent

Two outbound sessions with the same client go to the same host, one under a TLS policy and one in the clear. While the
first is in a TLS handshake with a server, it does what the other does whose dial is not answered yet. If the handshake
ends well, and the same happens to both from then on, they do the same, except that they have dialed different ports
(`tls_transparent`).

A TLS peer sends its bytes in records, so they need not come in the chunks in which a plain peer sends them. The same
bytes in other chunks are a `Source.Recut`, and several of them may come at once (`Encounter.burst`). Sessions that meet
the same, up to how the bytes of the peer are cut, stay `Alike` step by step: neither the wait for the rendezvous nor
the relay behind it looks at where chunks are cut. A close without notice is not the same for both, since it ends a plain
stream and is a fault of a TLS stream (`Arrival.ofClose`).
-/

namespace MeshProxy

open Relay (Side Happening)

namespace Rendezvous

/-- The first byte decides, and what is behind it is left. -/
lemma await_data (b : UInt8) (more : Bytes) (rest : Source) :
    await (.data (b :: more) :: rest) =
      (if b = byte then .arrived () else .failed (.wrongRendezvous b),
        if more = [] then rest else .data more :: rest) := by
  simp only [await]
  split <;> rfl

/-- A cut in the first chunk takes nothing from what is behind the first byte. -/
lemma await_cut {front back : Bytes} (ne : front ≠ []) (ne' : back ≠ []) (s : Source) :
    (await (.data front :: .data back :: s)).1 = (await (.data (front ++ back) :: s)).1 ∧
      ∀ t, (await (.data (front ++ back) :: s)).2.Recut t → (await (.data front :: .data back :: s)).2.Recut t := by
  obtain ⟨b, more, rfl⟩ := List.exists_cons_of_ne_nil ne
  rw [List.cons_append, await_data, await_data]
  refine ⟨rfl, ?_⟩
  intro t rc
  by_cases nil : more = []
  · simpa [nil, ne'] using rc
  · have rc : Source.Recut (.data (more ++ back) :: s) t := by simpa [nil] using rc
    simpa [nil] using rc.left nil ne'

lemma await_recut {s t : Source} (rc : s.Recut t) :
    (await s).1 = (await t).1 ∧ (await s).2.Recut (await t).2 := by
  induction rc with
  | nil => exact ⟨rfl, .nil⟩
  | left ne ne' _ ih =>
    obtain ⟨first, rest⟩ := await_cut ne ne' _
    exact ⟨first.trans ih.1, rest _ ih.2⟩
  | right ne ne' _ ih =>
    obtain ⟨first, rest⟩ := await_cut ne ne' _
    exact ⟨ih.1.trans first.symm, (rest _ ih.2.symm).symm⟩
  | @cons s t arrival rc ih =>
    cases arrival with
    | finish => exact ⟨rfl, .cons _ rc⟩
    | fault e =>
      simp only [await]
      split
      · exact ih
      · exact ⟨rfl, rc⟩
    | data bytes =>
      cases bytes with
      | nil => exact ⟨rfl, rc⟩
      | cons b more =>
        rw [await_data, await_data]
        refine ⟨rfl, ?_⟩
        dsimp only
        split
        · exact rc
        · exact .cons _ rc

end Rendezvous

namespace Outbound

/-- A session after several things that arrive from its upstream at once. Before there is an upstream they go
nowhere. -/
def hear (s : Outbound) (arrivals : Source) : Outbound :=
  let stage : Stage :=
    match s.stage with
    | .securing client upstream tls => Stage.secure client (upstream.arriveAll arrivals) tls s.hop.host
    | .agreeing client upstream => .agreeing client (upstream.arriveAll arrivals)
    | .greeting client upstream => Stage.await client (upstream.arriveAll arrivals)
    | .relaying relay => .relaying (relay.hear arrivals)
    | stage => stage
  { s with stage }

/-- A single thing that arrives is heard in a step. -/
lemma hear_singleton (s : Outbound) (a : Arrival) : s.hear [a] = s.step .upstream (.arrives a) := by
  obtain ⟨plan, dest, dials, stage⟩ := s
  cases stage <;> rfl

/-- What a session meets in one step. -/
inductive Encounter where
  | single (o : Occurrence)
  /-- Several things arrive from its upstream at once. -/
  | burst (arrivals : Source)

def encounter (s : Outbound) : Encounter → Outbound
  | .single o => s.meet o
  | .burst arrivals => s.hear arrivals

def encounterAll (s : Outbound) (es : List Encounter) : Outbound := es.foldl encounter s

/-- The same encounter, except for how the bytes of the peer are cut. -/
inductive Encounter.Recut : Encounter → Encounter → Prop where
  | single (o : Occurrence) : Recut (.single o) (.single o)
  | burst {arrivals arrivals' : Source} :
    arrivals.Recut arrivals' →
    Recut (.burst arrivals) (.burst arrivals')

namespace Stage

/-- Sessions that have come equally far, and in which everything is the same but what is unread of a peer that is
given up. -/
inductive Alike : Stage → Stage → Prop where
  | dialing (client : Endpoint) : Alike (.dialing client) (.dialing client)
  | greeting {client upstream upstream' : Endpoint} :
    upstream.emptied = upstream'.emptied →
    upstream.source = [] →
    upstream'.source = [] →
    Alike (.greeting client upstream) (.greeting client upstream')
  | refused {refused refused' : Refused} :
    refused.client = refused'.client →
    refused.upstream.map Endpoint.emptied = refused'.upstream.map Endpoint.emptied →
    refused.connected = refused'.connected →
    refused.failure = refused'.failure →
    Alike (.refused refused) (.refused refused')
  | relaying {relay relay' : Relay} :
    relay.Alike relay' →
    Alike (.relaying relay) (.relaying relay')

variable {client upstream upstream' : Endpoint}

lemma alike_await (same : upstream.emptied = upstream'.emptied)
    (rc : upstream.source.Recut upstream'.source) : (await client upstream).Alike (await client upstream') := by
  obtain ⟨first, left⟩ := Rendezvous.await_recut rc
  have spent (rest rest' : Source) :
      Endpoint.emptied { upstream with source := rest } = Endpoint.emptied { upstream' with source := rest' } := same
  simp only [await]
  rcases aw : Rendezvous.await upstream.source with ⟨answer, rest⟩
  rcases aw' : Rendezvous.await upstream'.source with ⟨answer', rest'⟩
  rw [aw, aw'] at first left
  cases first
  cases answer with
  | waits =>
    -- Nothing is left of a source that leaves the wait undecided.
    have nil := (Rendezvous.await_append_of_waits (congrArg Prod.fst aw) []).1
    have nil' := (Rendezvous.await_append_of_waits (congrArg Prod.fst aw') []).1
    rw [aw] at nil
    rw [aw'] at nil'
    exact .greeting (spent _ _) nil nil'
  | failed fault => exact .refused rfl (congrArg (some ∘ Endpoint.drop) (spent rest rest')) rfl rfl
  | arrived => exact .relaying (Relay.alike_start (spent _ _) left)

lemma alike_greet (same : upstream.emptied = upstream'.emptied) (rc : upstream.source.Recut upstream'.source)
    (target : String) : (greet client upstream target).Alike (greet client upstream' target) := by
  have sink : upstream.sink = upstream'.sink := congrArg (·.sink) same
  have absorbed (w : Written) : (upstream.absorb w).emptied = (upstream'.absorb w).emptied :=
    congrArg (·.absorb w) same
  simp only [greet, sink]
  split
  · exact .refused rfl (congrArg (some ∘ Endpoint.drop) (absorbed _)) rfl rfl
  · exact alike_await (absorbed _) rc

/-- Sessions that are alike stay so in encounters that are. -/
lemma Alike.encounter {s s' : Outbound} (al : s.stage.Alike s'.stage) {e e' : Encounter} (rc : e.Recut e') :
    (s.encounter e).stage.Alike (s'.encounter e').stage := by
  obtain ⟨plan, dest, dials, stage⟩ := s
  obtain ⟨plan', dest', dials', stage'⟩ := s'
  cases al with
  | refused client upstream connected failure =>
    cases rc with
    | single o => cases o <;> exact .refused client upstream connected failure
    | burst => exact .refused client upstream connected failure
  | relaying al =>
    cases rc with
    | burst rc => exact .relaying (al.hear rc)
    | single o =>
      cases o with
      | concluded => exact .relaying al
      | lapse => exact .relaying al
      | happens e => exact .relaying (al.step e)
  | dialing client =>
    cases rc with
    | burst => exact .dialing client
    | single o =>
      cases o with
      | concluded => exact .dialing client
      | lapse => exact .dialing client
      | happens e =>
        obtain ⟨side, event⟩ := e
        cases side <;> exact .dialing _
  | greeting same nil nil' =>
    cases rc with
    | burst rc =>
      refine alike_await ?_ ?_
      · rwa [Endpoint.emptied_arriveAll, Endpoint.emptied_arriveAll]
      · simpa [Endpoint.source_arriveAll, nil, nil'] using rc
    | single o =>
      cases o with
      | concluded => exact .greeting same nil nil'
      | lapse => exact .greeting same nil nil'
      | happens e =>
        obtain ⟨side, event⟩ := e
        cases side with
        | client => exact .greeting same nil nil'
        | upstream =>
          refine alike_await ?_ ?_
          · rw [Endpoint.emptied_apply, same, ← Endpoint.emptied_apply]
          · rw [Relay.source_apply, Relay.source_apply, nil, nil']
            exact Source.recut_refl _

lemma Alike.encounterAll {s s' : Outbound} (al : s.stage.Alike s'.stage) {es es' : List Encounter}
    (rc : List.Forall₂ Encounter.Recut es es') : (s.encounterAll es).stage.Alike (s'.encounterAll es').stage := by
  induction rc generalizing s s' with
  | nil => exact al
  | cons e _ ih => exact ih (al.encounter e)

end Stage

lemma dials_encounterAll (s : Outbound) (es : List Encounter) : (s.encounterAll es).dials = s.dials := by
  induction es generalizing s with
  | nil => rfl
  | cons e es ih =>
    apply (ih _).trans
    cases e with
    | single o => exact (hop_meetAll s [o]).2
    | burst arrivals => rfl

/-- Two sessions do the same, one under a TLS policy and one in the clear, except that they have dialed different
ports. -/
structure SameButPort (plan : Plan) (dest : Destination) (secured clear : Outbound) : Prop where
  client : secured.client = clear.client
  toClient : secured.toClient = clear.toClient
  toUpstream : secured.toUpstream = clear.toUpstream
  /-- The upstream's stream is the same, except for what is unread in it. -/
  upstream : secured.upstream?.map Endpoint.emptied = clear.upstream?.map Endpoint.emptied
  result : secured.result? = clear.result?
  /-- But for the report of the connection, which names the hop, the same is reported. -/
  reports : secured.events.tail = clear.events.tail
  secured_dials : secured.dials = [(NextHop.mk (plan.nextHop dest).host plan.externalTlsPort).toText]
  clear_dials : clear.dials = [(NextHop.mk (plan.nextHop dest).host plan.externalPort).toText]

/-- Two sessions have come equally far with the client and wait, one in a TLS handshake over `peer`, over which it sends
nothing, and one for its connection. -/
structure SameWait (peer : Endpoint) (agreeing waiting : Outbound) : Prop where
  client : agreeing.client = waiting.client
  toClient : agreeing.toClient = waiting.toClient
  toUpstream : agreeing.toUpstream = peer.received
  unconnected : waiting.toUpstream = []
  result : agreeing.result? = waiting.result?
  reports : agreeing.events = waiting.events

lemma toUpstream_eq (s : Outbound) : s.toUpstream = ((s.upstream?.map Endpoint.emptied).map (·.received)).getD [] := by
  rw [toUpstream, Option.map_map]
  rfl

/-- Sessions that are alike do the same. -/
lemma Stage.Alike.same {s s' : Outbound} (al : s.stage.Alike s'.stage) :
    s.client = s'.client ∧ s.upstream?.map Endpoint.emptied = s'.upstream?.map Endpoint.emptied ∧
      s.result? = s'.result? ∧ s.events.tail = s'.events.tail := by
  obtain ⟨plan, dest, dials, stage⟩ := s
  obtain ⟨plan', dest', dials', stage'⟩ := s'
  cases al with
  | dialing client => exact ⟨rfl, rfl, rfl, rfl⟩
  | greeting same => exact ⟨rfl, congrArg some same, rfl, rfl⟩
  | refused client upstream connected failure =>
    refine ⟨client, upstream, by simp only [result?, failure], ?_⟩
    simp only [events, connected, failure]
    split <;> rfl
  | relaying al =>
    obtain ⟨client, upstream, -⟩ := Relay.emptied_eq_iff.mp al.emptied
    exact ⟨client, congrArg some upstream, al.result, al.events⟩

lemma sameButPort_of_alike {plan : Plan} {dest : Destination} {secured clear : Outbound}
    (al : secured.stage.Alike clear.stage)
    (dials : secured.dials = [(NextHop.mk (plan.nextHop dest).host plan.externalTlsPort).toText])
    (dials' : clear.dials = [(NextHop.mk (plan.nextHop dest).host plan.externalPort).toText]) :
    SameButPort plan dest secured clear := by
  obtain ⟨client, upstream, result, reports⟩ := al.same
  refine ⟨client, congrArg (·.received) client, ?_, upstream, result, reports, dials, dials'⟩
  rw [toUpstream_eq, toUpstream_eq, upstream]

/-- Transparency: a session does the same in a TLS handshake with a server as one in the clear that waits for its
connection, and if the handshake ends well, the same as one in the clear with a peer that sends the same bytes, in every
step before and after and in whatever chunks the bytes come. -/
theorem tls_transparent {plan : Plan} {policy : Tls.Policy} {dest : Destination} {expected : Tls.ServerName}
    (name : policy.expectedName? (plan.nextHop dest).host = some expected) (server : Tls.Server) (client : Endpoint)
    (early meanwhile : List Happening) {peer peer' : Endpoint}
    (same : (peer.after .upstream meanwhile).emptied = peer'.emptied)
    (rc : (peer.after .upstream meanwhile).source.Recut peer'.source)
    {es es' : List Encounter} (rcs : List.Forall₂ Encounter.Recut es es') :
    let secured := (dial { plan with tls := some policy } dest client).after early
    let clear := (dial { plan with tls := none } dest client).after early
    let agreeing := (secured.answer (.connected (.tls server)) peer).after meanwhile
    let waiting := clear.after meanwhile
    SameButPort plan dest secured clear ∧
      SameWait peer agreeing waiting ∧
      SameButPort plan dest ((agreeing.conclude .agreed).encounterAll es)
        ((waiting.answer (.connected .plain) peer').encounterAll es') := by
  intro secured clear agreeing waiting
  have begun : secured.stage.Alike clear.stage := by
    simp only [secured, clear, dial_after]
    exact .dialing _
  -- Nobody reads the client meanwhile, whether the session is in a handshake or waits for its connection.
  have held : waiting = dial { plan with tls := none } dest ((client.after .client early).after .client meanwhile) := by
    simp only [waiting, clear, dial_after]
  have held' : agreeing.stage =
      .agreeing ((client.after .client early).after .client meanwhile) (peer.after .upstream meanwhile) := by
    have tls : { plan with tls := some policy }.tls = some policy := rfl
    have answered := agreeing_answer tls name (client.after .client early) peer server
    have stage := stage_of_unsettled answered (unsettled_of_happens meanwhile)
    rw [happenings_happens, ← after_eq_meetAll, ← dial_after] at stage
    exact stage
  have named : agreeing.target = dest.toText := by
    simp only [agreeing, secured, after_eq_meetAll, target_meetAll, target_answer]
    rfl
  have agreed : (agreeing.conclude .agreed).stage.Alike (waiting.answer (.connected .plain) peer').stage := by
    rw [held]
    simp only [conclude, held', Stage.conclude, named, dial, answer]
    exact Stage.alike_greet same rc _
  have dials : secured.dials = [(NextHop.mk (plan.nextHop dest).host plan.externalTlsPort).toText] := dials_after _ _
  have dials' : clear.dials = [(NextHop.mk (plan.nextHop dest).host plan.externalPort).toText] := dials_after _ _
  refine ⟨sameButPort_of_alike begun dials dials', ?_, sameButPort_of_alike (agreed.encounterAll rcs) ?_ ?_⟩
  · have same : agreeing.client = waiting.client := by
      rw [held]
      simp only [Outbound.client, held']
      rfl
    refine ⟨same, congrArg (·.received) same, ?_, ?_, ?_, ?_⟩
    · simp [toUpstream, upstream?, held']
    · rw [held]
      rfl
    · simp only [result?, held', held, dial]
    · simp only [events, held', held, dial]
  · rw [dials_encounterAll, dials_conclude, dials_after, dials_answer, dials]
  · rw [dials_encounterAll, dials_answer, dials_after, dials']

/-- The handshake takes its time, the records split the rendezvous from what the plain peer sends along with it, and they
are cut elsewhere later. -/
theorem tls_transparent_in_records :
    let dest : Destination := ⟨⟨10, 0, 0, 5⟩, 8080⟩
    let early : List Happening := [(.client, .arrives (.data [7]))]
    let meanwhile : List Happening := [(.client, .arrives (.data [8])), (.upstream, .arrives (.data [1]))]
    let secured := (dial { samplePlan with tls := some samplePolicy } dest {}).after early
    let clear := (dial { samplePlan with tls := none } dest {}).after early
    let agreeing := (secured.answer (.connected (.tls samplePolicy.server)) { source := [.data [0x59]] }).after meanwhile
    let waiting := clear.after meanwhile
    samplePolicy.expectedName? (samplePlan.nextHop dest).host = some (.dns "mesh") ∧
      Source.Recut [.data [0x59], .data [1]] [.data [0x59, 1]] ∧
      Source.Recut [.data [2], .data [3, 4]] [.data [2, 3], .data [4]] ∧
      SameWait { source := [.data [0x59]] } agreeing waiting ∧
      SameButPort samplePlan dest
        ((agreeing.conclude .agreed).encounterAll [.burst [.data [2], .data [3, 4]], .single .lapse])
        ((waiting.answer (.connected .plain) { source := [.data [0x59, 1]] }).encounterAll
          [.burst [.data [2, 3], .data [4]], .single .lapse]) ∧
      ((agreeing.conclude .agreed).encounterAll
          [.burst [.data [2], .data [3, 4]], .single .lapse]).toClient = [1, 2, 3, 4] := by
  intro dest early meanwhile secured clear agreeing waiting
  have name : samplePolicy.expectedName? (samplePlan.nextHop dest).host = some (.dns "mesh") := rfl
  have first : Source.Recut ([[0x59], [1]].map .data) ([[0x59, 1]].map .data) :=
    Source.recut_of_flatten_eq (by decide) (by decide) rfl
  have later : Source.Recut ([[2], [3, 4]].map .data) ([[2, 3], [4]].map .data) :=
    Source.recut_of_flatten_eq (by decide) (by decide) rfl
  have same : Endpoint.emptied (Endpoint.after { source := [.data [0x59]] } .upstream meanwhile) =
      Endpoint.emptied { source := [.data [0x59, 1]] } := rfl
  have rcs : List.Forall₂ Encounter.Recut [.burst ([[2], [3, 4]].map .data), .single .lapse]
      [.burst ([[2, 3], [4]].map .data), .single .lapse] := .cons (.burst later) (.cons (.single _) .nil)
  obtain ⟨-, wait, done⟩ := tls_transparent name samplePolicy.server {} early meanwhile same first rcs
  exact ⟨name, first, later, wait, done, by decide +kernel⟩

end Outbound

end MeshProxy
