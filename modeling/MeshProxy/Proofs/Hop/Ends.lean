import MeshProxy.Proofs.Hop.Basic
import MeshProxy.Proofs.Net.Destination
import MeshProxy.Proofs.Relay.Unhindered

/-!
# The two ends of a hop

Each of the two sessions of a hop goes through three phases and no other: `Near` and `Far` say which, and how each
phase hangs on what has come to its two readers. Every kind of move is a lemma for each end that it concerns. An end
asks little of the other one: the first arrival at the far end must be the preamble, and the first byte at the near end
the rendezvous.
-/

namespace MeshProxy

open Relay (Side arrivals)

namespace Hop

variable {setting : Setting} {fromClient toFar toNear fromDest : Source}

/-- The bytes of the preamble. -/
def Setting.preamble (setting : Setting) : Bytes := bytesOf setting.dest.toText

/-- The preamble is a target. -/
lemma Setting.valid (setting : Setting) : Target.fault? setting.dest.toText = none :=
  setting.dest.fault?_toText

/-- The preamble is not empty. -/
lemma Setting.preamble_ne_nil (setting : Setting) : setting.preamble ≠ [] :=
  (Target.length_of_valid setting.valid).2

/-- The near session at a stage. -/
def Setting.nearAt (setting : Setting) (stage : Outbound.Stage) : Outbound :=
  ⟨setting.nearPlan, setting.dest, [(setting.nearPlan.nextHop setting.dest).toText], stage⟩

/-- The phases of the near session. -/
inductive Near (setting : Setting) (fromClient toNear : Source) : Outbound → Prop where
  | dialing {client : Endpoint} :
    client.source = fromClient →
    client.received = [] →
    client.sink.Open →
    toNear = [] →
    Near setting fromClient toNear (setting.nearAt (.dialing client))
  | greeting {client upstream : Endpoint} :
    client.source = fromClient →
    client.received = [] →
    client.sink.Open →
    upstream.source = [] →
    upstream.received = setting.preamble →
    upstream.sink.Open →
    toNear = [] →
    Near setting fromClient toNear (setting.nearAt (.greeting client upstream))
  | relaying {relay : Relay} {rest : Source} :
    toNear.payload = Rendezvous.byte :: rest.payload →
    rest.Orderly →
    .finish ∉ rest →
    relay.Unhindered (Direction.each setting.preamble []) (Direction.each fromClient rest) →
    Near setting fromClient toNear (setting.nearAt (.relaying relay))

/-- The phases of the far session. -/
inductive Far (setting : Setting) (toFar fromDest : Source) : Inbound → Prop where
  | greeting {client : Endpoint} :
    client.source = [] →
    client.received = [] →
    client.sink.Open →
    toFar = [] →
    fromDest = [] →
    Far setting toFar fromDest (.greeting client)
  | dialing {client : Endpoint} :
    client.received = [] →
    client.sink.Open →
    toFar = .data setting.preamble :: client.source →
    fromDest = [] →
    Far setting toFar fromDest (.dialing client setting.dest.toText)
  | relaying {relay : Relay} {rest : Source} :
    toFar = .data setting.preamble :: rest →
    relay.Unhindered (Direction.each [] [Rendezvous.byte]) (Direction.each rest fromDest) →
    Far setting toFar fromDest (.relaying setting.dest.toText relay)

/-! ## Moves of the near end -/

/-- The near session starts by dialing. -/
lemma near_start (setting : Setting) : Near setting [] [] (start setting).near :=
  .dialing rfl rfl setting.clientSink.2 rfl

/-- A connection that refuses nothing takes the preamble, and the near session waits for the rendezvous. -/
lemma greet_of_open (setting : Setting) (client : Endpoint) :
    ∃ upstream : Endpoint,
      Outbound.Stage.greet client { sink := setting.forwardSink } setting.dest.toText =
        .greeting client upstream ∧
      upstream.source = [] ∧ upstream.received = setting.preamble ∧ upstream.sink.Open := by
  obtain ⟨ok, op⟩ := Preamble.send_of_open setting.forwardSink.2 setting.valid
  obtain ⟨whole, -⟩ := Preamble.fault_send ok
  let upstream : Endpoint := { sink := setting.forwardSink }
  refine ⟨upstream.absorb (Preamble.send setting.forwardSink setting.dest.toText).written, ?_, rfl,
    ?_, op⟩
  · simp only [Outbound.Stage.greet, ok, Outbound.Stage.await, Endpoint.absorb, Rendezvous.await]
    rfl
  · rw [Endpoint.absorb, whole]
    rfl

/-- Once it is connected, the near session sends the preamble. -/
lemma Near.connect {s : Outbound} (plain : setting.nearPlan.tls = none)
    (nr : Near setting fromClient toNear s) :
    Near setting fromClient toNear (s.answer (.connected .plain) { sink := setting.forwardSink }) ∧
      s.toUpstream <+:
        (s.answer (.connected .plain) { sink := setting.forwardSink }).toUpstream ∧
      ∀ client, (s.answer (.connected .plain) { sink := setting.forwardSink }).stage ≠
        .dialing client := by
  cases nr with
  | @dialing client src rcv op nil =>
    obtain ⟨upstream, greet, nil', sent, op'⟩ := greet_of_open setting client
    have answer : (setting.nearAt (.dialing client)).answer (.connected .plain)
        { sink := setting.forwardSink } = setting.nearAt (.greeting client upstream) := by
      simp only [Outbound.answer, Setting.nearAt, plain, Outbound.target, greet]
    rw [answer]
    exact ⟨.greeting src rcv op nil' sent op' nil, List.nil_prefix, by rintro _ ⟨⟩⟩
  | greeting src rcv op nil sent op' nil' =>
    exact ⟨.greeting src rcv op nil sent op' nil', List.prefix_refl _, by rintro _ ⟨⟩⟩
  | relaying first os no un =>
    exact ⟨.relaying first os no un, List.prefix_refl _, by rintro _ ⟨⟩⟩

/-- The client of the near session sends or ends. -/
lemma Near.step_client {s : Outbound} (nr : Near setting fromClient toNear s) (a : Arrival) :
    Near setting (fromClient ++ [a]) toNear (s.step .client (.arrives a)) ∧
      s.toUpstream <+: (s.step .client (.arrives a)).toUpstream := by
  cases nr with
  | @dialing client src rcv op nil =>
    have src : (client.apply (.arrives a)).source = fromClient ++ [a] := by
      rw [Relay.source_apply, src]
      rfl
    exact ⟨.dialing src (by simp [rcv]) op nil, List.prefix_refl _⟩
  | @greeting client upstream src rcv op nil sent op' nil' =>
    have src : (client.apply (.arrives a)).source = fromClient ++ [a] := by
      rw [Relay.source_apply, src]
      rfl
    exact ⟨.greeting src (by simp [rcv]) op nil sent op' nil', List.prefix_refl _⟩
  | @relaying relay rest first os no un =>
    have un := un.step_client a
    constructor
    · exact .relaying first os no un
    · exact Relay.delivered_prefix_step relay .forward (.client, .arrives a)

/-- The rendezvous leaves behind what comes in one piece with it. -/
lemma await_of_byte (more : Bytes) :
    ∃ left, Rendezvous.await [.data (Rendezvous.byte :: more)] = (.arrived (), left) ∧
      left.payload = more ∧ left.Orderly ∧ .finish ∉ left := by
  cases more with
  | nil => exact ⟨[], by simp [Rendezvous.await], rfl, .nil, by simp⟩
  | cons b more => exact ⟨[.data (b :: more)], by simp [Rendezvous.await], by simp, .data .nil, by simp⟩

/-- When the rendezvous arrives, the near session relays what comes with it. -/
lemma step_greeting (setting : Setting) (client : Endpoint) {upstream : Endpoint}
    (nil : upstream.source = []) (more : Bytes) :
    ∃ left, (setting.nearAt (.greeting client upstream)).step .upstream
          (.arrives (.data (Rendezvous.byte :: more))) =
        setting.nearAt (.relaying (Relay.start client
          { upstream.apply (.arrives (.data (Rendezvous.byte :: more))) with source := left })) ∧
      left.payload = more ∧ left.Orderly ∧ .finish ∉ left := by
  obtain ⟨left, await, rest⟩ := await_of_byte more
  have source : (upstream.apply (.arrives (.data (Rendezvous.byte :: more)))).source =
      [.data (Rendezvous.byte :: more)] := by
    rw [Relay.source_apply, nil]
    rfl
  refine ⟨left, ?_, rest⟩
  simp only [Outbound.step, Setting.nearAt, Outbound.Stage.await, source, await]

/-- The connection hands data to the near session. -/
lemma Near.step_peer {s : Outbound} (nr : Near setting fromClient toNear s) (b : UInt8) (more : Bytes)
    (connected : ∀ client, s.stage ≠ .dialing client) (first : toNear = [] → b = Rendezvous.byte) :
    Near setting fromClient (toNear ++ [.data (b :: more)])
        (s.step .upstream (.arrives (.data (b :: more)))) ∧
      s.toUpstream <+: (s.step .upstream (.arrives (.data (b :: more)))).toUpstream := by
  cases nr with
  | dialing => exact absurd rfl (connected _)
  | @greeting client upstream src rcv op nil sent op' nil' =>
    -- Only the first byte is taken as the rendezvous; the relay finds the others of its chunk.
    cases first nil'
    obtain ⟨left, step, payload, os, no⟩ := step_greeting setting client nil more
    rw [step]
    constructor
    · rw [nil', List.nil_append]
      refine .relaying (by simp [payload]) os no (Relay.unhindered_start op op' ?_ ?_)
      · exact Direction.eq_each sent rcv
      · exact Direction.eq_each src rfl
    · exact Relay.delivered_prefix_settle
        { client
          upstream := { upstream.apply (.arrives (.data (Rendezvous.byte :: more))) with source := left } }
        .forward
  | @relaying relay rest first' os no un =>
    have un := un.step_upstream (.data (b :: more))
    have os : (rest ++ [Arrival.data (b :: more)]).Orderly := os.append no (.data .nil)
    constructor
    · exact .relaying (by simp [first']) os (by simp [no]) un
    · exact Relay.delivered_prefix_step relay .forward (.upstream, .arrives (.data (b :: more)))

/-! ## Moves of the far end -/

/-- The far session starts by waiting for the preamble. -/
lemma far_start (setting : Setting) : Far setting [] [] (start setting).far :=
  .greeting rfl rfl setting.backwardSink.2 rfl rfl

/-- Once it is connected, the far session sends the rendezvous and relays. -/
lemma Far.connect {s : Inbound} (fr : Far setting toFar fromDest s) :
    Far setting toFar fromDest (s.answer (.connected .plain) { sink := setting.destSink }) ∧
      s.toClient <+: (s.answer (.connected .plain) { sink := setting.destSink }).toClient ∧
      ∀ client target, s.answer (.connected .plain) { sink := setting.destSink } ≠
        .dialing client target := by
  cases fr with
  | greeting src rcv op nil nil' =>
    exact ⟨.greeting src rcv op nil nil', List.prefix_refl _, by rintro _ _ ⟨⟩⟩
  | relaying eq un => exact ⟨.relaying eq un, List.prefix_refl _, by rintro _ _ ⟨⟩⟩
  | @dialing client rcv op eq nil =>
    obtain ⟨ok, op'⟩ := Rendezvous.send_of_open op
    obtain ⟨whole, -⟩ := Rendezvous.fault_send ok
    have answer : (Inbound.dialing client setting.dest.toText).answer (.connected .plain)
        { sink := setting.destSink } = .relaying setting.dest.toText
          (Relay.start (client.absorb (Rendezvous.send client.sink).written)
            { sink := setting.destSink }) := by
      simp only [Inbound.answer, Inbound.connect, ok]
    have silent : (Inbound.dialing client setting.dest.toText).toClient = [] := rcv
    have sent : (client.absorb (Rendezvous.send client.sink).written).received = [Rendezvous.byte] := by
      rw [Endpoint.absorb, rcv, whole]
      rfl
    rw [answer, silent]
    refine ⟨.relaying eq (Relay.unhindered_start op' setting.destSink.2 ?_ ?_), List.nil_prefix,
      by rintro _ _ ⟨⟩⟩
    · exact Direction.eq_each rfl sent
    · exact Direction.eq_each rfl nil.symm

/-- The connection hands something to the far session. -/
lemma Far.step_client {s : Inbound} (other : setting.dest.toText ≠ setting.own)
    (fr : Far setting toFar fromDest s) (a : Arrival)
    (first : toFar = [] → a = .data setting.preamble) :
    Far setting (toFar ++ [a]) fromDest (s.react setting.own .client (.arrives a)) ∧
      s.toClient <+: (s.react setting.own .client (.arrives a)).toClient := by
  cases fr with
  | @greeting client src rcv op nil nil' =>
    cases first nil
    have source : (client.apply (.arrives (.data setting.preamble))).source =
        [.data setting.preamble] := by
      rw [Relay.source_apply, src]
      rfl
    have react : (Inbound.greeting client).react setting.own .client
        (.arrives (.data setting.preamble)) =
        .dialing { client.apply (.arrives (.data setting.preamble)) with source := [] }
          setting.dest.toText := by
      have read : Preamble.read [.data setting.preamble] = (.arrived setting.dest.toText, []) :=
        Preamble.read_of_valid setting.valid []
      simp only [Inbound.react, Inbound.greet, source, read, Inbound.dial, if_neg other]
    rw [react, nil]
    exact ⟨.dialing rcv op rfl nil', List.prefix_refl _⟩
  | @dialing client rcv op eq nil =>
    have eq : toFar ++ [a] =
        .data setting.preamble :: (client.apply (.arrives a)).source := by
      rw [eq, Relay.source_apply]
      rfl
    exact ⟨.dialing (by simp [rcv]) op eq nil, List.prefix_refl _⟩
  | @relaying relay rest eq un =>
    have un := un.step_client a
    constructor
    · exact .relaying (by rw [eq]; rfl) un
    · exact Relay.delivered_prefix_step relay .backward (.client, .arrives a)

/-- The destination sends to the far session. -/
lemma Far.step_dest {s : Inbound} (fr : Far setting toFar fromDest s) (a : Arrival)
    (connected : s.upstream?.isSome = true) :
    Far setting toFar (fromDest ++ [a]) (s.react setting.own .upstream (.arrives a)) ∧
      s.toClient <+: (s.react setting.own .upstream (.arrives a)).toClient := by
  cases fr with
  | greeting => cases connected
  | dialing => cases connected
  | @relaying relay rest eq un =>
    have un := un.step_upstream a
    constructor
    · exact .relaying eq un
    · exact Relay.delivered_prefix_step relay .backward (.upstream, .arrives a)

/-! ## What the two ends have done -/

/-- Until the near session is connected, it has sent nothing. -/
lemma Near.toUpstream_of_dialing {s : Outbound} {client : Endpoint} (eq : s.stage = .dialing client) :
    s.toUpstream = [] := by
  simp [Outbound.toUpstream, Outbound.upstream?, eq]

/-- The near session has sent a part of the preamble and what came from its client behind it. -/
lemma Near.toUpstream_prefix {s : Outbound} (nr : Near setting fromClient toNear s) :
    s.toUpstream <+: setting.preamble ++ fromClient.payload := by
  cases nr with
  | dialing => exact List.nil_prefix
  | @greeting client upstream _ _ _ _ sent =>
    have eq : (setting.nearAt (.greeting client upstream)).toUpstream = setting.preamble := sent
    rw [eq]
    exact List.prefix_append _ _
  | relaying _ _ _ un =>
    apply (un.delivered .forward).trans
    exact (List.prefix_append_right_inj _).mpr fromClient.ahead_prefix_payload

/-- Until the connection hands something to the near session, it waits, and once connected it has sent the
preamble. -/
lemma Near.waits {s : Outbound} (nr : Near setting fromClient [] s) :
    s.result? = none ∧ s.farEnd ≠ .ended ∧ s.toClient = [] ∧
      ((∀ client, s.stage ≠ .dialing client) → s.toUpstream = setting.preamble) := by
  cases nr with
  | dialing _ rcv => exact ⟨rfl, nofun, rcv, fun connected => absurd rfl (connected _)⟩
  | greeting _ rcv _ _ sent => exact ⟨rfl, nofun, rcv, fun _ => sent⟩
  | relaying first => cases first

/-- Once it does, the near session runs until its client ends. -/
lemma Near.relays {s : Outbound} (plain : setting.nearPlan.tls = none)
    (nr : Near setting fromClient toNear s) (os : fromClient.Orderly) (ne : toNear ≠ []) :
    s.toUpstream = setting.preamble ++ fromClient.payload ∧
      Rendezvous.byte :: s.toClient <+: toNear.payload ∧
      ((.finish ∉ fromClient ∧ s.result? = none ∧ s.farEnd ≠ .ended ∧
          toNear.payload = Rendezvous.byte :: s.toClient) ∨
        (.finish ∈ fromClient ∧ s.result? = some (.ok ()) ∧ s.farEnd = .ended)) := by
  cases nr with
  | dialing _ _ _ nil => exact absurd nil ne
  | greeting _ _ _ _ _ _ nil => exact absurd nil ne
  | @relaying relay rest first os' no un =>
    have back : (setting.nearAt (.relaying relay)).toClient <+: rest.payload :=
      (un.delivered .backward).trans rest.ahead_prefix_payload
    rw [first, List.cons_prefix_cons]
    rcases un.cases_of_orderly os os' no with ⟨endless, run, all⟩ | ⟨mem, en, all, drained⟩
    · refine ⟨all .forward, ⟨rfl, back⟩, .inl ⟨endless, ?_, ?_, ?_⟩⟩
      · simp [Outbound.result?, Setting.nearAt, Relay.result?, run]
      · simp [Outbound.farEnd, Setting.nearAt, run]
      · exact congrArg _ (all .backward).symm
    · refine ⟨all, ⟨rfl, back⟩, .inr ⟨mem, ?_, ?_⟩⟩
      · simp [Outbound.result?, Setting.nearAt, Relay.result?, en]
      · -- A session that leaves nothing unread closes in good order, and so the peer observes an end.
        have empty : relay.upstream.source = [] := drained
        simp [Outbound.farEnd, Setting.nearAt, en, plain, FarEnd.ofDropped, empty]

/-- Nothing changes the near session once it has ended its direction. -/
lemma Near.stays {s : Outbound} (nr : Near setting fromClient toNear s) (en : s.farEnd = .ended) :
    (∀ side event, s.step side event = s) ∧ ∀ reach peer, s.answer reach peer = s := by
  cases nr with
  | dialing => cases en
  | greeting => cases en
  | @relaying relay =>
    cases result : relay.ending with
    | none => simp [Outbound.farEnd, Setting.nearAt, result] at en
    | some x =>
      refine ⟨fun side event => ?_, fun reach peer => rfl⟩
      simp [Outbound.step, Setting.nearAt, Relay.step_of_ended result]

/-- The far session dials the destination and nothing else. -/
lemma Far.eq_of_mem_dials {s : Inbound} (fr : Far setting toFar fromDest s) :
    ∀ target ∈ s.dials, target = setting.dest.toText := by
  cases fr with
  | greeting => nofun
  | dialing => simp [Inbound.dials]
  | relaying => simp [Inbound.dials]

/-- The far session has sent back a part of the rendezvous and the destination's bytes behind it, and has sent on
nothing but what came behind the preamble. -/
lemma Far.prefixes {s : Inbound} (fr : Far setting toFar fromDest s) :
    s.toClient <+: Rendezvous.byte :: fromDest.payload ∧
      (s.toUpstream = [] ∨ setting.preamble ++ s.toUpstream <+: toFar.payload) := by
  cases fr with
  | @greeting client _ rcv =>
    have nil : (Inbound.greeting client).toClient = [] := rcv
    rw [nil]
    exact ⟨List.nil_prefix, .inl rfl⟩
  | @dialing client rcv =>
    have nil : (Inbound.dialing client setting.dest.toText).toClient = [] := rcv
    rw [nil]
    exact ⟨List.nil_prefix, .inl rfl⟩
  | @relaying relay rest eq un =>
    constructor
    · apply (un.delivered .backward).trans
      exact (List.prefix_append_right_inj [Rendezvous.byte]).mpr fromDest.ahead_prefix_payload
    · rw [eq, Source.payload, List.prefix_append_right_inj]
      exact .inr ((un.delivered .forward).trans rest.ahead_prefix_payload)

/-- Until the connection hands something to the far session, it waits. -/
lemma Far.waits {s : Inbound} (fr : Far setting [] fromDest s) :
    s.result? = none ∧ s.toClient = [] ∧ s.upstream? = none := by
  cases fr with
  | greeting _ rcv => exact ⟨rfl, rcv, rfl⟩
  | dialing _ _ eq => cases eq
  | relaying eq => cases eq

/-- What is handed to the far session first is the preamble. -/
lemma Far.payload_ne_nil {s : Inbound} (fr : Far setting toFar fromDest s) (ne : toFar ≠ []) :
    toFar.payload ≠ [] := by
  cases fr with
  | greeting _ _ _ nil => exact absurd nil ne
  | dialing _ _ eq => simp [eq, setting.preamble_ne_nil]
  | relaying eq => simp [eq, setting.preamble_ne_nil]

/-- While it dials, it waits as well. -/
lemma Far.waits_of_dialing {s : Inbound} {client : Endpoint} {target : String}
    (fr : Far setting toFar fromDest s) (eq : s = .dialing client target) :
    s.result? = none ∧ s.toClient = [] := by
  subst eq
  cases fr with
  | dialing rcv => exact ⟨rfl, rcv⟩

/-- Once it is connected, the far session runs until the near one ends its direction. -/
lemma Far.relays {s : Inbound} (fr : Far setting toFar fromDest s) (os : toFar.Orderly)
    (os' : fromDest.Orderly) (no : .finish ∉ fromDest) (ne : toFar ≠ [])
    (connected : ∀ client target, s ≠ .dialing client target) :
    s.dials = [setting.dest.toText] ∧ toFar.payload = setting.preamble ++ s.toUpstream ∧
      ((.finish ∉ toFar ∧ s.result? = none ∧ s.toClient = Rendezvous.byte :: fromDest.payload) ∨
        (.finish ∈ toFar ∧ s.result? = some (.ok ()))) := by
  cases fr with
  | greeting _ _ _ nil => exact absurd nil ne
  | dialing => exact absurd rfl (connected _ _)
  | @relaying relay rest eq un =>
    rw [eq] at os ⊢
    rcases un.cases_of_orderly os.tail os' no with ⟨endless, run, all⟩ | ⟨mem, en, all, -⟩
    · have endless : .finish ∉ rest := endless
      refine ⟨rfl, congrArg _ (all .forward).symm, .inl ⟨by simpa using endless, ?_, all .backward⟩⟩
      · simp [Inbound.result?, Relay.result?, run]
    · refine ⟨rfl, congrArg _ all.symm, .inr ⟨List.mem_cons_of_mem _ mem, ?_⟩⟩
      simp [Inbound.result?, Relay.result?, en]

end Hop

end MeshProxy
