import MeshProxy.Proofs.Hop.Ends

/-!
# The two ends of a hop and what is in flight between them

`Hop.Inv` joins the phases of the two ends: the connection has handed over a part of what the other end has written,
and an end only when everything is handed over. Every move keeps it (`Inv.move`). What each end has done
(`Near.relays`, `Far.relays`) then adds up to what the hop as a whole does (`Inv.carried`).

The far session is over only when the near one is (`Inv.running`, `Near.stays`), so what the near one would read when
the far one gives up its stream is of no account, and the connection does not carry it.
-/

namespace MeshProxy

open Relay (Side)

namespace Hop

variable {setting : Setting} {h : Hop}

/-- What holds of a hop whatever has moved. -/
structure Inv (setting : Setting) (h : Hop) : Prop where
  near : Near setting h.fromClient h.toNear h.near
  far : Far setting h.toFar h.fromDest h.far
  forward : h.toFar.payload <+: h.near.toUpstream
  backward : h.toNear.payload <+: h.far.toClient
  fromClient : h.fromClient.Orderly
  toFar : h.toFar.Orderly
  toNear : h.toNear.Orderly ∧ .finish ∉ h.toNear
  fromDest : h.fromDest.Orderly ∧ .finish ∉ h.fromDest
  /-- The far session hears of an end when the near one has ended its direction and everything is handed over. -/
  ended : .finish ∈ h.toFar → h.near.farEnd = .ended ∧ h.toFar.payload = h.near.toUpstream

/-- What is handed over next follows what was handed over before. -/
lemma prefix_of_prefix_drop {handed chunk written : Bytes} (pre : handed <+: written)
    (next : chunk <+: written.drop handed.length) : handed ++ chunk <+: written := by
  obtain ⟨rest, rfl⟩ := pre
  rw [List.drop_left] at next
  exact (List.prefix_append_right_inj handed).mpr next

/-- Where nothing is in flight, everything is handed over. -/
lemma eq_of_drop_eq_nil {handed written : Bytes} (pre : handed <+: written)
    (nil : written.drop handed.length = []) : handed = written := by
  obtain ⟨rest, rfl⟩ := pre
  rw [List.drop_left] at nil
  rw [nil, List.append_nil]

/-- The invariant holds before anything moves. -/
lemma inv_start (setting : Setting) : Inv setting (start setting) where
  near := near_start setting
  far := far_start setting
  forward := List.nil_prefix
  backward := List.nil_prefix
  fromClient := .nil
  toFar := .nil
  toNear := ⟨.nil, by simp [start]⟩
  fromDest := ⟨.nil, by simp [start]⟩
  ended mem := by simp [start] at mem

/-- A near session that has written something is connected. -/
lemma connected_of_ne_nil (ne : h.near.toUpstream ≠ []) (client : Endpoint) :
    h.near.stage ≠ .dialing client :=
  fun eq => ne (Near.toUpstream_of_dialing eq)

namespace Inv

/-- Nothing is handed back before anything is handed on. -/
lemma toNear_eq_nil (inv : Inv setting h) (nil : h.toFar = []) : h.toNear = [] := by
  have far := inv.far
  rw [nil] at far
  have back := inv.backward
  rw [far.waits.2.1, List.prefix_nil] at back
  exact inv.toNear.1.eq_nil inv.toNear.2 back

/-- What is handed on first is the preamble. -/
lemma toUpstream_eq_preamble (inv : Inv setting h) (nil : h.toFar = [])
    (ne : h.near.toUpstream ≠ []) : h.near.toUpstream = setting.preamble := by
  have near := inv.near
  rw [inv.toNear_eq_nil nil] at near
  exact near.waits.2.2.2 (connected_of_ne_nil ne)

/-- Whatever the far session has written, something was handed to it and was written before. -/
lemma toUpstream_ne_nil (inv : Inv setting h) (ne : h.toFar ≠ []) : h.near.toUpstream ≠ [] := by
  intro nil
  have pre := inv.forward
  rw [nil, List.prefix_nil] at pre
  exact inv.far.payload_ne_nil ne pre

/-- As long as the connection hands on data, it has not handed on the end. -/
lemma not_mem_of_towardFar (inv : Inv setting h) (ne : h.towardFar ≠ []) : .finish ∉ h.toFar := by
  intro mem
  apply ne
  rw [towardFar, (inv.ended mem).2, List.drop_length]

/-- A move of the near session that takes back nothing it has written keeps the invariant, if it leaves a session
that has ended its direction as it is. -/
lemma of_near {near' : Outbound} {fromClient' toNear' : Source} (inv : Inv setting h)
    (nr : Near setting fromClient' toNear' near') (kept : h.near.toUpstream <+: near'.toUpstream)
    (os : fromClient'.Orderly) (os' : toNear'.Orderly ∧ .finish ∉ toNear')
    (backward : toNear'.payload <+: h.far.toClient) (stays : h.near.farEnd = .ended → near' = h.near) :
    Inv setting { h with near := near', fromClient := fromClient', toNear := toNear' } where
  near := nr
  far := inv.far
  forward := inv.forward.trans kept
  backward := backward
  fromClient := os
  toFar := inv.toFar
  toNear := os'
  fromDest := inv.fromDest
  ended mem := by
    obtain ⟨en, all⟩ := inv.ended mem
    rw [stays en]
    exact ⟨en, all⟩

/-- The client sends or ends. -/
lemma clientGives (inv : Inv setting h) (no : .finish ∉ h.fromClient) {a : Arrival}
    (os : Source.Orderly [a]) : Inv setting (h.clientGives a) := by
  obtain ⟨nr, kept⟩ := inv.near.step_client a
  exact inv.of_near nr kept (inv.fromClient.append no os) inv.toNear inv.backward
    fun en => (inv.near.stays en).1 _ _

/-- The connection hands data to the near session. -/
lemma nearHears (inv : Inv setting h) {b : UInt8} {more : Bytes} (next : b :: more <+: h.towardNear) :
    Inv setting (h.nearHears (.data (b :: more))) := by
  have handed : h.toFar ≠ [] := by
    intro nil
    have far := inv.far
    rw [nil] at far
    rw [towardNear, far.waits.2.1, List.drop_nil, List.prefix_nil] at next
    cases next
  have first : h.toNear = [] → b = Rendezvous.byte := by
    -- Nothing was handed over, so what is in flight is all that the far session has written.
    intro nil
    rw [towardNear, nil] at next
    obtain ⟨rest, eq⟩ := next.trans inv.far.prefixes.1
    exact (List.cons.inj eq).1
  obtain ⟨nr, kept⟩ :=
    inv.near.step_peer b more (connected_of_ne_nil (inv.toUpstream_ne_nil handed)) first
  have os : (h.toNear ++ [Arrival.data (b :: more)]).Orderly :=
    inv.toNear.1.append inv.toNear.2 (.data .nil)
  refine inv.of_near nr kept inv.fromClient ⟨os, by simp [inv.toNear.2]⟩ ?_
    fun en => (inv.near.stays en).1 _ _
  simpa using prefix_of_prefix_drop inv.backward next

/-- A move of the far session that takes back nothing it has written keeps the invariant. -/
lemma of_far {far' : Inbound} {toFar' fromDest' : Source} (inv : Inv setting h)
    (fr : Far setting toFar' fromDest' far') (kept : h.far.toClient <+: far'.toClient)
    (os : toFar'.Orderly) (os' : fromDest'.Orderly ∧ .finish ∉ fromDest')
    (forward : toFar'.payload <+: h.near.toUpstream)
    (ended : .finish ∈ toFar' → h.near.farEnd = .ended ∧ toFar'.payload = h.near.toUpstream) :
    Inv setting { h with far := far', toFar := toFar', fromDest := fromDest' } where
  near := inv.near
  far := fr
  forward := forward
  backward := inv.backward.trans kept
  fromClient := inv.fromClient
  toFar := os
  toNear := inv.toNear
  fromDest := os'
  ended := ended

/-- The connection hands data to the far session. -/
lemma farHears_data (inv : Inv setting h) (other : setting.dest.toText ≠ setting.own) {b : UInt8}
    {more : Bytes} (next : b :: more <+: h.towardFar)
    (whole : h.toFar = [] → b :: more = h.towardFar) :
    Inv setting (h.farHears setting (.data (b :: more))) := by
  have flight : h.towardFar ≠ [] := by
    intro nil
    rw [nil, List.prefix_nil] at next
    cases next
  have endless := inv.not_mem_of_towardFar flight
  have first : h.toFar = [] → Arrival.data (b :: more) = .data setting.preamble := by
    intro nil
    have all : h.towardFar = h.near.toUpstream := by rw [towardFar, nil]; rfl
    rw [whole nil, all, inv.toUpstream_eq_preamble nil (all ▸ flight)]
  obtain ⟨fr, kept⟩ := inv.far.step_client other (.data (b :: more)) first
  have os : (h.toFar ++ [Arrival.data (b :: more)]).Orderly :=
    inv.toFar.append endless (.data .nil)
  refine inv.of_far fr kept os inv.fromDest ?_ ?_
  · simpa using prefix_of_prefix_drop inv.forward next
  · intro mem
    simp [endless] at mem

/-- The connection hands the end to the far session. -/
lemma farHears_finish (inv : Inv setting h) (other : setting.dest.toText ≠ setting.own)
    (en : h.near.farEnd = .ended) (nil : h.towardFar = []) (no : .finish ∉ h.toFar) :
    Inv setting (h.farHears setting .finish) := by
  -- The end is never handed over first: the near session ends only when the rendezvous has come back.
  have first : h.toFar = [] → Arrival.finish = .data setting.preamble := by
    intro nil
    have near := inv.near
    rw [inv.toNear_eq_nil nil] at near
    exact absurd en near.waits.2.1
  have all : (h.toFar ++ [Arrival.finish]).payload = h.near.toUpstream := by
    simpa using eq_of_drop_eq_nil inv.forward nil
  obtain ⟨fr, kept⟩ := inv.far.step_client other .finish first
  have os : (h.toFar ++ [Arrival.finish]).Orderly := inv.toFar.append no .finish
  exact inv.of_far fr kept os inv.fromDest (all ▸ List.prefix_refl _) fun _ => ⟨en, all⟩

/-- The destination sends. -/
lemma destGives (inv : Inv setting h) (conn : h.far.upstream?.isSome = true) (b : UInt8)
    (more : Bytes) : Inv setting (h.destGives setting (.data (b :: more))) := by
  obtain ⟨fr, kept⟩ := inv.far.step_dest (.data (b :: more)) conn
  have os : (h.fromDest ++ [Arrival.data (b :: more)]).Orderly :=
    inv.fromDest.1.append inv.fromDest.2 (.data .nil)
  exact inv.of_far fr kept inv.toFar ⟨os, by simp [inv.fromDest.2]⟩ inv.forward inv.ended

/-- Every move keeps the invariant. -/
lemma move (inv : Inv setting h) (plain : setting.nearPlan.tls = none)
    (other : setting.dest.toText ≠ setting.own) (m : Move) : Inv setting (h.move setting m) := by
  cases m with
  | connectNear =>
    obtain ⟨nr, kept, _⟩ := inv.near.connect plain
    exact inv.of_near nr kept inv.fromClient inv.toNear inv.backward
      fun en => (inv.near.stays en).2 _ _
  | connectFar =>
    obtain ⟨fr, kept, _⟩ := inv.far.connect
    exact inv.of_far fr kept inv.toFar inv.fromDest inv.forward inv.ended
  | clientSends b more =>
    simp only [Hop.move]
    split
    case isTrue => exact inv
    case isFalse no => exact inv.clientGives no (.data .nil)
  | clientEnds =>
    simp only [Hop.move]
    split
    case isTrue => exact inv
    case isFalse no => exact inv.clientGives no .finish
  | destSends b more =>
    simp only [Hop.move]
    split
    case isTrue conn => exact inv.destGives conn b more
    case isFalse => exact inv
  | handFar n =>
    simp only [Hop.move]
    split
    case h_1 => exact inv
    case h_2 b more eq =>
      by_cases nil : h.toFar = []
      · rw [if_pos nil] at eq
        exact inv.farHears_data other (eq ▸ List.prefix_refl _) fun _ => eq.symm
      · rw [if_neg nil] at eq
        exact inv.farHears_data other (eq ▸ List.take_prefix _ _) (absurd · nil)
  | handNear n =>
    simp only [Hop.move]
    split
    case h_1 => exact inv
    case h_2 b more eq => exact inv.nearHears (eq ▸ List.take_prefix _ _)
  | endFar =>
    simp only [Hop.move]
    split
    case isTrue due => exact inv.farHears_finish other due.1 due.2.1 due.2.2
    case isFalse => exact inv

end Inv

/-- The invariant holds after every run. -/
lemma inv_run (plain : setting.nearPlan.tls = none) (other : setting.dest.toText ≠ setting.own)
    (moves : List Move) : Inv setting (run setting moves) := by
  have keep (h : Hop) (inv : Inv setting h) : Inv setting (moves.foldl (move setting) h) := by
    induction moves generalizing h with
    | nil => exact inv
    | cons m moves ih => exact ih _ (inv.move plain other m)
  exact keep _ (inv_start setting)

/-- What a hop does for its client and its destination. -/
structure Carried (setting : Setting) (h : Hop) : Prop where
  /-- Nothing but the destination is dialed. -/
  dials : ∀ target ∈ h.far.dials, target = setting.dest.toText
  /-- The destination has received a part of what the client sent. -/
  toDest : h.far.toUpstream <+: h.fromClient.payload
  /-- The client has received a part of what the destination sent. -/
  toClient : h.near.toClient <+: h.fromDest.payload
  /-- Neither session is over before the client ends. -/
  running : .finish ∉ h.fromClient → h.near.result? = none ∧ h.far.result? = none
  /-- When everything is handed over, each has received everything. -/
  delivered : h.Quiet → .finish ∉ h.fromClient → h.far.dials = [setting.dest.toText] ∧
    h.far.toUpstream = h.fromClient.payload ∧ h.near.toClient = h.fromDest.payload
  /-- If the client has ended by then, both sessions have ended well and the destination has received everything. -/
  ended : h.Quiet → .finish ∈ h.fromClient → h.near.result? = some (.ok ()) ∧
    h.far.result? = some (.ok ()) ∧ h.far.toUpstream = h.fromClient.payload

namespace Inv

/-- What the destination has received was sent by the client. -/
lemma toDest (inv : Inv setting h) : h.far.toUpstream <+: h.fromClient.payload := by
  rcases inv.far.prefixes.2 with nil | pre
  · rw [nil]
    exact List.nil_prefix
  · have carried := pre.trans (inv.forward.trans inv.near.toUpstream_prefix)
    exact (List.prefix_append_right_inj _).mp carried

/-- What the client has received was sent by the destination. -/
lemma toClient (inv : Inv setting h) (plain : setting.nearPlan.tls = none) :
    h.near.toClient <+: h.fromDest.payload := by
  by_cases nil : h.toNear = []
  · have near := inv.near
    rw [nil] at near
    rw [near.waits.2.2.1]
    exact List.nil_prefix
  · obtain ⟨_, pre, _⟩ := inv.near.relays plain inv.fromClient nil
    have carried := pre.trans (inv.backward.trans inv.far.prefixes.1)
    exact (List.cons_prefix_cons.mp carried).2

/-- Until the client ends, no end is handed over. -/
lemma not_mem_toFar (inv : Inv setting h) (plain : setting.nearPlan.tls = none)
    (endless : .finish ∉ h.fromClient) : .finish ∉ h.toFar := by
  intro mem
  have en := (inv.ended mem).1
  by_cases nil : h.toNear = []
  · have near := inv.near
    rw [nil] at near
    exact near.waits.2.1 en
  · obtain ⟨_, _, ⟨_, _, ne, _⟩ | ⟨mem', _⟩⟩ := inv.near.relays plain inv.fromClient nil
    · exact ne en
    · exact endless mem'

/-- Until the client ends, both sessions run. -/
lemma running (inv : Inv setting h) (plain : setting.nearPlan.tls = none)
    (endless : .finish ∉ h.fromClient) : h.near.result? = none ∧ h.far.result? = none := by
  constructor
  · by_cases nil : h.toNear = []
    · have near := inv.near
      rw [nil] at near
      exact near.waits.1
    · obtain ⟨_, _, ⟨_, run, _⟩ | ⟨mem, _⟩⟩ := inv.near.relays plain inv.fromClient nil
      · exact run
      · exact absurd mem endless
  · by_cases nil : h.toFar = []
    · have far := inv.far
      rw [nil] at far
      exact far.waits.1
    · by_cases dialing : ∃ client target, h.far = .dialing client target
      · obtain ⟨client, target, eq⟩ := dialing
        exact (inv.far.waits_of_dialing eq).1
      · simp only [not_exists] at dialing
        obtain ⟨_, _, ⟨_, run, _⟩ | ⟨mem, _⟩⟩ :=
          inv.far.relays inv.toFar inv.fromDest.1 inv.fromDest.2 nil dialing
        · exact run
        · exact absurd mem (inv.not_mem_toFar plain endless)

/-- When the hop is quiet, the connection has handed something over both ways. -/
lemma ne_nil_of_quiet (inv : Inv setting h) (quiet : h.Quiet) : h.toFar ≠ [] ∧ h.toNear ≠ [] := by
  have forward := eq_of_drop_eq_nil inv.forward quiet.towardFar
  have backward := eq_of_drop_eq_nil inv.backward quiet.towardNear
  have handed : h.toFar ≠ [] := by
    intro nil
    have near := inv.near
    rw [inv.toNear_eq_nil nil] at near
    rw [near.waits.2.2.2 quiet.near, nil] at forward
    exact setting.preamble_ne_nil forward.symm
  refine ⟨handed, fun nil => ?_⟩
  obtain ⟨_, _, ⟨_, _, back⟩ | ⟨mem, _⟩⟩ :=
    inv.far.relays inv.toFar inv.fromDest.1 inv.fromDest.2 handed quiet.far
  · rw [nil, back] at backward
    cases backward
  · have near := inv.near
    rw [nil] at near
    exact near.waits.2.1 (inv.ended mem).1

/-- When the hop is quiet, the destination has been dialed and has received everything. -/
lemma toDest_of_quiet (inv : Inv setting h) (plain : setting.nearPlan.tls = none) (quiet : h.Quiet) :
    h.far.dials = [setting.dest.toText] ∧ h.far.toUpstream = h.fromClient.payload := by
  obtain ⟨handed, handed'⟩ := inv.ne_nil_of_quiet quiet
  obtain ⟨sent, _⟩ := inv.near.relays plain inv.fromClient handed'
  obtain ⟨dials, arrived, _⟩ :=
    inv.far.relays inv.toFar inv.fromDest.1 inv.fromDest.2 handed quiet.far
  rw [eq_of_drop_eq_nil inv.forward quiet.towardFar, sent] at arrived
  exact ⟨dials, (List.append_cancel_left arrived).symm⟩

/-- The invariant says what the hop does. -/
lemma carried (inv : Inv setting h) (plain : setting.nearPlan.tls = none) : Carried setting h where
  dials := inv.far.eq_of_mem_dials
  toDest := inv.toDest
  toClient := inv.toClient plain
  running := inv.running plain
  delivered quiet endless := by
    obtain ⟨dials, toDest⟩ := inv.toDest_of_quiet plain quiet
    obtain ⟨handed, handed'⟩ := inv.ne_nil_of_quiet quiet
    refine ⟨dials, toDest, ?_⟩
    -- What the client received is what was handed back, which is what the far session wrote: all the
    -- destination sent.
    obtain ⟨_, _, ⟨_, _, _, back⟩ | ⟨mem, _⟩⟩ := inv.near.relays plain inv.fromClient handed'
    · obtain ⟨_, _, ⟨_, _, sent⟩ | ⟨mem, _⟩⟩ :=
        inv.far.relays inv.toFar inv.fromDest.1 inv.fromDest.2 handed quiet.far
      · rw [eq_of_drop_eq_nil inv.backward quiet.towardNear, sent] at back
        exact (List.cons.inj back).2.symm
      · exact absurd mem (inv.not_mem_toFar plain endless)
    · exact absurd mem endless
  ended quiet mem := by
    obtain ⟨_, toDest⟩ := inv.toDest_of_quiet plain quiet
    obtain ⟨handed, handed'⟩ := inv.ne_nil_of_quiet quiet
    obtain ⟨_, _, ⟨endless, _⟩ | ⟨_, ok, en⟩⟩ := inv.near.relays plain inv.fromClient handed'
    · exact absurd mem endless
    · obtain ⟨_, _, ⟨endless, _⟩ | ⟨_, ok'⟩⟩ :=
        inv.far.relays inv.toFar inv.fromDest.1 inv.fromDest.2 handed quiet.far
      · exact absurd (quiet.ended en) endless
      · exact ⟨ok, ok', toDest⟩

end Inv

end Hop

end MeshProxy
