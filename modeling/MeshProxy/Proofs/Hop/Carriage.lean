import MeshProxy.Proofs.Hop.Invariant

/-!
# A hop carries what its two ends send

Whatever has moved, answering the dials and handing over what is in flight makes the hop quiet (`exists_quiet`): the
preamble goes to the far session, the rendezvous comes back, the near session relays what it has held back, and that is
handed over in turn, which makes the far session write nothing more. So the hop is never stuck, and together with the
invariant this says that it carries everything (`hop_carries`).
-/

namespace MeshProxy

namespace Hop

variable {setting : Setting} {h : Hop}

/-- Whether a move is one of the network: no party sends or ends. -/
def Move.isDelivery : Move → Bool
  | .clientSends _ _ => false
  | .clientEnds => false
  | .destSends _ _ => false
  | _ => true

/-- Handing over everything leaves nothing in flight. -/
lemma drop_length_append {handed chunk written : Bytes} (all : written.drop handed.length = chunk) :
    written.drop (handed ++ chunk).length = [] := by
  rw [List.length_append, ← List.drop_drop, all, List.drop_length]

/-- A large enough piece is everything that is in flight toward the far session. -/
lemma handFar_cases (setting : Setting) (h : Hop) :
    h.towardFar = [] ∧ h.move setting (.handFar h.towardFar.length) = h ∨
      ∃ b more, h.towardFar = b :: more ∧
        h.move setting (.handFar h.towardFar.length) = h.farHears setting (.data (b :: more)) := by
  have all : (if h.toFar = [] then h.towardFar else h.towardFar.take (h.towardFar.length + 1)) =
      h.towardFar := by
    rw [List.take_of_length_le (Nat.le_succ _), ite_self]
  simp only [Hop.move, all]
  cases h.towardFar with
  | nil => exact .inl ⟨rfl, rfl⟩
  | cons b more => exact .inr ⟨b, more, rfl, rfl⟩

/-- A large enough piece is everything that is in flight toward the near session. -/
lemma handNear_cases (setting : Setting) (h : Hop) :
    h.towardNear = [] ∧ h.move setting (.handNear h.towardNear.length) = h ∨
      ∃ b more, h.towardNear = b :: more ∧
        h.move setting (.handNear h.towardNear.length) = h.nearHears (.data (b :: more)) := by
  simp only [Hop.move, List.take_of_length_le (Nat.le_succ _)]
  cases h.towardNear with
  | nil => exact .inl ⟨rfl, rfl⟩
  | cons b more => exact .inr ⟨b, more, rfl, rfl⟩

/-- Nothing is in flight toward the far session once all of it is handed over. -/
lemma towardFar_handFar (setting : Setting) (h : Hop) :
    (h.move setting (.handFar h.towardFar.length)).towardFar = [] := by
  rcases handFar_cases setting h with ⟨nil, eq⟩ | ⟨b, more, all, eq⟩
  · rw [eq, nil]
  · rw [eq]
    have next := drop_length_append all
    simpa [towardFar, farHears] using next

/-- Nothing is in flight toward the near session once all of it is handed over. -/
lemma towardNear_handNear (setting : Setting) (h : Hop) :
    (h.move setting (.handNear h.towardNear.length)).towardNear = [] := by
  rcases handNear_cases setting h with ⟨nil, eq⟩ | ⟨b, more, all, eq⟩
  · rw [eq, nil]
  · rw [eq]
    have next := drop_length_append all
    simpa [towardNear, nearHears] using next

namespace Inv

/-- Once something is handed to it, a far session that is connected relays. -/
lemma relaying (inv : Inv setting h) (handed : h.toFar ≠ [])
    (connected : ∀ client target, h.far ≠ .dialing client target) :
    ∃ target relay, h.far = .relaying target relay := by
  cases eq : h.far with
  | greeting client =>
    have far := inv.far
    rw [eq] at far
    cases far with
    | greeting _ _ _ nil => exact absurd nil handed
  | dialing client target => exact absurd eq (connected client target)
  | refused client dialed upstream failure =>
    have far := inv.far
    rw [eq] at far
    cases far
  | relaying target relay => exact ⟨target, relay, rfl⟩

/-- What is handed to a far session that relays makes it write nothing back. -/
lemma farHears_quietly (inv : Inv setting h) (handed : h.toFar ≠ []) (endless : .finish ∉ h.toFar)
    (connected : ∀ client target, h.far ≠ .dialing client target) {a : Arrival}
    (inv' : Inv setting (h.farHears setting a)) :
    (h.farHears setting a).far.toClient = h.far.toClient ∧
      ∀ client target, (h.farHears setting a).far ≠ .dialing client target := by
  obtain ⟨target, relay, eq⟩ := inv.relaying handed connected
  constructor
  · obtain ⟨_, _, ⟨_, _, all⟩ | ⟨mem, _⟩⟩ :=
      inv.far.relays inv.toFar inv.fromDest.1 inv.fromDest.2 handed connected
    · -- It has written all that it owes already, and what it writes is never more than that.
      have kept : h.far.toClient <+: (h.farHears setting a).far.toClient := by
        simp only [farHears, eq]
        exact Relay.delivered_prefix_step relay .backward (.client, .arrives a)
      have bound : (h.farHears setting a).far.toClient <+: h.far.toClient := by
        rw [all]
        exact inv'.far.prefixes.1
      exact (kept.eq_of_length_le bound.length_le).symm
    · exact absurd mem endless
  · simp only [farHears, eq, Inbound.react]
    rintro _ _ ⟨⟩

/-- Handing over everything to the far session leaves nothing in flight the other way. -/
lemma towardNear_handFar (inv : Inv setting h) (other : setting.dest.toText ≠ setting.own)
    (handed : h.toFar ≠ []) (connected : ∀ client target, h.far ≠ .dialing client target)
    (nil : h.towardNear = []) :
    (h.move setting (.handFar h.towardFar.length)).towardNear = [] ∧
      (h.move setting (.handFar h.towardFar.length)).toFar ≠ [] ∧
      ∀ client target,
        (h.move setting (.handFar h.towardFar.length)).far ≠ .dialing client target := by
  rcases handFar_cases setting h with ⟨_, eq⟩ | ⟨b, more, all, eq⟩
  · rw [eq]
    exact ⟨nil, handed, connected⟩
  · have endless := inv.not_mem_of_towardFar (by simp [all])
    have inv' := inv.farHears_data other (all ▸ List.prefix_refl _) fun _ => all.symm
    obtain ⟨same, connected'⟩ := inv.farHears_quietly handed endless connected inv'
    rw [eq]
    refine ⟨?_, by simp [farHears], connected'⟩
    rw [towardNear, same]
    exact nil

/-- When nothing is in flight between sessions that are connected, handing over the end as well makes the hop
quiet. -/
lemma quiet_endFar (inv : Inv setting h) (other : setting.dest.toText ≠ setting.own)
    (handed : h.toFar ≠ []) (connected : ∀ client target, h.far ≠ .dialing client target)
    (nil : h.towardFar = []) (nil' : h.towardNear = []) : (h.move setting .endFar).Quiet := by
  have near := connected_of_ne_nil (inv.toUpstream_ne_nil handed)
  simp only [Hop.move]
  split
  case isTrue due =>
    obtain ⟨en, _, no⟩ := due
    have inv' := inv.farHears_finish other en nil no
    obtain ⟨same, connected'⟩ := inv.farHears_quietly handed no connected inv'
    refine ⟨near, connected', ?_, ?_, fun _ => by simp [farHears]⟩
    · simpa [towardFar, farHears] using nil
    · rw [towardNear, same]
      exact nil'
  case isFalse not_due =>
    refine ⟨near, connected, nil, nil', fun en => ?_⟩
    by_contra no
    exact not_due ⟨en, nil, no⟩

end Inv

/-- Handing over leaves the session that has written as it is. -/
lemma near_handFar (setting : Setting) (h : Hop) (n : Nat) : (h.move setting (.handFar n)).near = h.near := by
  simp only [move]
  split <;> rfl

/-- Handing over leaves the session that has written as it is, and all that was handed to it. -/
lemma far_handNear (setting : Setting) (h : Hop) (n : Nat) :
    (h.move setting (.handNear n)).far = h.far ∧ (h.move setting (.handNear n)).toFar = h.toFar := by
  simp only [move]
  split <;> exact ⟨rfl, rfl⟩

/-- If the near session is connected and nothing of it is in flight, something was handed over. -/
lemma Inv.toFar_ne_nil (inv : Inv setting h) (connected : ∀ client, h.near.stage ≠ .dialing client)
    (nil : h.towardFar = []) : h.toFar ≠ [] := by
  intro none
  have near := inv.near
  rw [inv.toNear_eq_nil none] at near
  rw [towardFar, none, near.waits.2.2.2 connected] at nil
  exact setting.preamble_ne_nil nil

/-- The network connects both sessions. -/
def connecting (setting : Setting) (h : Hop) : List Move :=
  [.connectNear, .handFar (h.move setting .connectNear).towardFar.length, .connectFar]

/-- The network hands over everything, an end included. -/
def handing (setting : Setting) (h : Hop) : List Move :=
  let handed := h.move setting (.handNear h.towardNear.length)
  [.handNear h.towardNear.length, .handFar handed.towardFar.length, .endFar]

/-- The network can connect both sessions. -/
lemma Inv.connecting (inv : Inv setting h) (plain : setting.nearPlan.tls = none)
    (other : setting.dest.toText ≠ setting.own) :
    ((connecting setting h).foldl (Hop.move setting) h).toFar ≠ [] ∧
      ∀ client target,
        ((connecting setting h).foldl (Hop.move setting) h).far ≠ .dialing client target := by
  have inv₁ := inv.move plain other .connectNear
  have connected := (inv.near.connect plain).2.2
  have inv₂ := inv₁.move plain other (.handFar (h.move setting .connectNear).towardFar.length)
  have handed := inv₂.toFar_ne_nil (by rw [near_handFar]; exact connected) (towardFar_handFar _ _)
  exact ⟨handed, inv₂.far.connect.2.2⟩

/-- The network can make a connected hop quiet. -/
lemma Inv.handing (inv : Inv setting h) (plain : setting.nearPlan.tls = none)
    (other : setting.dest.toText ≠ setting.own) (handed : h.toFar ≠ [])
    (connected : ∀ client target, h.far ≠ .dialing client target) :
    ((handing setting h).foldl (Hop.move setting) h).Quiet := by
  obtain ⟨far, toFar⟩ := far_handNear setting h h.towardNear.length
  have inv₁ := inv.move plain other (.handNear h.towardNear.length)
  have nil := towardNear_handNear setting h
  rw [← toFar] at handed
  rw [← far] at connected
  obtain ⟨nil', handed', connected'⟩ := inv₁.towardNear_handFar other handed connected nil
  have inv₂ := inv₁.move plain other
    (.handFar (h.move setting (.handNear h.towardNear.length)).towardFar.length)
  exact inv₂.quiet_endFar other handed' connected' (towardFar_handFar _ _) nil'

/-- Whatever has moved, the network can answer both dials and hand over everything: it is never stuck. -/
lemma exists_quiet (plain : setting.nearPlan.tls = none) (other : setting.dest.toText ≠ setting.own)
    (moves : List Move) :
    ∃ deliveries : List Move, (∀ m ∈ deliveries, m.isDelivery = true) ∧
      (run setting (moves ++ deliveries)).Quiet := by
  have run_append (ms ms' : List Move) :
      run setting (ms ++ ms') = ms'.foldl (move setting) (run setting ms) := List.foldl_append
  -- Two rounds: until both sessions are connected, and from there until nothing is in flight.
  let connect := connecting setting (run setting moves)
  obtain ⟨handed, connected⟩ := (inv_run plain other moves).connecting plain other
  rw [← run_append] at handed connected
  have inv := inv_run plain other (moves ++ connect)
  refine ⟨connect ++ handing setting (run setting (moves ++ connect)), ?_, ?_⟩
  · simp [connect, connecting, handing, Move.isDelivery]
  · rw [← List.append_assoc, run_append]
    exact inv.handing plain other handed connected

/-- A hop in the clear carries what its two ends send, whatever moves in whatever order, if the far sidecar does not
take the destination for itself; and from there it can always be made quiet. -/
theorem hop_carries (setting : Setting) (plain : setting.nearPlan.tls = none)
    (other : setting.dest.toText ≠ setting.own) (moves : List Move) :
    Carried setting (run setting moves) ∧
      ∃ deliveries : List Move, (∀ m ∈ deliveries, m.isDelivery = true) ∧
        (run setting (moves ++ deliveries)).Quiet :=
  ⟨(inv_run plain other moves).carried plain, exists_quiet plain other moves⟩

/-- Two sidecars on one machine, and a destination on another. -/
def sampleSetting : Setting :=
  let plan : Plan :=
    { bindIp := .v4 .loopback, internalPort := 18000, externalPort := 18001, externalTlsPort := 18443
      hopOverride := some "127.0.0.1", timeout := 5000, gateway := false, tls := none }
  { nearPlan := plan, farPlan := plan, dest := ⟨⟨10, 0, 0, 5⟩, 8080⟩ }

/-- A client that sends before the hop is connected and ends before anything has come back. -/
theorem hop_carries_sample :
    sampleSetting.nearPlan.tls = none ∧ sampleSetting.dest.toText ≠ sampleSetting.own ∧
      Carried sampleSetting (run sampleSetting
        [.clientSends 104 [105], .connectNear, .handFar 0, .connectFar, .destSends 111 [107], .clientEnds]) :=
  ⟨rfl, by cbv, (hop_carries sampleSetting rfl (by cbv) _).1⟩

end Hop

end MeshProxy
