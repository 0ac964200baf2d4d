import MeshProxy.Proofs.Relay.Step

/-!
# A relay does not look at what it carries

`rename f` puts `f b` for every byte `b`, in what arrives at a stream, in what is unread there, and in what has been
received. Chunks keep their lengths, and faults and sinks have no bytes to rename. Whatever a relay is made of commutes with
renaming, from the cutting of a chunk into buffers up: a write (`Sink.writeAll_map`), the pouring of buffers
(`Flow.pour_map`), a turn of a flow (`Flow.run_rename`), a step of a relay (`Relay.step_rename`).

So the relay of renamed streams is the renamed relay (`relay_transparent`). Renaming reaches neither the result nor the
events of a session, so neither can depend on a byte that was carried.
-/

namespace MeshProxy

section
variable (f : UInt8 → UInt8)

def Arrival.rename : Arrival → Arrival
  | .data bytes => .data (bytes.map f)
  | .finish => .finish
  | .fault e => .fault e

def Source.rename (s : Source) : Source := s.map (Arrival.rename f)

def StreamEvent.rename : StreamEvent → StreamEvent
  | .arrives arrival => .arrives (arrival.rename f)
  | event => event

def Endpoint.rename (e : Endpoint) : Endpoint :=
  { e with source := e.source.rename f, received := e.received.map f }

def Written.rename (w : Written) : Written := { w with pieces := w.pieces.map (List.map f) }

def Flow.Poured.rename (p : Poured) : Poured :=
  { p with
    accepted := p.accepted.map f
    refused := p.refused.map fun (e, back) => (e, back.map f) }

def Flow.Turn.rename (t : Turn) : Turn :=
  { t with delivered := t.delivered.map f, unread := t.unread.rename f }

def Relay.rename (r : Relay) : Relay :=
  { r with client := r.client.rename f, upstream := r.upstream.rename f }

def Relay.Happening.rename (e : Happening) : Happening := (e.1, e.2.rename f)

end

variable {f : UInt8 → UInt8}

@[simp] lemma Source.rename_cons (a : Arrival) (s : Source) :
    Source.rename f (a :: s) = a.rename f :: s.rename f := rfl

lemma cut_map (size : Nat) (bytes : Bytes) :
    cut size (bytes.map f) = (cut size bytes).map (List.map f) := by
  induction bytes using cut.induct size with
  | case1 => simp [cut]
  | case2 b rest ih =>
    rw [List.map_cons, cut, cut, ← List.map_take, ← List.map_drop, ih]
    rfl

namespace Sink

lemma piecesOf_map (sink : Sink) (bytes : Bytes) :
    sink.piecesOf (bytes.map f) = (sink.piecesOf bytes).map (List.map f) := by
  cases e : sink.limit <;> simp [piecesOf, e, cut_map]

/-- A write is taken, cut and refused by the number of its bytes. -/
lemma writeAll_map (sink : Sink) (bytes : Bytes) :
    sink.writeAll (bytes.map f) = (sink.writeAll bytes).rename f := by
  by_cases nil : bytes = []
  · subst nil
    simp [writeAll, Written.rename]
  by_cases zero : sink.limit = some 0
  · simp only [writeAll, List.map_eq_nil_iff, nil, zero, if_true, if_false, writeNothing, Written.rename]
    split <;> rfl
  · simp only [writeAll, List.map_eq_nil_iff, nil, zero, if_false, List.length_map, ← List.map_take,
      ← List.map_drop, piecesOf_map]
    obtain _ | ⟨after, fault⟩ := sink.fault
    · rfl
    · by_cases le : bytes.length ≤ after
      · simp [le, Written.rename]
      · cases fault <;> simp [le, Written.rename]

end Sink

lemma Written.accepted_rename (w : Written) : (w.rename f).accepted = w.accepted.map f := by
  simp [Written.accepted, Written.rename, List.map_flatten]

namespace Flow

lemma pour_map (sink : Sink) (buffers : List Bytes) :
    pour sink (buffers.map (List.map f)) = (pour sink buffers).rename f := by
  induction buffers generalizing sink with
  | nil => rfl
  | cons buffer more ih =>
    simp only [List.map_cons, pour, Sink.writeAll_map, Written.accepted_rename]
    cases ref : (sink.writeAll buffer).refusal with
    | some refusal => simp [Written.rename, ref, Poured.rename, List.map_flatten]
    | none =>
      have ih := ih (sink.writeAll buffer).sink
      simp [Written.rename, ref, ih, Poured.rename]

lemma putBack_map (bytes : Bytes) (rest : Source) :
    putBack (bytes.map f) (rest.rename f) = (putBack bytes rest).rename f := by
  by_cases nil : bytes = [] <;> simp [putBack, nil, Source.rename, Arrival.rename]

lemma finish_rename (sink : Sink) (flow : Flow) (unread : Source) :
    finish sink flow (unread.rename f) = (finish sink flow unread).rename f := by
  cases e : sink.flushFault <;> simp [finish, e, Turn.rename]

lemma rest_rename (sink : Sink) (flow : Flow) : rest sink flow = (rest sink flow).rename f := by
  simp only [rest]
  split
  · split <;> rfl
  · rfl

/-- A turn over renamed arrivals is the renamed turn. -/
lemma run_rename (sink : Sink) (flow : Flow) (source : Source) :
    run sink flow (source.rename f) = (run sink flow source).rename f := by
  induction source generalizing sink flow with
  | nil => exact rest_rename sink flow
  | cons arrival unread ih =>
    cases arrival with
    | finish => exact finish_rename sink flow (.finish :: unread)
    | fault e =>
      simp only [Source.rename_cons, Arrival.rename, run]
      split
      · exact ih sink flow
      · rfl
    | data bytes =>
      by_cases nil : bytes = []
      · subst nil
        exact finish_rename sink flow unread
      · -- The buffers of a renamed chunk are the renamed buffers, so it is refused where the chunk is.
        simp only [Source.rename_cons, Arrival.rename, run, List.map_eq_nil_iff, nil, if_false, cut_map, pour_map]
        cases ref : (pour sink (cut bufferSize bytes)).refused with
        | some refused =>
          obtain ⟨e, back⟩ := refused
          simp [Poured.rename, ref, Turn.rename, putBack_map]
        | none => simp [Poured.rename, ref, ih, Turn.after, Turn.rename]

end Flow

namespace Relay

variable {r : Relay}

lemma turn_rename (r : Relay) (d : Direction) : (r.rename f).turn d = (r.turn d).rename f := by
  cases d <;> exact Flow.run_rename _ _ _

lemma absorb_rename (r : Relay) (d : Direction) (t : Flow.Turn) :
    (r.rename f).absorb d (t.rename f) = (r.absorb d t).rename f := by
  cases d <;> simp [absorb, rename, Endpoint.rename, Flow.Turn.rename]

lemma close_rename (r : Relay) (d : Direction) (result : Except IoFault Unit) :
    (r.rename f).close d result = (r.close d result).rename f := rfl

lemma advance_rename (r : Relay) (d : Direction) : (r.rename f).advance d = (r.advance d).rename f := by
  cases en : r.ending with
  | some x =>
    rw [advance_of_ended en]
    exact advance_of_ended en
  | none =>
    have en' : (r.rename f).ending = none := en
    have same : ((r.turn d).rename f).ending = (r.turn d).ending := rfl
    simp only [advance, en, en', turn_rename, same]
    split
    · exact absorb_rename r d _
    · rw [absorb_rename]
      exact close_rename _ d _

lemma settle_rename (r : Relay) : (r.rename f).settle = r.settle.rename f := by
  rw [settle, advance_rename, advance_rename]
  rfl

lemma meet_rename (r : Relay) (e : Happening) :
    (r.rename f).meet (e.rename f).1 (e.rename f).2 = (r.meet e.1 e.2).rename f := by
  have apply_rename (e : Endpoint) (event : StreamEvent) :
      (e.rename f).apply (event.rename f) = (e.apply event).rename f := by
    cases event with
    | arrives arrival =>
      cases arrival <;>
        simp [Endpoint.apply, Endpoint.arrive, StreamEvent.rename, Endpoint.rename, Arrival.rename, Source.rename]
    | _ => rfl
  obtain ⟨side, event⟩ := e
  cases side <;> simp [Happening.rename, meet, rename, apply_rename]

/-- A step with a renamed event is the renamed step. -/
lemma step_rename (r : Relay) (e : Happening) :
    (r.rename f).step (e.rename f).1 (e.rename f).2 = (r.step e.1 e.2).rename f := by
  cases en : r.ending with
  | some x =>
    have en' : (r.rename f).ending = some x := en
    rw [step_of_ended en, step_of_ended en']
  | none =>
    have en' : (r.rename f).ending = none := en
    rw [step_of_running en, step_of_running en', meet_rename, settle_rename]

lemma after_rename (r : Relay) (es : List Happening) :
    (r.rename f).after (es.map (Happening.rename f)) = (r.after es).rename f := by
  induction es generalizing r with
  | nil => rfl
  | cons e es ih => rw [List.map_cons, after_cons, step_rename, ih, after_cons]

/-- One relay carries the images of the bytes that the other carries, and does nothing else differently. -/
structure Image (f : UInt8 → UInt8) (r r' : Relay) : Prop where
  state : r' = r.rename f
  delivered : ∀ d, r'.delivered d = (r.delivered d).map f
  /-- The streams are open, shut or dropped alike. -/
  shut : ∀ side, (r'.endpoint side).shut = (r.endpoint side).shut
  dropped : ∀ side, (r'.endpoint side).dropped = (r.endpoint side).dropped
  result : r'.result? = r.result?
  /-- The same is reported, down to the numbers of bytes. -/
  events : r'.sessionEvents = r.sessionEvents

lemma image_rename (f : UInt8 → UInt8) (r : Relay) : Image f r (r.rename f) where
  state := rfl
  delivered d := by cases d <;> rfl
  shut side := by cases side <;> rfl
  dropped side := by cases side <;> rfl
  result := rfl
  events := rfl

/-- Transparency: in every run of a relay, replacing the bytes that are supplied replaces the bytes that are delivered,
and nothing else. -/
theorem relay_transparent (f : UInt8 → UInt8) (client upstream : Endpoint) (es : List Happening) :
    Image f ((start client upstream).after es)
      ((start (client.rename f) (upstream.rename f)).after (es.map (Happening.rename f))) := by
  have start_rename : start (client.rename f) (upstream.rename f) = (start client upstream).rename f :=
    settle_rename { client, upstream }
  rw [start_rename, after_rename]
  exact image_rename f _

end Relay

end MeshProxy
