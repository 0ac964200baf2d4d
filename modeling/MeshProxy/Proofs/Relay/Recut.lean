import MeshProxy.Proofs.Relay.Symmetry

/-!
# A relay does not look at where chunks are cut

Two sources are a `Source.Recut` of each other if they hold the same arrivals, except that data which follow each
other may be cut into chunks differently. A writer does not notice, since writing in several goes is writing in one go.
So a flow makes the same of both sources, but for what it leaves unread when it fails (`Flow.run_recut`).

Two relays are `Alike` if they differ in what is unread in the upstream's stream, and not even in that as long as they
run. Relays stay so when the same happens to both, and when both upstreams bring the same bytes in chunks of their own
(`Relay.Alike.hear`).
-/

namespace MeshProxy

/-- The same arrivals, with the data between two others cut into chunks anywhere. An empty chunk is not a part of a
larger one, since a reader takes it for the end. -/
inductive Source.Recut : Source → Source → Prop where
  | nil : Recut [] []
  | cons {s t : Source} (arrival : Arrival) :
    Recut s t →
    Recut (arrival :: s) (arrival :: t)
  | left {front back : Bytes} {s t : Source} :
    front ≠ [] →
    back ≠ [] →
    Recut (.data (front ++ back) :: s) t →
    Recut (.data front :: .data back :: s) t
  | right {front back : Bytes} {s t : Source} :
    front ≠ [] →
    back ≠ [] →
    Recut s (.data (front ++ back) :: t) →
    Recut s (.data front :: .data back :: t)

namespace Source

lemma recut_refl (s : Source) : Recut s s := by
  induction s with
  | nil => exact .nil
  | cons a s ih => exact .cons a ih

variable {s t : Source} {chunk : Bytes} {chunks chunks' : List Bytes}

lemma Recut.symm (rc : Recut s t) : Recut t s := by
  induction rc with
  | nil => exact .nil
  | cons arrival _ ih => exact .cons arrival ih
  | left ne ne' _ ih => exact .right ne ne' ih
  | right ne ne' _ ih => exact .left ne ne' ih

lemma Recut.cut_left (ne : chunk ≠ []) (whole : ∀ c ∈ chunks, c ≠ [])
    (rc : Recut (.data (chunk :: chunks).flatten :: s) t) : Recut ((chunk :: chunks).map .data ++ s) t := by
  induction chunks generalizing chunk with
  | nil => simpa using rc
  | cons next chunks ih =>
    obtain ⟨ne', whole⟩ := List.forall_mem_cons.mp whole
    refine .left ne ne' (ih (by simp [ne]) whole ?_)
    simpa using rc

lemma Recut.cut_right (ne : chunk ≠ []) (whole : ∀ c ∈ chunks, c ≠ [])
    (rc : Recut s (.data (chunk :: chunks).flatten :: t)) : Recut s ((chunk :: chunks).map .data ++ t) :=
  (rc.symm.cut_left ne whole).symm

/-- Chunks of the same bytes are a recut of each other. -/
lemma recut_of_flatten_eq (whole : ∀ c ∈ chunks, c ≠ []) (whole' : ∀ c ∈ chunks', c ≠ [])
    (eq : chunks.flatten = chunks'.flatten) : Recut (chunks.map .data) (chunks'.map .data) := by
  cases chunks with
  | nil =>
    cases chunks' with
    | nil => exact .nil
    | cons chunk' chunks' => simp_all
  | cons chunk chunks =>
    cases chunks' with
    | nil => simp_all
    | cons chunk' chunks' =>
      obtain ⟨ne, whole⟩ := List.forall_mem_cons.mp whole
      obtain ⟨ne', whole'⟩ := List.forall_mem_cons.mp whole'
      have one : Recut [.data (chunk :: chunks).flatten] [.data (chunk' :: chunks').flatten] := by
        rw [eq]
        exact .cons _ .nil
      have rc := Recut.cut_left (s := []) ne whole (Recut.cut_right (t := []) ne' whole' one)
      simpa using rc

end Source

namespace Flow

/-- Pouring leaves the stream as one write of all bytes does, and fails for the same cause. -/
lemma pour_eq_writeAll (sink : Sink) (buffers : List Bytes) :
    (pour sink buffers).sink = (sink.writeAll buffers.flatten).sink ∧
      (pour sink buffers).refused.map (·.1) = (sink.writeAll buffers.flatten).refusal.map causeOf := by
  induction buffers generalizing sink with
  | nil => simp [pour, Sink.writeAll]
  | cons buffer more ih =>
    simp only [pour, List.flatten_cons]
    split
    case h_1 refusal ref =>
      have nf : ¬ sink.Fits buffer := by simp [← Sink.refusal_writeAll, ref]
      obtain ⟨same, same'⟩ := Sink.writeAll_append_of_not_fits nf more.flatten
      simp [same, same', ref]
    case h_2 ref =>
      obtain ⟨same, same'⟩ := (Sink.refusal_writeAll.mp ref).writeAll_append more.flatten
      rw [same, same']
      exact ih _

/-- A turn without what it leaves unread. -/
def Turn.emptied (t : Turn) : Turn := { t with unread := [] }

variable {sink : Sink} {flow : Flow} {bytes : Bytes}

lemma emptied_after (earlier : Bytes) (t : Turn) : (t.after earlier).emptied = t.emptied.after earlier := rfl

/-- A chunk that fits is carried as one write. -/
lemma run_data_of_fits (ne : bytes ≠ []) (fits : sink.Fits bytes) (s : Source) :
    run sink flow (.data bytes :: s) =
      (run (sink.writeAll bytes).sink ⟨flow.copied + bytes.length, true⟩ s).after bytes := by
  obtain ⟨acc, rfd, -, -⟩ := pour_spec sink (cut bufferSize bytes)
  obtain ⟨same, -⟩ := pour_eq_writeAll sink (cut bufferSize bytes)
  rw [flatten_cut] at acc rfd same
  rw [fits.take_eq] at acc
  simp only [run, ne, if_false, rfd.mpr fits, acc, same]

/-- A chunk that does not fit is refused as one write. -/
lemma run_data_of_not_fits (nf : ¬ sink.Fits bytes) (s : Source) :
    (run sink flow (.data bytes :: s)).emptied =
      ⟨sink.take bytes, [], (sink.writeAll bytes).sink, ⟨flow.copied + (sink.take bytes).length, true⟩,
        ((sink.writeAll bytes).refusal.map causeOf).map .error⟩ := by
  have ne : bytes ≠ [] := by
    rintro rfl
    exact nf sink.fits_nil
  obtain ⟨acc, rfd, -, -⟩ := pour_spec sink (cut bufferSize bytes)
  obtain ⟨same, cause⟩ := pour_eq_writeAll sink (cut bufferSize bytes)
  rw [flatten_cut] at acc rfd same cause
  simp only [run, ne, if_false]
  split
  case h_1 e back ref => simp [Turn.emptied, acc, same, ← cause, ref]
  case h_2 ref => exact absurd (rfd.mp ref) nf

/-- Two chunks are carried as one that holds the bytes of both. -/
lemma run_cut {front back : Bytes} (ne : front ≠ []) (ne' : back ≠ []) (sink : Sink) (flow : Flow) (s : Source) :
    (run sink flow (.data front :: .data back :: s)).emptied =
      (run sink flow (.data (front ++ back) :: s)).emptied := by
  by_cases fits : sink.Fits front
  · have rm := Sink.room_writeAll sink front
    rw [fits.take_eq] at rm
    have both := fits.append_iff rm back
    obtain ⟨same, same'⟩ := fits.writeAll_append back
    rw [run_data_of_fits ne fits, emptied_after]
    by_cases fits' : (sink.writeAll front).sink.Fits back
    · rw [run_data_of_fits ne' fits', run_data_of_fits (by simp [ne]) (both.mpr fits'), same]
      simp [Turn.after, Turn.emptied, Nat.add_assoc]
    · rw [run_data_of_not_fits fits', run_data_of_not_fits (fun all => fits' (both.mp all)), same, same',
        fits.take_append rm]
      simp [Turn.after, Nat.add_assoc]
  · rw [run_data_of_not_fits fits, run_data_of_not_fits (Sink.not_fits_append fits back),
      Sink.take_append_of_not_fits fits]
    obtain ⟨same, same'⟩ := Sink.writeAll_append_of_not_fits fits back
    rw [same, same']

/-- Where chunks are cut makes no difference to a flow. -/
lemma run_recut {s t : Source} (rc : s.Recut t) (sink : Sink) (flow : Flow) :
    (run sink flow s).emptied = (run sink flow t).emptied := by
  induction rc generalizing sink flow with
  | nil => rfl
  | left ne ne' _ ih => rw [run_cut ne ne', ih]
  | right ne ne' _ ih => rw [run_cut ne ne', ih]
  | @cons s t arrival _ ih =>
    have finish_same (s t : Source) : (finish sink flow s).emptied = (finish sink flow t).emptied := by
      simp only [finish]
      split <;> rfl
    cases arrival with
    | finish => exact finish_same _ _
    | fault e =>
      simp only [run]
      split
      · exact ih sink flow
      · rfl
    | data bytes =>
      by_cases nil : bytes = []
      · subst nil
        exact finish_same _ _
      · by_cases fits : sink.Fits bytes
        · rw [run_data_of_fits nil fits, run_data_of_fits nil fits, emptied_after, emptied_after, ih]
        · rw [run_data_of_not_fits fits, run_data_of_not_fits fits]

end Flow

/-- A stream without what is still to be read from it. -/
def Endpoint.emptied (e : Endpoint) : Endpoint := { e with source := [], recent := 0 }

/-- A stream on which several things arrive at once. -/
def Endpoint.arriveAll (e : Endpoint) (arrivals : Source) : Endpoint := arrivals.foldl arrive e

lemma Endpoint.source_arriveAll (e : Endpoint) (arrivals : Source) :
    (e.arriveAll arrivals).source = e.source ++ arrivals := by
  induction arrivals generalizing e with
  | nil => simp [arriveAll]
  | cons a arrivals ih =>
    have step := ih (e.arrive a)
    simpa [arriveAll, arrive] using step

lemma Endpoint.emptied_arriveAll (e : Endpoint) (arrivals : Source) : (e.arriveAll arrivals).emptied = e.emptied := by
  induction arrivals generalizing e with
  | nil => rfl
  | cons a arrivals ih => exact ih (e.arrive a)

lemma Endpoint.emptied_apply (e : Endpoint) (event : StreamEvent) :
    (e.apply event).emptied = (e.emptied.apply event).emptied := by cases event <;> rfl

namespace Relay

variable {r r' : Relay}

/-- A relay after several things that arrive from its upstream at once. -/
def hear (r : Relay) (arrivals : Source) : Relay :=
  match r.ending with
  | some _ => r
  | none => settle { r with upstream := r.upstream.arriveAll arrivals }

/-- A relay without what its upstream has still to be read. -/
def emptied (r : Relay) : Relay := { r with upstream := r.upstream.emptied }

/-- Relays that differ only in what is unread in the upstream's stream, and not even in that as long as they run. -/
structure Alike (r r' : Relay) : Prop where
  emptied : r.emptied = r'.emptied
  settled : r.Settled
  settled' : r'.Settled

lemma emptied_advance_forward (r : Relay) : (r.advance .forward).emptied = r.emptied.advance .forward := by
  have turn : r.emptied.turn .forward = r.turn .forward := rfl
  have ending : r.emptied.ending = r.ending := rfl
  simp only [advance, turn, ending]
  split
  · rfl
  · split <;> rfl

/-- A relay with the outcome of a turn of one direction. -/
def adopt (r : Relay) (d : Direction) (turn : Flow.Turn) : Relay :=
  match turn.ending with
  | none => r.absorb d turn
  | some result => (r.absorb d turn).close d result

lemma advance_of_running (run : r.ending = none) (d : Direction) : r.advance d = r.adopt d (r.turn d) := by
  simp only [advance, run]
  rfl

lemma emptied_adopt (r : Relay) (turn : Flow.Turn) :
    (r.adopt .backward turn).emptied = r.emptied.adopt .backward turn.emptied := by
  have ending : turn.emptied.ending = turn.ending := rfl
  simp only [adopt, ending]
  split <;> rfl

lemma emptied_eq_iff : r.emptied = r'.emptied ↔
    r.client = r'.client ∧ r.upstream.emptied = r'.upstream.emptied ∧ r.forward = r'.forward ∧
      r.backward = r'.backward ∧ r.ending = r'.ending := by
  rw [emptied, emptied, Relay.mk.injEq]

lemma alike_settle (run : r.ending = none) (same : r.emptied = r'.emptied)
    (rc : r.upstream.source.Recut r'.upstream.source) : r.settle.Alike r'.settle := by
  obtain ⟨client, -, -, backward, ending⟩ := emptied_eq_iff.mp same
  have run' : r'.ending = none := ending.symm.trans run
  refine ⟨?_, settled_settle run, settled_settle run'⟩
  have turns : (r.turn .backward).emptied = (r'.turn .backward).emptied := by
    simp only [turn, client, backward]
    exact Flow.run_recut rc _ _
  -- The backward turn reads the upstream's stream, and the forward one does not look at it.
  rw [settle, settle, emptied_advance_forward, emptied_advance_forward, advance_of_running run,
    advance_of_running run', emptied_adopt, emptied_adopt, same, turns]

lemma alike_start {client upstream upstream' : Endpoint} (same : upstream.emptied = upstream'.emptied)
    (rc : upstream.source.Recut upstream'.source) : (start client upstream).Alike (start client upstream') := by
  refine alike_settle rfl ?_ rc
  simp [emptied, same]

lemma Alike.result (al : r.Alike r') : r.result? = r'.result? := by
  have same : r.emptied.result? = r'.emptied.result? := congrArg result? al.emptied
  exact same

lemma Alike.events (al : r.Alike r') : r.sessionEvents = r'.sessionEvents := by
  have same : r.emptied.sessionEvents = r'.emptied.sessionEvents := congrArg sessionEvents al.emptied
  exact same

/-- As long as relays that are alike run, nothing is unread in the upstream's stream of either. -/
lemma Alike.unread (al : r.Alike r') (run : r.ending = none) :
    r'.ending = none ∧ r.upstream.source = [] ∧ r'.upstream.source = [] := by
  obtain ⟨-, -, -, -, ending⟩ := emptied_eq_iff.mp al.emptied
  have run' := ending.symm.trans run
  exact ⟨run', (al.settled run .backward).unread, (al.settled' run' .backward).unread⟩

/-- The same bytes from both upstreams leave relays alike, whatever chunks they come in. -/
lemma Alike.hear {as as' : Source} (al : r.Alike r') (rc : as.Recut as') : (r.hear as).Alike (r'.hear as') := by
  obtain ⟨client, upstream, forward, backward, ending⟩ := emptied_eq_iff.mp al.emptied
  cases en : r.ending with
  | some x => simpa [Relay.hear, en, ending.symm.trans en] using al
  | none =>
    obtain ⟨run', nil, nil'⟩ := al.unread en
    simp only [Relay.hear, en, run']
    refine alike_settle rfl ?_ ?_
    · rw [emptied_eq_iff, Endpoint.emptied_arriveAll, Endpoint.emptied_arriveAll]
      exact ⟨client, upstream, forward, backward, rfl⟩
    · simpa [Endpoint.source_arriveAll, nil, nil'] using rc

/-- So does the same event in both. -/
lemma Alike.step (al : r.Alike r') (e : Happening) : (r.step e.1 e.2).Alike (r'.step e.1 e.2) := by
  obtain ⟨client, upstream, forward, backward, ending⟩ := emptied_eq_iff.mp al.emptied
  cases en : r.ending with
  | some x =>
    rw [step_of_ended en, step_of_ended (ending.symm.trans en)]
    exact al
  | none =>
    obtain ⟨run', nil, nil'⟩ := al.unread en
    rw [step_of_running en, step_of_running run']
    obtain ⟨side, event⟩ := e
    cases side with
    | client =>
      refine alike_settle en ?_ ?_
      · rw [emptied_eq_iff]
        exact ⟨congrArg (·.apply event) client, upstream, forward, backward, ending⟩
      · simpa [Relay.meet, nil, nil'] using Source.Recut.nil
    | upstream =>
      refine alike_settle en ?_ ?_
      · rw [emptied_eq_iff]
        refine ⟨client, ?_, forward, backward, ending⟩
        simp only [Relay.meet]
        rw [Endpoint.emptied_apply, upstream, ← Endpoint.emptied_apply]
      · simpa [Relay.meet, source_apply, nil, nil'] using Source.recut_refl _

end Relay

end MeshProxy
