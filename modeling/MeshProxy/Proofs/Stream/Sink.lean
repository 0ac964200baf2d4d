import MeshProxy.Stream.Sink
import Mathlib.Tactic.Common

/-!
# What a writer takes

A stream takes bytes until a fault is due. `Sink.room` is the number of bytes it takes before it refuses one, if
there is such a number, and `Sink.take` is what it takes of given bytes. Writing everything (`Sink.writeAll`) is
described by these alone: `accepted_writeAll` says which bytes are accepted, whatever the pieces, `refusal_writeAll`
when the writing is refused, and `room_writeAll` how the room shrinks. A write changes nothing about flushing. In which way
a stream refuses is told by `Sink.refusal?`, and it keeps to that way while it takes bytes (`refusal?_writeAll`).

Bytes may be written in one go or in several: the stream is the same afterwards (`Fits.writeAll_append`).
-/

namespace MeshProxy

@[simp] lemma flatten_cut (size : Nat) (bytes : Bytes) : (cut size bytes).flatten = bytes := by
  induction bytes using cut.induct size with
  | case1 => simp [cut]
  | case2 b rest ih =>
    rw [cut, List.flatten_cons, ih, List.cons_append, List.take_append_drop]

namespace Sink

/-- The number of bytes that a stream takes before it refuses one, unless it takes any number. -/
def room (sink : Sink) : Option Nat :=
  if sink.limit = some 0 then some 0
  else
    match sink.fault with
    | some (after, .fails _) => some after
    | some (after, .takesNothing) => some after
    | _ => none

/-- There is room for all of the bytes. -/
def Fits (sink : Sink) (bytes : Bytes) : Prop := ∀ n, sink.room = some n → bytes.length ≤ n

instance (sink : Sink) (bytes : Bytes) : Decidable (sink.Fits bytes) :=
  inferInstanceAs (Decidable (∀ n ∈ sink.room, bytes.length ≤ n))

/-- What a stream takes of bytes that are written to it. -/
def take (sink : Sink) (bytes : Bytes) : Bytes :=
  match sink.room with
  | none => bytes
  | some n => bytes.take n

/-- A stream that refuses neither a byte nor a flush. -/
structure Open (sink : Sink) : Prop where
  room : sink.room = none
  flush : sink.flushFault = none

/-- Bytes that there is room for are taken whole. -/
lemma Fits.take_eq {sink : Sink} {bytes : Bytes} (fits : sink.Fits bytes) :
    sink.take bytes = bytes := by
  cases e : sink.room with
  | none => simp [Sink.take, e]
  | some n => simp [Sink.take, e, List.take_of_length_le (fits n e)]

/-- Of bytes that there is no room for, as many are taken as there is room for. -/
lemma exists_room_of_not_fits {sink : Sink} {bytes : Bytes} (nf : ¬ sink.Fits bytes) :
    ∃ n, sink.room = some n ∧ n < bytes.length ∧ sink.take bytes = bytes.take n := by
  simp only [Fits, not_forall, Nat.not_le] at nf
  obtain ⟨n, e, lt⟩ := nf
  exact ⟨n, e, lt, by simp [Sink.take, e]⟩

/-- Of what is written to it, a stream takes a part from the front. -/
lemma take_prefix (sink : Sink) (bytes : Bytes) : sink.take bytes <+: bytes := by
  cases e : sink.room with
  | none => simp [Sink.take, e]
  | some n =>
    simp only [Sink.take, e]
    exact List.take_prefix _ _

lemma fits_nil (sink : Sink) : sink.Fits [] := fun _ _ => Nat.zero_le _

/-- If a stream refuses some bytes, it takes no more when others follow them. -/
lemma take_append_of_not_fits {sink : Sink} {bytes : Bytes} (nf : ¬ sink.Fits bytes) (more : Bytes) :
    sink.take (bytes ++ more) = sink.take bytes := by
  obtain ⟨n, e, lt, tk⟩ := exists_room_of_not_fits nf
  rw [tk]
  simp [Sink.take, e, List.take_append_of_le_length (Nat.le_of_lt lt)]

/-- If a stream has room for some bytes, it takes of those behind them what its later self takes. -/
lemma Fits.take_append {sink later : Sink} {bytes : Bytes} (fits : sink.Fits bytes)
    (rm : later.room = sink.room.map (· - bytes.length)) (more : Bytes) :
    sink.take (bytes ++ more) = bytes ++ later.take more := by
  cases e : sink.room with
  | none => simp [Sink.take, e, rm]
  | some n => simp [Sink.take, e, rm, List.take_append, List.take_of_length_le (fits n e)]

/-- Bytes in a row fit if the first do and the later self of the stream has room for the others. -/
lemma Fits.append_iff {sink later : Sink} {bytes : Bytes} (fits : sink.Fits bytes)
    (rm : later.room = sink.room.map (· - bytes.length)) (more : Bytes) :
    sink.Fits (bytes ++ more) ↔ later.Fits more := by
  cases e : sink.room with
  | none => simp [Fits, e, rm]
  | some n =>
    have le := fits n e
    simp only [Fits, e, rm, Option.map_some, Option.some.injEq, forall_eq', List.length_append]
    omega

/-- Bytes in a row do not fit if the first do not. -/
lemma not_fits_append {sink : Sink} {bytes : Bytes} (nf : ¬ sink.Fits bytes) (more : Bytes) :
    ¬ sink.Fits (bytes ++ more) := by
  intro fits
  apply nf
  intro n e
  have le := fits n e
  rw [List.length_append] at le
  omega

@[simp] lemma flatten_piecesOf (sink : Sink) (bytes : Bytes) :
    (sink.piecesOf bytes).flatten = bytes := by
  cases e : sink.limit <;> simp [piecesOf, e]

/-- A write to a stream that takes nothing at a time is refused and accepts nothing. -/
lemma writeNothing_spec {sink : Sink} (zero : sink.limit = some 0) :
    sink.writeNothing.accepted = [] ∧ sink.writeNothing.refusal ≠ none ∧
      sink.writeNothing.sink.room = some 0 ∧ sink.writeNothing.sink.flushFault = sink.flushFault := by
  simp only [writeNothing]
  split <;> simp [Written.accepted, room, zero]

/-- The four facts about a write, case by case. -/
lemma writeAll_spec (sink : Sink) (bytes : Bytes) :
    (sink.writeAll bytes).accepted = sink.take bytes ∧
      ((sink.writeAll bytes).refusal = none ↔ sink.Fits bytes) ∧
      (sink.writeAll bytes).sink.room = sink.room.map (· - (sink.take bytes).length) ∧
      (sink.writeAll bytes).sink.flushFault = sink.flushFault := by
  by_cases nil : bytes = []
  · subst nil
    cases e : sink.room <;> simp [writeAll, Written.accepted, Sink.take, Fits, e]
  by_cases zero : sink.limit = some 0
  · have r : sink.room = some 0 := by simp [room, zero]
    obtain ⟨acc, ref, rm, fl⟩ := writeNothing_spec zero
    simp [writeAll, nil, zero, acc, ref, rm, fl, r, Sink.take, Fits]
  -- From here on the writer takes bytes; only its fault decides how many.
  match e : sink.fault with
  | none => simp [writeAll, nil, zero, e, Written.accepted, Sink.take, Fits, room]
  | some (after, fault) =>
    by_cases le : bytes.length ≤ after
    · cases fault <;>
        simp [writeAll, nil, zero, e, le, Written.accepted, Sink.take, Fits, room,
          List.take_of_length_le]
    · have lt : after < bytes.length := Nat.lt_of_not_le le
      cases fault <;>
        simp [writeAll, nil, zero, e, le, Written.accepted, Sink.take, Fits, room,
          Nat.min_eq_left (Nat.le_of_lt lt)]

/-- Writing everything accepts what there is room for. -/
@[simp] lemma accepted_writeAll (sink : Sink) (bytes : Bytes) :
    (sink.writeAll bytes).accepted = sink.take bytes :=
  (sink.writeAll_spec bytes).1

/-- Writing everything is refused exactly when there is no room for it. -/
lemma refusal_writeAll {sink : Sink} {bytes : Bytes} :
    (sink.writeAll bytes).refusal = none ↔ sink.Fits bytes :=
  (sink.writeAll_spec bytes).2.1

/-- What is accepted takes up room. -/
lemma room_writeAll (sink : Sink) (bytes : Bytes) :
    (sink.writeAll bytes).sink.room = sink.room.map (· - (sink.take bytes).length) :=
  (sink.writeAll_spec bytes).2.2.1

/-- A write does not change how the stream answers a flush. -/
@[simp] lemma flushFault_writeAll (sink : Sink) (bytes : Bytes) :
    (sink.writeAll bytes).sink.flushFault = sink.flushFault :=
  (sink.writeAll_spec bytes).2.2.2

/-! ## How a stream refuses -/

/-- How a stream refuses a byte that it has no room for. -/
def refusal? (sink : Sink) : Option Refusal :=
  if sink.limit = some 0 then
    match sink.fault with
    | some (0, .fails e) => some (.fault e)
    | _ => some .tookNothing
  else
    match sink.fault with
    | some (_, .fails e) => some (.fault e)
    | some (_, .takesNothing) => some .tookNothing
    | _ => none

/-- A write for which there is no room is refused as the stream refuses. -/
lemma refusal_writeAll_of_not_fits {sink : Sink} {bytes : Bytes} (nf : ¬ sink.Fits bytes) :
    (sink.writeAll bytes).refusal = sink.refusal? := by
  have nil : bytes ≠ [] := by
    rintro rfl
    exact nf sink.fits_nil
  by_cases zero : sink.limit = some 0
  · simp only [writeAll, nil, zero, if_true, if_false, writeNothing, refusal?]
    split <;> simp_all
  · match e : sink.fault with
    | none => exact absurd (by simp [Fits, room, zero, e]) nf
    | some (after, .interrupts) => exact absurd (by simp [Fits, room, zero, e]) nf
    | some (after, .fails fault) =>
      have le : ¬ bytes.length ≤ after := by simpa [Fits, room, zero, e] using nf
      simp [writeAll, nil, zero, e, le, refusal?]
    | some (after, .takesNothing) =>
      have le : ¬ bytes.length ≤ after := by simpa [Fits, room, zero, e] using nf
      simp [writeAll, nil, zero, e, le, refusal?]

/-- A write for which there is room changes nothing about how the stream refuses. -/
lemma refusal?_writeAll {sink : Sink} {bytes : Bytes} (fits : sink.Fits bytes) :
    (sink.writeAll bytes).sink.refusal? = sink.refusal? := by
  by_cases nil : bytes = []
  · simp [writeAll, nil]
  by_cases zero : sink.limit = some 0
  · have le := fits 0 (by simp [room, zero])
    exact absurd (List.length_eq_zero_iff.mp (Nat.le_zero.mp le)) nil
  · match e : sink.fault with
    | none => simp [writeAll, nil, zero, e]
    | some (after, .interrupts) =>
      by_cases le : bytes.length ≤ after <;> simp [writeAll, nil, zero, e, le, refusal?]
    | some (after, .fails fault) =>
      have le := fits after (by simp [room, zero, e])
      simp [writeAll, nil, zero, e, le, refusal?]
    | some (after, .takesNothing) =>
      have le := fits after (by simp [room, zero, e])
      simp [writeAll, nil, zero, e, le, refusal?]

/-! ## Writing in several goes -/

/-- What is refused stays refused when more follows, and leaves the stream as it is. -/
lemma writeAll_append_of_not_fits {sink : Sink} {bytes : Bytes} (nf : ¬ sink.Fits bytes) (more : Bytes) :
    (sink.writeAll (bytes ++ more)).sink = (sink.writeAll bytes).sink ∧
      (sink.writeAll (bytes ++ more)).refusal = (sink.writeAll bytes).refusal := by
  refine ⟨?_, ?_⟩
  · have nil : bytes ≠ [] := by
      rintro rfl
      exact nf sink.fits_nil
    by_cases zero : sink.limit = some 0
    · simp [writeAll, nil, zero]
    · match e : sink.fault with
      | none => exact absurd (by simp [Fits, room, zero, e]) nf
      | some (after, .interrupts) => exact absurd (by simp [Fits, room, zero, e]) nf
      | some (after, .fails fault) =>
        have lt : after < bytes.length := by simpa [Fits, room, zero, e] using nf
        have lt' : ¬ bytes.length + more.length ≤ after := by omega
        simp [writeAll, nil, zero, e, Nat.not_le.mpr lt, lt']
      | some (after, .takesNothing) =>
        have lt : after < bytes.length := by simpa [Fits, room, zero, e] using nf
        have lt' : ¬ bytes.length + more.length ≤ after := by omega
        simp [writeAll, nil, zero, e, Nat.not_le.mpr lt, lt']
  · rw [refusal_writeAll_of_not_fits nf, refusal_writeAll_of_not_fits (not_fits_append nf more)]

/-- Behind bytes that it has room for, a stream writes others as it would in one go. -/
lemma Fits.writeAll_append {sink : Sink} {bytes : Bytes} (fits : sink.Fits bytes) (more : Bytes) :
    (sink.writeAll (bytes ++ more)).sink = ((sink.writeAll bytes).sink.writeAll more).sink ∧
      (sink.writeAll (bytes ++ more)).refusal = ((sink.writeAll bytes).sink.writeAll more).refusal := by
  have rm := room_writeAll sink bytes
  rw [fits.take_eq] at rm
  have both := fits.append_iff rm more
  refine ⟨?_, ?_⟩
  · by_cases nil : bytes = []
    · simp [nil, writeAll]
    by_cases nil' : more = []
    · simp [nil', writeAll]
    by_cases zero : sink.limit = some 0
    · have le := fits 0 (by simp [room, zero])
      exact absurd (List.length_eq_zero_iff.mp (Nat.le_zero.mp le)) nil
    · match e : sink.fault with
      | none => simp [writeAll, nil, nil', zero, e]
      | some (after, fault) =>
        by_cases le : bytes.length ≤ after
        · by_cases le' : bytes.length + more.length ≤ after
          · have left : more.length ≤ after - bytes.length := by omega
            simp [writeAll, nil, nil', zero, e, le, le', left, Nat.sub_sub]
          · have left : ¬ more.length ≤ after - bytes.length := by omega
            cases fault <;> simp [writeAll, nil, nil', zero, e, le, le', left]
        · -- The fault is due within the first bytes, so it is one that a writer gets over.
          have le' : ¬ bytes.length + more.length ≤ after := by omega
          cases fault with
          | interrupts => simp [writeAll, nil, nil', zero, e, le, le']
          | fails cause => exact absurd (fits after (by simp [room, zero, e])) le
          | takesNothing => exact absurd (fits after (by simp [room, zero, e])) le
  · by_cases fits' : (sink.writeAll bytes).sink.Fits more
    · rw [refusal_writeAll.mpr fits', refusal_writeAll.mpr (both.mpr fits')]
    · rw [refusal_writeAll_of_not_fits fits', refusal_writeAll_of_not_fits (fun all => fits' (both.mp all)),
        refusal?_writeAll fits]

end Sink

end MeshProxy
