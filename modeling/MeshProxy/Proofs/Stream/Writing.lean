import MeshProxy.Proofs.Stream.Sink

/-!
# Writing everything is a loop of single writes

One write is answered with the piece that the stream takes, which is empty if the stream takes nothing, or with a fault
(`Sink.write`). Whoever writes everything offers what is left until nothing is left: it goes on behind the piece that was
taken, it offers the same again after an interruption, and it stops at any other fault and at an empty piece
(`Sink.Writing`).

What `Sink.writeAll` computes at once is what this loop ends with, and the loop does end (`Sink.Regular.writing_iff`).
Its pieces are told by induction along the loop: none is empty, and none is longer than the stream takes at a time
(`Sink.Writing.pieces`).
-/

namespace MeshProxy

namespace Sink

/-- What a stream takes at a time of bytes that it accepts. -/
def bite (sink : Sink) (bytes : Bytes) : Bytes :=
  match sink.limit with
  | none => bytes
  | some size => bytes.take size

/-- One write: the answer, and the stream afterwards. -/
def write (sink : Sink) (bytes : Bytes) : Except IoFault Bytes × Sink :=
  match sink.fault with
  | none => (.ok (sink.bite bytes), sink)
  | some (0, .fails e) => (.error e, sink)
  | some (0, .takesNothing) => (.ok [], sink)
  | some (0, .interrupts) => (.error (.plain .interrupted), { sink with fault := none })
  | some (after + 1, fault) =>
    let piece := sink.bite (bytes.take (after + 1))
    (.ok piece, { sink with fault := some (after + 1 - piece.length, fault) })

/-- The loop that writes everything, and what it ends with. -/
inductive Writing : Sink → Bytes → Written → Prop where
  | done {sink : Sink} :
    Writing sink [] ⟨[], sink, none⟩
  | took {sink next : Sink} {bytes piece : Bytes} {w : Written} :
    bytes ≠ [] →
    sink.write bytes = (.ok piece, next) →
    piece ≠ [] →
    Writing next (bytes.drop piece.length) w →
    Writing sink bytes ⟨piece :: w.pieces, w.sink, w.refusal⟩
  | tookNothing {sink next : Sink} {bytes : Bytes} :
    bytes ≠ [] →
    sink.write bytes = (.ok [], next) →
    Writing sink bytes ⟨[], next, some .tookNothing⟩
  | again {sink next : Sink} {bytes : Bytes} {e : IoFault} {w : Written} :
    bytes ≠ [] →
    sink.write bytes = (.error e, next) →
    e.isInterruption = true →
    Writing next bytes w →
    Writing sink bytes w
  | failed {sink next : Sink} {bytes : Bytes} {e : IoFault} :
    bytes ≠ [] →
    sink.write bytes = (.error e, next) →
    e.isInterruption = false →
    Writing sink bytes ⟨[], next, some (.fault e)⟩

/-- A stream that takes something at a time, and that no interruption stops for good. -/
structure Regular (sink : Sink) : Prop where
  limit : sink.limit ≠ some 0
  lasting : ∀ n e, sink.fault = some (n, .fails e) → e.isInterruption = false

variable {sink next : Sink} {bytes piece : Bytes} {w : Written}

/-! ## One write -/

lemma limit_write (sink : Sink) (bytes : Bytes) : (sink.write bytes).2.limit = sink.limit := by
  rw [write]
  split <;> rfl

lemma length_bite_le {size : Nat} (at_once : sink.limit = some size) (bytes : Bytes) :
    (sink.bite bytes).length ≤ size := by
  rw [bite, at_once]
  exact List.length_take_le size bytes

lemma bite_prefix (sink : Sink) (bytes : Bytes) : sink.bite bytes <+: bytes := by
  rw [bite]
  split
  · exact List.prefix_refl bytes
  · exact List.take_prefix _ bytes

lemma bite_ne_nil (pos : sink.limit ≠ some 0) (ne : bytes ≠ []) : sink.bite bytes ≠ [] := by
  rw [bite]
  split
  case h_1 => exact ne
  case h_2 size at_once =>
    rw [at_once] at pos
    intro nil
    rcases List.take_eq_nil_iff.mp nil with zero | nil
    · exact pos (congrArg some zero)
    · exact ne nil

/-- A piece is no longer than a stream takes at a time. -/
lemma length_of_write {size : Nat} (at_once : sink.limit = some size)
    (took : sink.write bytes = (.ok piece, next)) : piece.length ≤ size := by
  rw [write] at took
  split at took
  case h_1 =>
    cases took
    exact length_bite_le at_once bytes
  case h_2 => cases took
  case h_3 =>
    cases took
    exact Nat.zero_le size
  case h_4 => cases took
  case h_5 =>
    cases took
    exact length_bite_le at_once _

/-! ## The loop -/

/-- No piece is empty, and none is longer than the stream takes at a time. -/
lemma Writing.pieces (wr : Writing sink bytes w) :
    ∀ piece ∈ w.pieces, piece ≠ [] ∧ ∀ size, sink.limit = some size → piece.length ≤ size := by
  induction wr with
  | done => nofun
  | tookNothing => nofun
  | failed => nofun
  | @again sink next bytes e w _ fault _ _ ih =>
    have same := sink.limit_write bytes
    rw [fault] at same
    rw [← same]
    exact ih
  | @took sink next bytes piece w _ took ne _ ih =>
    have same := sink.limit_write bytes
    rw [took] at same
    rw [same] at ih
    intro other mem
    cases mem with
    | head =>
      refine ⟨ne, ?_⟩
      intro size at_once
      exact length_of_write at_once took
    | tail _ mem => exact ih other mem

/-- The loop ends in one way at most. -/
lemma Writing.unique {w' : Written} (wr : Writing sink bytes w) (wr' : Writing sink bytes w') : w = w' := by
  induction wr generalizing w' with
  | done =>
    cases wr' with
    | done => rfl
    | took ne => exact absurd rfl ne
    | tookNothing ne => exact absurd rfl ne
    | again ne => exact absurd rfl ne
    | failed ne => exact absurd rfl ne
  | took ne took some _ ih =>
    cases wr' with
    | done => exact absurd rfl ne
    | took _ took' _ wr' =>
      cases took.symm.trans took'
      rw [ih wr']
    | tookNothing _ took' =>
      cases took.symm.trans took'
      exact absurd rfl some
    | again _ took' => cases took.symm.trans took'
    | failed _ took' => cases took.symm.trans took'
  | tookNothing ne took =>
    cases wr' with
    | done => exact absurd rfl ne
    | took _ took' some =>
      cases took.symm.trans took'
      exact absurd rfl some
    | tookNothing _ took' =>
      cases took.symm.trans took'
      rfl
    | again _ took' => cases took.symm.trans took'
    | failed _ took' => cases took.symm.trans took'
  | again ne fault int _ ih =>
    cases wr' with
    | done => exact absurd rfl ne
    | took _ fault' => cases fault.symm.trans fault'
    | tookNothing _ fault' => cases fault.symm.trans fault'
    | again _ fault' _ wr' =>
      cases fault.symm.trans fault'
      exact ih wr'
    | failed _ fault' no =>
      cases fault.symm.trans fault'
      rw [int] at no
      cases no
  | failed ne fault no =>
    cases wr' with
    | done => exact absurd rfl ne
    | took _ fault' => cases fault.symm.trans fault'
    | tookNothing _ fault' => cases fault.symm.trans fault'
    | again _ fault' int =>
      cases fault.symm.trans fault'
      rw [int] at no
      cases no
    | failed _ fault' =>
      cases fault.symm.trans fault'
      rfl

/-! ## What it ends with -/

/-- The pieces of some bytes are one bite and the pieces of what is behind it. -/
lemma piecesOf_eq_cons (pos : sink.limit ≠ some 0) (ne : bytes ≠ []) :
    sink.piecesOf bytes = sink.bite bytes :: sink.piecesOf (bytes.drop (sink.bite bytes).length) := by
  obtain ⟨b, more, rfl⟩ := List.exists_cons_of_ne_nil ne
  cases at_once : sink.limit with
  | none => simp [piecesOf, bite, at_once, cut]
  | some size =>
    cases size with
    | zero => exact absurd at_once pos
    | succ size =>
      have behind : more.drop size = (b :: more).drop (b :: more.take size).length := by
        rw [List.length_cons, List.drop_succ_cons, List.length_take]
        rcases Nat.le_total size more.length with le | le
        · rw [Nat.min_eq_left le]
        · rw [Nat.min_eq_right le, List.drop_length, List.drop_eq_nil_of_le le]
      simp only [piecesOf, bite, at_once, cut, List.take_succ_cons, Nat.add_sub_cancel]
      rw [behind]

lemma piecesOf_nil (sink : Sink) : sink.piecesOf [] = [] := by
  rw [piecesOf]
  split <;> rw [cut]

/-- A stream without a fault takes everything, a bite at a time. -/
lemma writing_of_faultless (pos : sink.limit ≠ some 0) (none : sink.fault = none) :
    Writing sink bytes ⟨sink.piecesOf bytes, sink, .none⟩ := by
  induction len : bytes.length using Nat.strongRecOn generalizing bytes with
  | ind n ih =>
    by_cases nil : bytes = []
    · rw [nil, piecesOf_nil]
      exact .done
    · have some := bite_ne_nil pos nil
      have less : (bytes.drop (sink.bite bytes).length).length < n := by
        have bitten := List.length_pos_iff.mpr some
        have left := List.length_pos_iff.mpr nil
        rw [List.length_drop]
        omega
      have took : sink.write bytes = (.ok (sink.bite bytes), sink) := by rw [write, none]
      rw [piecesOf_eq_cons pos nil]
      exact .took nil took some (ih _ less rfl)

/-- Up to its fault a stream takes everything, a bite at a time. -/
lemma writing_of_ahead (pos : sink.limit ≠ some 0) {after : Nat} {fault : WriteFault}
    (due : sink.fault = some (after, fault))
    (wr : Writing { sink with fault := some (after - bytes.length, fault) } (bytes.drop after) w) :
    Writing sink bytes ⟨sink.piecesOf (bytes.take after) ++ w.pieces, w.sink, w.refusal⟩ := by
  induction len : bytes.length using Nat.strongRecOn generalizing sink bytes after with
  | ind n ih =>
    by_cases nil : bytes = []
    · subst nil
      rw [List.take_nil, piecesOf_nil]
      simpa [← due] using wr
    cases after with
    | zero =>
      rw [List.take_zero, piecesOf_nil]
      simpa [← due] using wr
    | succ after =>
      let piece := sink.bite (bytes.take (after + 1))
      let next : Sink := { sink with fault := some (after + 1 - piece.length, fault) }
      have ahead : bytes.take (after + 1) ≠ [] := by simp [nil]
      have taken : piece ≠ [] := bite_ne_nil pos ahead
      have took : sink.write bytes = (.ok piece, next) := by rw [write, due]
      have pre : piece.length ≤ (bytes.take (after + 1)).length := (sink.bite_prefix _).length_le
      have positive : 0 < piece.length := List.length_pos_iff.mpr taken
      rw [List.length_take] at pre
      -- Behind the piece the fault is as much closer as there is less to write.
      have closer : after + 1 - piece.length - (bytes.drop piece.length).length = after + 1 - bytes.length := by
        rw [List.length_drop]
        omega
      have behind : (bytes.drop piece.length).drop (after + 1 - piece.length) = bytes.drop (after + 1) := by
        rw [List.drop_drop]
        congr 1
        omega
      have less : (bytes.drop piece.length).length < n := by
        rw [List.length_drop]
        omega
      have there : Writing
          { next with fault := some (after + 1 - piece.length - (bytes.drop piece.length).length, fault) }
          ((bytes.drop piece.length).drop (after + 1 - piece.length)) w := by
        rw [closer, behind]
        exact wr
      have nextPos : next.limit ≠ some 0 := pos
      have rest := ih _ less nextPos rfl there rfl
      have cons : sink.piecesOf (bytes.take (after + 1)) =
          piece :: next.piecesOf ((bytes.drop piece.length).take (after + 1 - piece.length)) := by
        rw [piecesOf_eq_cons pos ahead, List.drop_take]
        rfl
      rw [cons]
      exact .took nil took taken rest

/-- What is computed at once is what the loop ends with. -/
lemma Regular.writing_writeAll (rg : sink.Regular) (bytes : Bytes) : Writing sink bytes (sink.writeAll bytes) := by
  rw [writeAll]
  split
  case isTrue nil =>
    rw [nil]
    exact .done
  case isFalse =>
    rw [if_neg rg.limit]
    split
    case h_1 none => exact writing_of_faultless rg.limit none
    case h_2 after fault due =>
      split
      case isTrue le =>
        have nothing : Writing { sink with fault := some (after - bytes.length, fault) } (bytes.drop after)
            ⟨[], { sink with fault := some (after - bytes.length, fault) }, none⟩ := by
          rw [List.drop_eq_nil_of_le le]
          exact .done
        have wr := writing_of_ahead rg.limit due nothing
        rwa [List.take_of_length_le le, List.append_nil] at wr
      case isFalse lt =>
        have left : bytes.drop after ≠ [] := by
          intro nil
          exact lt (List.drop_eq_nil_iff.mp nil)
        have zero : after - bytes.length = 0 := by omega
        -- The bytes ahead of the fault are taken; what it does to the next write is all that differs.
        have up_to {w : Written} (wr : Writing { sink with fault := some (0, fault) } (bytes.drop after) w) :
            Writing sink bytes ⟨sink.piecesOf (bytes.take after) ++ w.pieces, w.sink, w.refusal⟩ := by
          apply writing_of_ahead rg.limit due
          rw [zero]
          exact wr
        split
        case h_1 e =>
          have wr := up_to (.failed left rfl (rg.lasting after e due))
          rwa [List.append_nil] at wr
        case h_2 =>
          have wr := up_to (.tookNothing left rfl)
          rwa [List.append_nil] at wr
        case h_3 =>
          have calm : Sink.limit { sink with fault := none } ≠ some 0 := rg.limit
          exact up_to (.again left rfl rfl (writing_of_faultless calm rfl))

theorem Regular.writing_iff (rg : sink.Regular) : Writing sink bytes w ↔ w = sink.writeAll bytes := by
  constructor
  · intro wr
    exact wr.unique (rg.writing_writeAll bytes)
  · intro eq
    rw [eq]
    exact rg.writing_writeAll bytes

end Sink

end MeshProxy
