import Mathlib
import MeshProxy.Proofs.Handshake.Exchange
import MeshProxy.Proofs.Handshake.Target

/-!
# A preamble that arrives in pieces

The preamble has neither a length nor an end mark, and its reader takes what the first read gives it. So when the bytes
of a target arrive in pieces, the first piece decides alone: it is the whole target, or a target that lacks the last
digits of the port, or it is refused (`Preamble.FirstPiece`). `read_of_pieces` proves that of every way to take and to
split the bytes, and `port_cut_short` that the second case arises: another destination is read than was sent.
-/

namespace MeshProxy

/-- The same host, and a port of fewer digits. -/
def Target.CutShort (target short : String) : Prop :=
  ∃ host port digits, Target.Spells target host port ∧ short.toList = host ++ ':' :: digits ∧
    digits <+: port ∧ digits ≠ port ∧ ∃ c ∈ digits, c.isDigit = true

namespace Preamble

/-- What a reader makes of the first piece of a target. -/
inductive FirstPiece (target : String) (piece : Bytes) : Awaited String → Prop where
  | whole :
    piece = bytesOf target →
    FirstPiece target piece (.arrived target)
  | short {text : String} :
    piece = bytesOf text →
    Target.CutShort target text →
    FirstPiece target piece (.arrived text)
  | refused {fault : HandshakeFault} :
    piece ≠ bytesOf target →
    (∀ text, Target.CutShort target text → piece ≠ bytesOf text) →
    FirstPiece target piece (.failed fault)

/-- The first piece of a target is the whole of it, or cut short behind a digit of the port, or no target. -/
lemma firstPiece_ofChunk {target : String} (valid : Target.fault? target = none) {piece : Bytes}
    (ne : piece ≠ []) (pre : piece <+: bytesOf target) :
    FirstPiece target piece
      (match ofChunk piece with
        | .error fault => .failed fault
        | .ok text => .arrived text) := by
  obtain ⟨-, host, port, sp⟩ := Target.fault?_eq_none_iff.mp valid
  cases ok : ofChunk piece with
  | ok text =>
    obtain ⟨rfl, valid'⟩ := ofChunk_eq_ok ok
    obtain ⟨digits, chars, less, digit⟩ := (Target.fault?_of_cut valid sp pre).mp valid'
    by_cases same : digits = port
    · -- All of the port is there, so nothing is missing.
      have eq : text = target := String.toList_inj.mp (by rw [chars, sp.chars, same])
      subst eq
      exact .whole rfl
    · exact .short rfl ⟨host, port, digits, sp, chars, less, same, digit⟩
  | error fault =>
    -- Both the target and whatever it is when it is cut short would have been read.
    have read {text : String} (eq : piece = bytesOf text) : Target.fault? text ≠ none := by
      intro valid'
      rw [ofChunk_of_text ne (Text.ofUtf8?_eq_some_iff.mpr eq) valid'] at ok
      cases ok
    refine .refused (fun eq => read eq valid) ?_
    rintro text ⟨host', port', digits, sp', chars, less, -, digit⟩ eq
    subst eq
    exact read rfl ((Target.fault?_of_cut valid sp' pre).mpr ⟨digits, chars, less, digit⟩)

/-- However a writer takes a target and however the bytes are split on their way, the reader answers as the first piece
decides, and leaves everything behind that piece. -/
theorem read_of_pieces {target : String} (valid : Target.fault? target = none) (sink : Sink)
    (piece : Bytes) (more : List Bytes) (ne : piece ≠ [])
    (split : (piece :: more).flatten = (send sink target).written.accepted) (later : Source) :
    FirstPiece target piece (read (.data piece :: (more.map .data ++ later))).1 ∧
      (read (.data piece :: (more.map .data ++ later))).2 = more.map .data ++ later := by
  have pre : piece <+: bytesOf target := by
    apply List.IsPrefix.trans _ (accepted_send sink target)
    rw [← split, List.flatten_cons]
    exact List.prefix_append _ _
  have fits : piece.length ≤ Target.maxBytes :=
    Nat.le_trans pre.length_le (Target.length_of_valid valid).1
  have first := firstPiece_ofChunk valid ne pre
  simp only [read, Source.read, if_pos fits]
  cases ok : ofChunk piece <;> exact ⟨by rw [ok] at first; exact first, rfl⟩

/-- A writer that takes eleven bytes at a time splits this target inside its port. -/
theorem read_of_pieces_split_in_port :
    Target.fault? "10.0.0.5:8080" = none ∧
      (send { limit := some 11 } "10.0.0.5:8080").written.pieces =
        [bytesOf "10.0.0.5:80", bytesOf "80"] ∧
      FirstPiece "10.0.0.5:8080" (bytesOf "10.0.0.5:80")
        (read [.data (bytesOf "10.0.0.5:80"), .data (bytesOf "80")]).1 :=
  ⟨by decide, by cbv,
    (read_of_pieces (by decide) { limit := some 11 } (bytesOf "10.0.0.5:80") [bytesOf "80"]
      (by decide) (by cbv) []).1⟩

/-- The reader of that target takes another one for it, so a target that is split is not always read as it was sent or
refused. -/
theorem port_cut_short :
    ¬ ∀ (target : String) (sink : Sink) (pieces : List Bytes), Target.fault? target = none →
      1 < pieces.length → (∀ piece ∈ pieces, piece ≠ []) →
      pieces.flatten = (send sink target).written.accepted →
      (read (pieces.map .data)).1 = .arrived target ∨
        ∃ fault, (read (pieces.map .data)).1 = .failed fault := by
  intro safe
  have either := safe "10.0.0.5:8080" { limit := some 11 } [bytesOf "10.0.0.5:80", bytesOf "80"]
    (by decide) (by decide) (by decide) (by cbv)
  have other : (read ([bytesOf "10.0.0.5:80", bytesOf "80"].map .data)).1 = .arrived "10.0.0.5:80" :=
    congrArg Prod.fst (read_of_valid (by decide) [.data (bytesOf "80")])
  rw [other] at either
  obtain same | ⟨fault, failed⟩ := either
  · injection same with same
    revert same
    decide
  · cases failed

end Preamble

end MeshProxy
