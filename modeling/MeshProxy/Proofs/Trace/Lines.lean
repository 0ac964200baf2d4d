import MeshProxy.Trace.Tap
import Mathlib.Tactic.Common

/-!
# The lines of a trace

The lines of a trace are told from its bytes alone (`Lines`), and so is what is reported of them (`Pumped`): a tap knows
neither. It takes byte after byte, so it makes no difference how the bytes are split into reads (`Tap.run_reads`), and
in the end it has come to the same as a tap that is given whole lines (`Tap.finish_feedAll`). `lines_accounted` says
what that is, whether all lines are text or not.
-/

namespace MeshProxy.Trace

/-- The line in a piece that a line feed ends. One carriage return in front of the line feed belongs to the end. -/
def Ended (piece line : Bytes) : Prop :=
  piece = line ++ [0x0D] ∨ piece = line ∧ piece.getLast? ≠ some 0x0D

/-- The lines of a trace: one for each line feed, and one more behind the last of them if something follows. -/
inductive Lines : Bytes → List Bytes → Prop where
  | none :
    Lines [] []
  | unended {line : Bytes} :
    line ≠ [] →
    0x0A ∉ line →
    Lines line [line]
  | ended {piece line rest : Bytes} {lines : List Bytes} :
    0x0A ∉ piece →
    Ended piece line →
    Lines rest lines →
    Lines (piece ++ 0x0A :: rest) (line :: lines)

/-- What pumping these lines comes to. -/
inductive Pumped : List Bytes → List Event × Except Fault Nat → Prop where
  /-- All are text: each is shown and counted. -/
  | whole {texts : List String} :
    Pumped (texts.map bytesOf) (texts.map .line, .ok texts.length)
  /-- The first that is not text is the end: those in front of it are shown, and it is the fault. -/
  | cut {texts : List String} {bad : Bytes} {rest : List Bytes} :
    Text.ofUtf8? bad = none →
    Pumped (texts.map bytesOf ++ bad :: rest) (texts.map .line, .error (.notText (Text.firstFault bad)))

/-! ## The lines of some bytes -/

lemma Ended.unique {piece line other : Bytes} (ed : Ended piece line) (ed' : Ended piece other) : other = line := by
  obtain rfl | ⟨rfl, bare⟩ := ed
  · obtain eq | ⟨-, bare⟩ := ed'
    · exact (List.append_cancel_right eq).symm
    · simp at bare
  · obtain rfl | ⟨rfl, -⟩ := ed'
    · simp at bare
    · rfl

lemma ended_endedLine (piece : Bytes) : Ended piece (Tap.endedLine piece.reverse) := by
  obtain ⟨pending, rfl⟩ : ∃ pending : Bytes, piece = pending.reverse := ⟨_, piece.reverse_reverse.symm⟩
  rw [List.reverse_reverse]
  simp only [Tap.endedLine]
  split
  case h_1 before => exact .inl List.reverse_cons
  case h_2 bare =>
    refine .inr ⟨rfl, ?_⟩
    rw [List.getLast?_reverse]
    intro last
    cases pending with
    | nil => cases last
    | cons b before =>
      rw [List.head?_cons, Option.some.injEq] at last
      exact bare before (last ▸ rfl)

lemma eq_of_cut {piece other rest behind : Bytes} (no : 0x0A ∉ piece) (no' : 0x0A ∉ other)
    (eq : piece ++ 0x0A :: rest = other ++ 0x0A :: behind) : piece = other ∧ rest = behind := by
  -- the piece can be told from the whole: it is what stands in front of the first line feed
  have front {piece : Bytes} (rest : Bytes) (no : 0x0A ∉ piece) :
      (piece ++ 0x0A :: rest).takeWhile (· != 0x0A) = piece := by
    rw [List.takeWhile_append_of_pos]
    · simp
    · exact fun b mem => by simpa using fun eq : b = 0x0A => no (eq ▸ mem)
  have same : piece = other := by rw [← front rest no, eq, front behind no']
  subst same
  exact ⟨rfl, (List.cons.inj (List.append_cancel_left eq)).2⟩

lemma Lines.unique {content : Bytes} {lines others : List Bytes} (ls : Lines content lines)
    (ls' : Lines content others) : others = lines := by
  induction ls generalizing others with
  | none =>
    generalize eq : ([] : Bytes) = content at ls'
    cases ls' with
    | none => rfl
    | unended ne => exact absurd eq.symm ne
    | ended => simp at eq
  | @unended line ne no =>
    cases ls' with
    | none => exact absurd rfl ne
    | unended => rfl
    | ended => simp at no
  | @ended piece line rest lines no ed _ ih =>
    generalize eq : piece ++ 0x0A :: rest = content at ls'
    cases ls' with
    | none => simp at eq
    | unended _ no' => simp [← eq] at no'
    | ended no' ed' ls' =>
      obtain ⟨rfl, rfl⟩ := eq_of_cut no no' eq
      rw [ed.unique ed', ih ls']

lemma exists_lines (content : Bytes) : ∃ lines, Lines content lines := by
  -- the lines behind the first line feed are those of fewer bytes
  induction length : content.length using Nat.strongRecOn generalizing content with
  | ind n ih =>
    by_cases mem : 0x0A ∈ content
    · obtain ⟨piece, rest, rfl, no⟩ := List.eq_append_cons_of_mem mem
      obtain ⟨lines, ls⟩ := ih rest.length (by simp [← length]; omega) rest rfl
      exact ⟨_, .ended no (ended_endedLine piece) ls⟩
    · by_cases ne : content = []
      · exact ⟨[], ne ▸ .none⟩
      · exact ⟨[content], .unended ne mem⟩

/-! ## A tap that is given whole lines -/

namespace Tap

variable {tap : Tap}

/-- Takes a whole line. After a fault nothing happens any more. -/
def take (tap : Tap) (line : Bytes) : Tap := if tap.fault?.isSome then tap else tap.emit line

def takeAll (tap : Tap) (lines : List Bytes) : Tap := lines.foldl take tap

lemma feedAll_cons (b : UInt8) (bytes : Bytes) : tap.feedAll (b :: bytes) = (tap.feed b).feedAll bytes := rfl

lemma takeAll_cons (line : Bytes) (lines : List Bytes) :
    tap.takeAll (line :: lines) = (tap.take line).takeAll lines := rfl

lemma feedAll_append (before after : Bytes) : tap.feedAll (before ++ after) = (tap.feedAll before).feedAll after :=
  List.foldl_append

lemma takeAll_append (before after : List Bytes) : tap.takeAll (before ++ after) = (tap.takeAll before).takeAll after :=
  List.foldl_append

lemma feedAll_of_faulty (faulty : tap.fault?.isSome) (bytes : Bytes) : tap.feedAll bytes = tap := by
  induction bytes with
  | nil => rfl
  | cons b bytes ih =>
    have stuck : tap.feed b = tap := if_pos faulty
    rw [feedAll_cons, stuck, ih]

lemma takeAll_of_faulty (faulty : tap.fault?.isSome) (lines : List Bytes) : tap.takeAll lines = tap := by
  induction lines with
  | nil => rfl
  | cons line lines ih =>
    have stuck : tap.take line = tap := if_pos faulty
    rw [takeAll_cons, stuck, ih]

lemma finish_feedAll_of_faulty (faulty : tap.fault?.isSome) (content : Bytes) (lines : List Bytes) :
    (tap.feedAll content).finish = tap.takeAll lines := by
  rw [feedAll_of_faulty faulty, takeAll_of_faulty faulty]
  exact if_pos (.inl faulty)

/-- Bytes without a line feed wait for one. -/
lemma feedAll_piece (live : tap.fault? = none) {piece : Bytes} (no : 0x0A ∉ piece) :
    tap.feedAll piece = { tap with pending := piece.reverse ++ tap.pending } := by
  induction piece generalizing tap with
  | nil => rfl
  | cons b piece ih =>
    rw [List.mem_cons, not_or] at no
    have waits : tap.feed b = { tap with pending := b :: tap.pending } := by
      rw [feed, if_neg (by simp [live]), if_neg (Ne.symm no.1)]
    calc tap.feedAll (b :: piece)
        = feedAll { tap with pending := b :: tap.pending } piece := by rw [feedAll_cons, waits]
      _ = { tap with pending := piece.reverse ++ b :: tap.pending } := ih live no.2
      _ = { tap with pending := (b :: piece).reverse ++ tap.pending } := by simp

lemma pending_emit (line : Bytes) : (tap.emit line).pending = [] := by
  simp only [emit]
  split <;> rfl

/-- What a tap makes of a line does not hang on what was pending. -/
lemma emit_pending (pending line : Bytes) : emit { tap with pending } line = tap.emit line := rfl

/-- Fed the bytes, a tap comes to the same as if given the lines. -/
lemma finish_feedAll {content : Bytes} {lines : List Bytes} (ls : Lines content lines) (fresh : tap.pending = []) :
    (tap.feedAll content).finish = tap.takeAll lines := by
  -- along the lines: nothing is pending between two of them, and a fault in one holds for the rest
  induction ls generalizing tap with
  | none => exact if_pos (.inr fresh)
  | @unended line ne no =>
    by_cases faulty : tap.fault?.isSome
    · exact finish_feedAll_of_faulty faulty _ _
    · have live : tap.fault? = none := by simpa using faulty
      rw [feedAll_piece live no, fresh, List.append_nil, finish, if_neg (by simp [live, ne]), List.reverse_reverse,
        emit_pending]
      exact (if_neg faulty).symm
  | @ended piece line rest lines no ed _ ih =>
    by_cases faulty : tap.fault?.isSome
    · exact finish_feedAll_of_faulty faulty _ _
    · have live : tap.fault? = none := by simpa using faulty
      have ends : feed { tap with pending := piece.reverse } 0x0A = tap.take line := by
        rw [feed, if_neg faulty, if_pos rfl, emit_pending, take, if_neg faulty, ed.unique (ended_endedLine piece)]
      rw [feedAll_append, feedAll_piece live no, fresh, List.append_nil, feedAll_cons, ends, takeAll_cons]
      refine ih ?_
      rw [take, if_neg faulty, pending_emit]

/-- However the bytes are split into reads, a tap takes them one after the other. -/
lemma run_reads {reads : List Bytes} (full : [] ∉ reads) :
    tap.run (reads.map .data ++ [.finish]) = (tap.feedAll reads.flatten).finish := by
  induction reads generalizing tap with
  | nil => rfl
  | cons bytes reads ih =>
    rw [List.mem_cons, not_or] at full
    obtain ⟨b, more, rfl⟩ := List.exists_cons_of_ne_nil (Ne.symm full.1)
    rw [List.flatten_cons, feedAll_append, ← ih full.2]
    rfl

lemma take_text (live : tap.fault? = none) (fresh : tap.pending = []) (text : String) :
    tap.take (bytesOf text) = { tap with seen := tap.seen + 1, shown := tap.shown ++ [text] } := by
  have spells : Text.ofUtf8? (bytesOf text) = some text := Text.ofUtf8?_eq_some_iff.mpr rfl
  simp [take, live, emit, Text.ofUtf8, spells, fresh]

lemma take_bad (live : tap.fault? = none) (fresh : tap.pending = []) {bad : Bytes} (no : Text.ofUtf8? bad = none) :
    tap.take bad = { tap with fault? := some (.notText (Text.firstFault bad)) } := by
  simp [take, live, emit, Text.ofUtf8, no, fresh]

lemma takeAll_texts (live : tap.fault? = none) (fresh : tap.pending = []) (texts : List String) :
    tap.takeAll (texts.map bytesOf) = { tap with seen := tap.seen + texts.length, shown := tap.shown ++ texts } := by
  induction texts generalizing tap with
  | nil => simp [takeAll]
  | cons text texts ih =>
    calc tap.takeAll ((text :: texts).map bytesOf)
        = takeAll { tap with seen := tap.seen + 1, shown := tap.shown ++ [text] } (texts.map bytesOf) := by
          rw [List.map_cons, takeAll_cons, take_text live fresh]
      _ = { tap with seen := tap.seen + 1 + texts.length, shown := tap.shown ++ [text] ++ texts } := ih live fresh
      _ = _ := by simp [Nat.add_assoc, Nat.add_comm 1]

lemma takeAll_cut (live : tap.fault? = none) (fresh : tap.pending = []) (texts : List String) {bad : Bytes}
    (no : Text.ofUtf8? bad = none) (rest : List Bytes) :
    tap.takeAll (texts.map bytesOf ++ bad :: rest) =
      { tap with
        seen := tap.seen + texts.length
        shown := tap.shown ++ texts
        fault? := some (.notText (Text.firstFault bad)) } := by
  rw [takeAll_append, takeAll_texts live fresh, takeAll_cons, take_bad (by exact live) (by exact fresh) no]
  exact takeAll_of_faulty rfl rest

end Tap

lemma texts_or_bad (lines : List Bytes) :
    (∃ texts : List String, lines = texts.map bytesOf) ∨
      ∃ (texts : List String) (bad : Bytes) (rest : List Bytes),
        lines = texts.map bytesOf ++ bad :: rest ∧ Text.ofUtf8? bad = none := by
  induction lines with
  | nil => exact .inl ⟨[], rfl⟩
  | cons line lines ih =>
    cases spells : Text.ofUtf8? line with
    | none => exact .inr ⟨[], line, lines, rfl, spells⟩
    | some text =>
      rw [Text.ofUtf8?_eq_some_iff] at spells
      subst spells
      obtain ⟨texts, rfl⟩ | ⟨texts, bad, rest, rfl, no⟩ := ih
      · exact .inl ⟨text :: texts, rfl⟩
      · exact .inr ⟨text :: texts, bad, rest, rfl, no⟩

/-- The lines of some bytes are told in one way, and this is what pumping them comes to. -/
structure Accounted (content : Bytes) (pumped : List Event × Except Fault Nat) : Prop where
  lines : ∃! lines, Lines content lines
  pumped : ∀ lines, Lines content lines → Pumped lines pumped

/-- Whatever is in a trace and however it is split into reads, what is pumped of it accounts for its lines. -/
theorem lines_accounted {reads : List Bytes} (full : [] ∉ reads) :
    Accounted reads.flatten (pump (reads.map .data ++ [.finish])) ∧
      ∀ others : List Bytes, [] ∉ others → others.flatten = reads.flatten →
        pump (others.map .data ++ [.finish]) = pump (reads.map .data ++ [.finish]) := by
  refine ⟨⟨?_, ?_⟩, ?_⟩
  · obtain ⟨lines, ls⟩ := exists_lines reads.flatten
    exact ⟨lines, ls, fun others ls' => ls.unique ls'⟩
  · intro lines ls
    rw [pump, Tap.run_reads full, Tap.finish_feedAll ls rfl]
    obtain ⟨texts, rfl⟩ | ⟨texts, bad, rest, rfl, no⟩ := texts_or_bad lines
    · rw [Tap.takeAll_texts rfl rfl]
      simpa [Tap.result] using .whole
    · rw [Tap.takeAll_cut rfl rfl texts no rest]
      exact .cut no
  · intro others full' same
    rw [pump, pump, Tap.run_reads full', Tap.run_reads full, same]

/-- The first read ends between the two bytes of an end of line, the second in a line that is not text. It is the same
as one read of everything. -/
theorem lines_accounted_cut_in_lines :
    [] ∉ [bytesOf "a\r", bytesOf "\n\nb" ++ [0xFF], bytesOf "\nc"] ∧
      Accounted (bytesOf "a\r\n\nb" ++ 0xFF :: bytesOf "\nc")
        ([.line "a", .line ""], .error (.notText ⟨1, some 1⟩)) ∧
      pump [.data (bytesOf "a\r\n\nb" ++ 0xFF :: bytesOf "\nc"), .finish] =
        ([.line "a", .line ""], .error (.notText ⟨1, some 1⟩)) := by
  have full : [] ∉ [bytesOf "a\r", bytesOf "\n\nb" ++ [0xFF], bytesOf "\nc"] := by decide
  have pumped : pump ([bytesOf "a\r", bytesOf "\n\nb" ++ [0xFF], bytesOf "\nc"].map .data ++ [.finish]) =
    ([.line "a", .line ""], .error (.notText ⟨1, some 1⟩)) := by decide +kernel
  obtain ⟨accounted, same⟩ := lines_accounted full
  rw [pumped] at accounted same
  exact ⟨full, accounted, same [bytesOf "a\r\n\nb" ++ 0xFF :: bytesOf "\nc"] (by decide) (by decide)⟩

/-- What follows the last line feed keeps its carriage return. -/
example : pump [.data (bytesOf "a\r\nb\r"), .finish] = ([.line "a", .line "b\r"], .ok 2) := by decide +kernel

end MeshProxy.Trace
