import MeshProxy.Stream.Source
import Mathlib.Tactic.Common

/-!
# What a reader gets out of its arrivals

The data in a source, in order, are its `payload`. A reader that copies passes over interruptions and stops at the end
of the stream, at an empty chunk, and at every other fault. `Source.Passes` says that nothing in a source stops it, and
`Source.ahead` is the data it gets before it stops. Both are compared here with concatenation, since a source grows at
its end while it is read at its front.

A single bounded read loses nothing between what it takes and what it leaves (`payload_of_read`). The last lemmas are
about a source that a well-behaved peer fills (`Source.Orderly`): all its data lie ahead, and nothing but its end stops
a reader.
-/

namespace MeshProxy

/-- Whether a reader that copies stops at an arrival. -/
def Arrival.stops : Arrival → Bool
  | .data bytes => bytes.isEmpty
  | .finish => true
  | .fault e => !e.isInterruption

/-- Whether an arrival is an interruption, which is waited out. -/
def Arrival.isInterruption : Arrival → Bool
  | .fault e => e.isInterruption
  | _ => false

namespace Source

/-- Nothing in the source stops a reader that copies. -/
def Passes (s : Source) : Prop := ∀ a ∈ s, a.stops = false

/-- The data in front of the first arrival that stops a reader that copies. -/
def ahead (s : Source) : Bytes := payload (s.takeWhile fun a => !a.stops)

attribute [simp] payload

@[simp] lemma payload_append (s t : Source) : payload (s ++ t) = payload s ++ payload t := by
  induction s with
  | nil => rfl
  | cons a s ih => cases a <;> simp [ih]

lemma passes_nil : Passes [] := nofun

@[simp] lemma passes_cons {a : Arrival} {s : Source} :
    Passes (a :: s) ↔ a.stops = false ∧ Passes s :=
  List.forall_mem_cons

@[simp] lemma passes_append {s t : Source} : Passes (s ++ t) ↔ Passes s ∧ Passes t :=
  List.forall_mem_append

@[simp] lemma ahead_nil : ahead [] = [] := rfl

/-- What passes in front of a source adds its data to what lies ahead. -/
lemma Passes.ahead_append {s t : Source} (ps : s.Passes) :
    ahead (s ++ t) = s.payload ++ t.ahead := by
  rw [ahead, List.takeWhile_append_of_pos, payload_append, ahead]
  intro a ha
  simp [ps a ha]

/-- All data of a source that passes lie ahead. -/
lemma Passes.ahead_eq {s : Source} (ps : s.Passes) : s.ahead = s.payload := by
  have h := ps.ahead_append (t := [])
  rwa [List.append_nil, ahead_nil, List.append_nil] at h

/-- Nothing lies ahead of an arrival that stops. -/
lemma ahead_cons_of_stops {a : Arrival} {s : Source} (st : a.stops = true) :
    ahead (a :: s) = [] := by
  simp [ahead, st]

/-- Behind an arrival that passes, the rest lies ahead as before. -/
lemma ahead_cons_of_passes {a : Arrival} {s : Source} (ps : a.stops = false) :
    ahead (a :: s) = payload [a] ++ ahead s := by
  have p : Passes [a] := by simp [ps, passes_nil]
  exact p.ahead_append

lemma stops_data {bytes : Bytes} (ne : bytes ≠ []) : (Arrival.data bytes).stops = false := by
  simp [Arrival.stops, ne]

lemma ahead_cons_data {bytes : Bytes} (ne : bytes ≠ []) (s : Source) :
    ahead (.data bytes :: s) = bytes ++ s.ahead := by
  rw [ahead_cons_of_passes (stops_data ne), payload, payload, List.append_nil]

lemma stops_interruption {e : IoFault} (int : e.isInterruption = true) :
    (Arrival.fault e).stops = false := by
  simp [Arrival.stops, int]

lemma ahead_cons_interruption {e : IoFault} (int : e.isInterruption = true) (s : Source) :
    ahead (.fault e :: s) = s.ahead :=
  ahead_cons_of_passes (stops_interruption int)

/-- What lies ahead is the data of the source up to some point. -/
lemma ahead_prefix_payload (s : Source) : s.ahead <+: s.payload := by
  induction s with
  | nil => exact List.prefix_refl _
  | cons a s ih =>
    cases st : a.stops with
    | true =>
      rw [ahead_cons_of_stops st]
      exact List.nil_prefix
    | false =>
      have e : payload (a :: s) = payload [a] ++ payload s := payload_append [a] s
      rw [ahead_cons_of_passes st, e]
      exact (List.prefix_append_right_inj _).mpr ih

/-- What lies ahead stays ahead when the source grows. -/
lemma ahead_prefix_append (s t : Source) : s.ahead <+: ahead (s ++ t) := by
  induction s with
  | nil => exact List.nil_prefix
  | cons a s ih =>
    cases st : a.stops with
    | true =>
      rw [ahead_cons_of_stops st]
      exact List.nil_prefix
    | false =>
      rw [ahead_cons_of_passes st, List.cons_append, ahead_cons_of_passes st]
      exact (List.prefix_append_right_inj _).mpr ih

/-- Once something stops the reader, nothing behind it lies ahead. -/
lemma ahead_append_of_not_passes {s : Source} (np : ¬ s.Passes) (t : Source) :
    ahead (s ++ t) = s.ahead := by
  induction s with
  | nil => exact absurd passes_nil np
  | cons a s ih =>
    cases st : a.stops with
    | true => rw [ahead_cons_of_stops st, List.cons_append, ahead_cons_of_stops st]
    | false =>
      have np' : ¬ Passes s := fun ps => np (passes_cons.mpr ⟨st, ps⟩)
      rw [ahead_cons_of_passes st, List.cons_append, ahead_cons_of_passes st, ih np']

/-- Only in an empty source a read waits. -/
lemma nil_of_read {limit : Nat} {s rest : Source} (rd : s.read limit = (.waits, rest)) :
    s = [] ∧ rest = [] := by
  match s with
  | [] =>
    cases rd
    exact ⟨rfl, rfl⟩
  | .finish :: s => cases rd
  | .fault e :: s => cases rd
  | .data bytes :: s =>
    simp only [read] at rd
    split at rd <;> cases rd

/-- A bounded read takes a chunk from the front of the data and leaves the others in order. -/
lemma payload_of_read {limit : Nat} {s rest : Source} {chunk : Bytes}
    (rd : s.read limit = (.bytes chunk, rest)) : s.payload = chunk ++ rest.payload := by
  match s with
  | [] => simp [read] at rd
  | .finish :: s =>
    simp only [read, Prod.mk.injEq, Answer.bytes.injEq] at rd
    obtain ⟨rfl, rfl⟩ := rd
    rfl
  | .fault e :: s => simp [read] at rd
  | .data bytes :: s =>
    -- Either all of the chunk is taken, or what is left of it goes back to the front.
    simp only [read] at rd
    split at rd
    all_goals
      simp only [Prod.mk.injEq, Answer.bytes.injEq] at rd
      obtain ⟨rfl, rfl⟩ := rd
      simp [← List.append_assoc]

/-- A chunk is no longer than the limit of the read that takes it. -/
lemma length_of_read {limit : Nat} {s rest : Source} {chunk : Bytes}
    (rd : s.read limit = (.bytes chunk, rest)) : chunk.length ≤ limit := by
  match s with
  | [] => simp [read] at rd
  | .finish :: s =>
    simp only [read, Prod.mk.injEq, Answer.bytes.injEq] at rd
    obtain ⟨rfl, -⟩ := rd
    exact Nat.zero_le _
  | .fault e :: s => simp [read] at rd
  | .data bytes :: s =>
    simp only [read] at rd
    split at rd
    case isTrue le =>
      simp only [Prod.mk.injEq, Answer.bytes.injEq] at rd
      obtain ⟨rfl, -⟩ := rd
      exact le
    case isFalse =>
      simp only [Prod.mk.injEq, Answer.bytes.injEq] at rd
      obtain ⟨rfl, -⟩ := rd
      exact List.length_take_le _ _

/-- A read that does not wait has the same answer when the source grows. -/
lemma read_append {limit : Nat} {s : Source} (ne : s ≠ []) (t : Source) :
    read limit (s ++ t) = ((s.read limit).1, (s.read limit).2 ++ t) := by
  match s with
  | [] => exact absurd rfl ne
  | .finish :: s => rfl
  | .fault e :: s => rfl
  | .data bytes :: s =>
    simp only [List.cons_append, read]
    split <;> rfl

/-- Chunks of data, none of them empty, and then perhaps the end. -/
inductive Orderly : Source → Prop where
  | nil : Orderly []
  | finish : Orderly [.finish]
  | data {b : UInt8} {more : Bytes} {s : Source} :
    Orderly s →
    Orderly (.data (b :: more) :: s)

namespace Orderly

variable {s t : Source}

/-- What follows chunks of data is orderly if it is so by itself. -/
lemma append (os : Orderly s) (no : .finish ∉ s) (ot : Orderly t) : Orderly (s ++ t) := by
  induction os with
  | nil => exact ot
  | finish => simp at no
  | data _ ih =>
    rw [List.mem_cons, not_or] at no
    exact .data (ih no.2)

/-- Only its end stops the reader of an orderly source. -/
lemma eq_finish (os : Orderly s) {a : Arrival} (mem : a ∈ s) (st : a.stops = true) : a = .finish := by
  -- Chunks of data stop a reader only if they are empty, which none is.
  induction os with
  | nil => cases mem
  | finish => exact List.mem_singleton.mp mem
  | data _ ih =>
    rcases List.mem_cons.mp mem with rfl | mem
    · cases st
    · exact ih mem

/-- All data of an orderly source lie ahead. -/
lemma ahead_eq (os : Orderly s) : s.ahead = s.payload := by
  induction os with
  | nil => rfl
  | finish => rfl
  | @data b more s _ ih =>
    have ps : (Arrival.data (b :: more)).stops = false := rfl
    rw [ahead_cons_of_passes ps, ih]
    exact (payload_append [_] s).symm

/-- An orderly source without data and without an end is empty. -/
lemma eq_nil (os : Orderly s) (no : .finish ∉ s) (nil : s.payload = []) : s = [] := by
  cases os with
  | nil => rfl
  | finish => simp at no
  | data os => simp at nil

/-- What is behind the first arrival of an orderly source is orderly. -/
lemma tail {a : Arrival} (os : Orderly (a :: s)) : Orderly s := by
  cases os with
  | finish => exact .nil
  | data os => exact os

end Orderly

end Source

end MeshProxy
