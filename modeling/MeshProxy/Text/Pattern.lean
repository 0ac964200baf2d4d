import MeshProxy.Text.CharSet

/-!
# Patterns

A small language of text patterns: sets of characters, places, sequences, alternatives and repetitions. Where a
pattern can match in several ways, the ways have an order of preference: an earlier alternative comes before a
later one, and a repetition prefers another round or, if it is reluctant, the end. Matching looks at a text
character by character and keeps the patterns that must match the rest, most preferred first.
-/

namespace MeshProxy.Text

/-- A condition on a place in a text. -/
inductive Look where
  | start
  | finish
  /-- The start or end of a line; if `returns`, a carriage return ends lines too. -/
  | lineStart (returns : Bool)
  | lineEnd (returns : Bool)
  /-- A place where an ASCII word starts or ends. -/
  | wordEdge
  | noWordEdge
  | wordStart
  | wordEnd
deriving DecidableEq, Repr

/-- A place in a text, by the characters next to it. -/
structure Place where
  before : Option Char
  after : Option Char
deriving DecidableEq, Repr

namespace Place

/-- Whether a word reaches the place from the left. -/
def isAfterWord (place : Place) : Bool := place.before.any CharSet.wordChars.holds

/-- Whether a word reaches the place from the right. -/
def isBeforeWord (place : Place) : Bool := place.after.any CharSet.wordChars.holds

end Place

/-- Whether a condition is met at a place. A carriage return and the line feed behind it end one line
together. -/
def Look.holds (look : Look) (place : Place) : Bool :=
  match look with
  | .start => place.before.isNone
  | .finish => place.after.isNone
  | .lineStart false => place.before.all (· == '\n')
  | .lineStart true =>
    place.before.all fun c => c == '\n' || (c == '\r' && place.after != some '\n')
  | .lineEnd false => place.after.all (· == '\n')
  | .lineEnd true =>
    place.after.all fun c => c == '\r' || (c == '\n' && place.before != some '\r')
  | .wordEdge => place.isAfterWord != place.isBeforeWord
  | .noWordEdge => place.isAfterWord == place.isBeforeWord
  | .wordStart => !place.isAfterWord && place.isBeforeWord
  | .wordEnd => place.isAfterWord && !place.isBeforeWord

inductive Pattern where
  /-- Matches the empty text. -/
  | empty
  | one (set : CharSet)
  /-- Matches the empty text at places of this kind. -/
  | look (condition : Look)
  | seq (first second : Pattern)
  | alt (first second : Pattern)
  /-- One round or more, and as many as possible if `greedy`. -/
  | plus (greedy : Bool) (body : Pattern)
  /-- What may follow a round of a repetition: nothing, or one round or more. -/
  | again (greedy : Bool) (body : Pattern)
deriving DecidableEq, Repr

namespace Pattern

def char (c : Char) : Pattern := one (CharSet.single c)

/-- At most one round. -/
def opt (greedy : Bool) (body : Pattern) : Pattern :=
  if greedy then alt body empty else alt empty body

/-- Any number of rounds. -/
def star (greedy : Bool) (body : Pattern) : Pattern := opt greedy (plus greedy body)

/-- One pattern after another, where the first may have nothing left to match. -/
def andThen (p q : Pattern) : Pattern := if p = empty then q else seq p q

/-- A way to go on from a place: the pattern is matched, or it takes a character of a set and leaves
what must match after it. -/
inductive Step where
  | done
  | take (set : CharSet) (rest : Pattern)
deriving DecidableEq, Repr

/-- The ways of a sequence, from those of its first pattern and those of what follows it. The first way
to be done goes over to what follows; being done again would lead to the same. -/
def follow (next : Pattern) (nextSteps : List Step) : List Step → List Step
  | [] => []
  | .take set rest :: more => .take set (rest.andThen next) :: follow next nextSteps more
  | .done :: more =>
    nextSteps ++ (more.filterMap fun step =>
      match step with
      | .done => none
      | .take set rest => some (.take set (rest.andThen next)))

/-- The ways of a repetition from those of a first round. -/
def repeating (next : Pattern) (round : List Step) : List Step :=
  round.map fun step =>
    match step with
    | .done => .done
    | .take set rest => .take set (rest.andThen next)

/-- All ways to go on from a place, most preferred first. A further round of a repetition must take
something. -/
def steps (place : Place) : Pattern → List Step
  | empty => [.done]
  | one set => [.take set empty]
  | look condition => if condition.holds place then [.done] else []
  | seq p q => follow q (steps place q) (steps place p)
  | alt p q => steps place p ++ steps place q
  | plus greedy p => repeating (again greedy p) (steps place p)
  | again greedy p =>
    let round := (repeating (again greedy p) (steps place p)).filter (· != .done)
    if greedy then round ++ [.done] else .done :: round

/-- What must match the rest of a text behind a character, most preferred first. As soon as a pattern is
matched, the less preferred ones are given up. -/
def advance (place : Place) (c : Char) (patterns : List Pattern) : List Pattern :=
  let ways := (patterns.flatMap (steps place)).takeWhile (· != .done)
  (ways.filterMap fun step =>
    match step with
    | .done => none
    | .take set rest => if set.holds c then some rest else none).eraseDups

/-- Whether one of the patterns is matched at the end of the text, without having been given up. -/
def endsMatched (before : Option Char) (patterns : List Pattern) : List Char → Bool
  | [] => patterns.any fun p => (steps ⟨before, none⟩ p).contains .done
  | c :: rest => endsMatched (some c) (advance ⟨before, some c⟩ c patterns) rest

/-- Whether the most preferred match in a text, which starts as early as possible, ends with the text. -/
def matchesToEnd (p : Pattern) (text : String) : Bool :=
  endsMatched none [seq (star false (one CharSet.all)) p] text.toList

end Pattern

end MeshProxy.Text
