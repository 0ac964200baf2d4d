import MeshProxy.Text.Casing
import MeshProxy.Text.Decimal

/-!
# Environment variables

Variables are found by lower-case name, and of two that have the same name the later one counts. A name may
also be a path, such as `a.b` or `a[0]`; such a variable makes `a` a map or a sequence.
-/

namespace MeshProxy

/-- The variables in the order they were set. -/
abbrev Environment := List (String × String)

/-- What a name stands for. -/
inductive Variable where
  | text (value : String)
  | map
  | sequence
deriving DecidableEq, Repr

/-- The first step of a path below its first name. -/
inductive PathStep where
  | child
  | index
deriving DecidableEq, Repr

namespace Environment

/-- A character of a name within a path. -/
def isPathChar (c : Char) : Bool := c.isAlphanum || c == ' ' || c == '_' || c == '-'

/-- The name at the front, which must not be empty, and what follows it. -/
def pathName? (cs : List Char) : Option (List Char × List Char) :=
  match cs.takeWhile isPathChar with
  | [] => none
  | name => some (name, cs.dropWhile isPathChar)

def isSpaceOrTab (c : Char) : Bool := c == ' ' || c == '\t'

/-- The largest index in a path. -/
def maxIndex : Nat := 0x7FFFFFFFFFFFFFFF

/-- What follows the index at the front: blanks, perhaps a minus sign, digits, blanks and a bracket. -/
def afterIndex? (cs : List Char) : Option (List Char) :=
  let cs := cs.dropWhile isSpaceOrTab
  let (limit, cs) :=
    match cs with
    | '-' :: rest => (maxIndex + 1, rest)
    | cs => (maxIndex, cs)
  match Text.boundedDigits? limit (cs.takeWhile Char.isDigit) with
  | none => none
  | some _ =>
    match (cs.dropWhile Char.isDigit).dropWhile isSpaceOrTab with
    | ']' :: rest => some rest
    | _ => none

/-- Whether the text is a run of path steps; each step leaves less text than there was. -/
def isPathTail (fuel : Nat) (cs : List Char) : Bool :=
  match fuel, cs with
  | _, [] => true
  | 0, _ => false
  | fuel + 1, '.' :: rest =>
    match pathName? rest with
    | some (_, rest) => isPathTail fuel rest
    | none => false
  | fuel + 1, '[' :: rest =>
    match afterIndex? rest with
    | some rest => isPathTail fuel rest
    | none => false
  | _, _ => false

/-- The first name of a path and its first step, if the text is a path with a step. -/
def path? (cs : List Char) : Option (List Char × PathStep) :=
  match pathName? cs with
  | none => none
  | some (name, tail) =>
    if isPathTail tail.length tail then
      match tail with
      | '.' :: _ => some (name, .child)
      | '[' :: _ => some (name, .index)
      | _ => none
    else none

/-- What one variable says about a name. -/
def says? (name : String) (entry : String × String) : Option Variable :=
  let key := (Text.lower entry.1).toList
  if key = name.toList then some (.text entry.2)
  else
    match path? key with
    | some (first, .child) => if first = name.toList then some .map else none
    | some (first, .index) => if first = name.toList then some .sequence else none
    | none => none

/-- What a lower-case name stands for: what the last variable says that says anything about it. -/
def find? (env : Environment) (name : String) : Option Variable :=
  (env.filterMap (says? name)).getLast?

end Environment

end MeshProxy
