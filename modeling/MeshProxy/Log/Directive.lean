import MeshProxy.Log.Record
import MeshProxy.Text.Blank
import MeshProxy.Text.Decimal
import MeshProxy.Text.Fields
import MeshProxy.Text.Letters
import MeshProxy.Text.Pattern.Reading

/-!
# Log directives

A directive says up to which level something is logged: everything, everything from a target, or what happens
inside of a span. It is written as a level, as a target, or as a target with a span in brackets and perhaps a
level after an equals sign; a span may come with the name of a field it has, and with a value the field must
have or a pattern for it. Without a level a directive means every level.
-/

namespace MeshProxy.Log

/-- What a directive asks of the value of a field. -/
structure FieldValue where
  text : String
  /-- The pattern that the text spells, unless it is a truth value or a number. -/
  pattern : Option Text.Pattern
deriving DecidableEq, Repr

/-- What a directive asks of a field. -/
structure FieldMatch where
  name : String
  value : Option FieldValue := none
deriving DecidableEq, Repr

structure Directive where
  target : Option String := none
  span : Option String := none
  field : Option FieldMatch := none
  /-- From zero for nothing to five for every level. -/
  verbosity : Nat := 5
deriving DecidableEq, Repr

namespace Directive

/-- The level names with what they ask for. -/
def levelNames : List (String × Nat) :=
  ("off", 0) :: Level.all.map fun level => (level.name.map Char.toLower, level.verbosity)

/-- The verbosity that a text names, in words of either case or as a number. -/
def verbosity? (cs : List Char) : Option Nat :=
  match Text.bounded? 5 cs with
  | some n => some n
  | none => levelNames.lookup (String.ofList (cs.map Char.toLower))

/-- The verbosity after an equals sign, where no text means every level. -/
def askedVerbosity? (cs : List Char) : Option Nat := if cs.isEmpty then some 5 else verbosity? cs

/-- The directive of a text without marks: a level if it names one, otherwise a target. -/
def ofWord (cs : List Char) : Directive :=
  match verbosity? cs with
  | some verbosity => { verbosity }
  | none => { target := some (String.ofList cs) }

/-- What follows so many bytes of a text, if a character ends there. -/
def dropBytes? : Nat → List Char → Option (List Char)
  | 0, cs => some cs
  | _ + 1, [] => none
  | n + 1, c :: rest => if c.utf8Size ≤ n + 1 then dropBytes? (n + 1 - c.utf8Size) rest else none
termination_by _ cs => cs.length

/-- The part of a text between two places, which are counted in bytes. -/
def slice? (cs : List Char) (start stop : Nat) : Option (List Char) := do
  let fromStart ← dropBytes? start cs
  let fromStop ← dropBytes? stop cs
  return fromStart.take (fromStart.length - fromStop.length)

/-- A mark in a text: its place in bytes, the mark, and what follows it. -/
structure Mark where
  place : Nat
  mark : Char
  rest : List Char

/-- The first of these marks in what stands from a place on. -/
def mark? (marks : List Char) (place : Nat) : List Char → Option Mark
  | [] => none
  | c :: rest => if marks.contains c then some ⟨place, c, rest⟩ else mark? marks (place + c.utf8Size) rest

/-- What a directive asks of the value of a field: a truth value, a number, or else a pattern. -/
def fieldValue? (cs : List Char) : Option FieldValue :=
  let text := String.ofList cs
  if text = "true" ∨ text = "false" ∨ Text.isNumber cs then some ⟨text, none⟩
  else (Text.Pattern.ofText? text).map fun pattern => ⟨text, some pattern⟩

/-- What a directive asks of a field, written as a name and perhaps a value after an equals sign. -/
def fieldMatch? (cs : List Char) : Option FieldMatch :=
  match Text.fields '=' cs with
  | name :: value :: _ => do return ⟨String.ofList name, some (← fieldValue? value)⟩
  | _ => if cs.isEmpty then none else some ⟨String.ofList cs, none⟩

/-- The directive with the level that stands from a place on, if anything does. -/
def finish? (whole : List Char) (place : Nat) (rest : List Char) (d : Directive) : Option Directive :=
  match rest with
  | [] => some d
  | '=' :: _ => do
    let verbosity ← askedVerbosity? (← dropBytes? (place + 1) whole)
    return { d with verbosity }
  | _ => none

/-- The directive with the span that stands from a place on, behind its opening bracket. -/
def span? (whole : List Char) (place : Nat) (rest : List Char) (d : Directive) : Option Directive := do
  let stop ← mark? [']', '\x7b'] place rest
  let name ← slice? whole place stop.place
  if stop.mark = ']' then
    finish? whole (stop.place + 1) stop.rest { d with span := some (String.ofList name) }
  else
    let last ← mark? ['\x7d'] (stop.place + 1) stop.rest
    let field ← fieldMatch? (← slice? whole (stop.place + 1) last.place)
    match last.rest with
    | ']' :: rest =>
      finish? whole (last.place + 2) rest
        { d with
          span := if name.isEmpty then none else some (String.ofList name)
          field := some field }
    | _ => none

/-- A character that a directive may start with, other than the opening bracket of a span. -/
def isStart (c : Char) : Bool := c == '-' || c == ':' || c == '_' || Text.isLetterOrNumber c

/-- The directive that a text spells. The marks are looked for in the text without its surrounding
blanks, but the parts between them are cut out of the whole text, as many bytes from its start. -/
def ofChars? (whole : List Char) : Option Directive :=
  match Text.trimChars whole with
  | [] => none
  | '[' :: rest => span? whole 1 rest {}
  | c :: rest =>
    if isStart c then
      match mark? ['=', '['] c.utf8Size rest with
      | none => some (ofWord whole)
      | some stop => do
        let d : Directive := { target := some (String.ofList (← slice? whole 0 stop.place)) }
        if stop.mark = '=' then finish? whole stop.place (stop.mark :: stop.rest) d
        else span? whole (stop.place + 1) stop.rest d
    else none

end Directive

end MeshProxy.Log
