import MeshProxy.Log.Directive
import MeshProxy.Startup.Chain

/-!
# Log filters

A filter is a list of directives. A directive without a span decides by the target of a record: of those
whose target starts the record's, the longest counts, and of two for the same target the later one. A
directive with a span or a field also lets through what happens inside of a span it matches. A record shows
its span only if the span itself gets through the filter.
-/

namespace MeshProxy.Log

/-- The directives of a filter, in the order they are written. -/
abbrev Filter := List Directive

namespace Span

/-- The name of every span, the target and the level it is logged with. -/
def name : String := "session"
def target : String := "sidecar::session"
def level : Level := .info

/-- The fields of a span with their texts. -/
def fields (span : Span) : List (String × String) :=
  [("role", span.role), ("peer", span.peer)]

end Span

/-- Whether a text is what a directive asks for. It is never a number or a truth value. -/
def FieldValue.accepts (value : FieldValue) (text : String) : Bool :=
  value.pattern.any (·.matchesToEnd text)

namespace Directive

/-- Whether the target of a record or span is the directive's business. -/
def coversTarget (d : Directive) (target : String) : Bool :=
  match d.target with
  | none => true
  | some start => start.isPrefixOf target

/-- Whether the directive looks at spans. -/
def isScoped (d : Directive) : Bool := d.span.isSome || d.field.isSome

/-- Whether the directive asks for the value of a field. -/
def asksValue (d : Directive) : Bool := (d.field.bind (·.value)).isSome

/-- Whether the directive decides by targets: it names no span and asks for no value. -/
def isPlain (d : Directive) : Bool := d.span.isNone && !d.asksValue

/-- Whether the directive is about spans of this kind. -/
def coversSpan (d : Directive) (span : Span) : Bool :=
  d.isScoped && d.coversTarget Span.target && d.span.all (· == Span.name) &&
    d.field.all fun f => (span.fields.lookup f.name).isSome

/-- Whether the values of a span are what the directive asks for. -/
def acceptsValues (d : Directive) (span : Span) : Bool :=
  d.field.all fun f => f.value.all fun value => (span.fields.lookup f.name).any value.accepts

/-- Whether the directive asks about the same things as another, which it then replaces. -/
def replaces (d other : Directive) : Bool :=
  d.target == other.target && d.span == other.span && d.field == other.field

/-- Whether the directive counts before another one that covers the same record. -/
def outranks (d other : Directive) : Bool :=
  let size (d : Directive) := (d.target.map (·.length + 1)).getD 0
  let name (d : Directive) := (d.field.map (·.name)).getD ""
  if size d ≠ size other then size other < size d
  else if d.field.isSome ≠ other.field.isSome then d.field.isSome
  else !(name d < name other)

end Directive

namespace Filter

/-- The pieces of a text between commas, without the empty ones. -/
def pieces (text : String) : List (List Char) :=
  (Text.fields ',' text.toList).filter (!·.isEmpty)

/-- The filter that a text spells, if each of its pieces is a directive. -/
def ofText? (text : String) : Option Filter := (pieces text).mapM Directive.ofChars?

/-- The filter for want of one that can be read. -/
def fallback : Filter := [{ verbosity := Level.info.verbosity }]

/-- The filter in force: that of `override` if it can be read, otherwise that of `level`. -/
def choose (override : Option String) (level : String) : Filter :=
  match override.bind ofText?, ofText? level with
  | some filter, _ => filter
  | none, some filter => filter
  | none, none => fallback

/-- The directives that look at spans, without those that a later one replaces. -/
def spanDirectives : Filter → List Directive
  | [] => []
  | d :: rest =>
    if d.isScoped && !rest.any (·.replaces d) then d :: spanDirectives rest else spanDirectives rest

/-- The directive that decides a record or span by its target, and by the names of a record's fields. -/
def deciding? (filter : Filter) (target : String) (fieldNames : Option (List String)) :
    Option Directive :=
  let candidates := filter.filter fun d =>
    d.isPlain && d.coversTarget target &&
      d.field.all fun f => fieldNames.all (·.contains f.name)
  candidates.foldl (fun best d =>
    match best with
    | none => some d
    | some other => if d.outranks other then some d else best) none

/-- How far the filter goes for a target. -/
def verbosityFor (filter : Filter) (target : String) (fieldNames : Option (List String)) : Nat :=
  ((filter.deciding? target fieldNames).map (·.verbosity)).getD 0

/-- How far the filter goes anywhere. One that asks for values has to look at every span. -/
def widest (filter : Filter) : Nat :=
  if filter.any (·.asksValue) then 5 else (filter.map (·.verbosity)).foldl max 0

/-- Whether a span gets through: a directive is about it, or its target does. -/
def admitsSpan (filter : Filter) (span : Span) : Bool :=
  Span.level.verbosity ≤ filter.widest &&
    (filter.spanDirectives.any (·.coversSpan span) ||
      Span.level.verbosity ≤ filter.verbosityFor Span.target none)

/-- How far the filter goes inside of a span. -/
def verbosityInside (filter : Filter) (span : Span) : Nat :=
  if filter.admitsSpan span then
    ((filter.spanDirectives.filter fun d => d.coversSpan span && d.acceptsValues span).map
      (·.verbosity)).foldl max 0
  else 0

/-- Whether a record gets through. Its message counts as a field. -/
def admits (filter : Filter) (r : Record) : Bool :=
  r.level.verbosity ≤ ((r.span.map filter.verbosityInside).getD 0) ||
    r.level.verbosity ≤ filter.verbosityFor r.target (some ("message" :: r.fields.map (·.1)))

/-- What is left of a record that may have to hide its span. -/
def mask (filter : Filter) (r : Record) : Record :=
  { r with span := r.span.filter filter.admitsSpan }

/-- The records that get through, as they are shown. -/
def apply (filter : Filter) (records : List Record) : List Record :=
  (records.filter filter.admits).map filter.mask

end Filter

/-- The error of setting up logging a second time. -/
def alreadySetUp : Chain :=
  ⟨"failed to initialise sidecar tracing subscriber: a global default trace dispatcher has already been set",
    []⟩

end MeshProxy.Log
