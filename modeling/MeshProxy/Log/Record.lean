/-!
# Log records

A record has a level, a target that names the part of the program it comes from, a message, fields, and
the session it belongs to if it was written inside one.
-/

namespace MeshProxy.Log

/-- How grave a record is. -/
inductive Level where
  | error
  | warn
  | info
  | debug
  | trace
deriving DecidableEq, Repr

namespace Level

def name : Level → String
  | .error => "ERROR"
  | .warn => "WARN"
  | .info => "INFO"
  | .debug => "DEBUG"
  | .trace => "TRACE"

/-- The verbosity that a level asks for, from one for errors to five for traces. -/
def verbosity : Level → Nat
  | .error => 1
  | .warn => 2
  | .info => 3
  | .debug => 4
  | .trace => 5

/-- All levels, gravest first. -/
def all : List Level := [.error, .warn, .info, .debug, .trace]

end Level

/-- The value of a field. -/
inductive Value where
  | text (s : String)
  | number (n : Nat)
  | flag (b : Bool)
deriving DecidableEq, Repr

/-- The session that a record belongs to. -/
structure Span where
  role : String
  peer : String
deriving DecidableEq, Repr

/-- One line of the log. -/
structure Record where
  level : Level
  target : String
  message : String
  fields : List (String × Value) := []
  span : Option Span := none
deriving DecidableEq, Repr

end MeshProxy.Log
