import MeshProxy.Log.Record

/-!
# Log lines

How a record is written: as one line of JSON, the message among the fields and the span's fields beside its
name.
-/

namespace MeshProxy.Log.Line

/-- The four hexadecimal digits of a small code point. -/
def hex4 (n : Nat) : List Char :=
  [Nat.digitChar (n / 4096 % 16), Nat.digitChar (n / 256 % 16), Nat.digitChar (n / 16 % 16),
    Nat.digitChar (n % 16)]

/-- A character inside a JSON string. Control characters, the quote and the backslash are escaped. -/
def escape (c : Char) : List Char :=
  if c = '"' then ['\\', '"']
  else if c = '\\' then ['\\', '\\']
  else if c = '\n' then ['\\', 'n']
  else if c = '\r' then ['\\', 'r']
  else if c = '\t' then ['\\', 't']
  else if c = '\x08' then ['\\', 'b']
  else if c = '\x0c' then ['\\', 'f']
  else if c.toNat < 0x20 then '\\' :: 'u' :: hex4 c.toNat
  else [c]

/-- A text as a JSON string. -/
def string (s : String) : String := String.ofList ('"' :: (s.toList.flatMap escape ++ ['"']))

def value : Value → String
  | .text s => string s
  | .number n => toString n
  | .flag b => if b then "true" else "false"

/-- A JSON object of members that are written already. -/
def object (members : List (String × String)) : String :=
  "\x7b" ++ String.intercalate "," (members.map fun (name, written) => string name ++ ":" ++ written) ++
    "\x7d"

/-- The members of a record's line. -/
def members (r : Record) : List (String × String) :=
  [("level", string r.level.name),
    ("fields", object (("message", string r.message) :: r.fields.map fun (n, v) => (n, value v))),
    ("target", string r.target)] ++
  match r.span with
  | none => []
  | some span =>
    [("span", object [("peer", string span.peer), ("role", string span.role),
      ("name", string "session")])]

/-- The line of a record. -/
def ofRecord (r : Record) : String := object (members r)

/-- The line of a record with the time at which it is written. -/
def stamped (time : String) (r : Record) : String := object (("timestamp", string time) :: members r)

end MeshProxy.Log.Line
