import MeshProxy.Text.Unprintable

/-!
# Quoted text

How a value appears inside an error text or a summary: between double quotes, with quotes, backslashes
and everything that would not show escaped. Absent and present optional values have a form of their own.
-/

namespace MeshProxy.Text

/-- One character inside quotes. The single quote stays as it is. -/
def quoteChar (c : Char) : List Char :=
  if c = '\x00' then ['\\', '0']
  else if c = '\t' then ['\\', 't']
  else if c = '\r' then ['\\', 'r']
  else if c = '\n' then ['\\', 'n']
  else if c = '"' then ['\\', '"']
  else if c = '\\' then ['\\', '\\']
  else if isUnprintable c then
    ['\\', 'u', '\x7b'] ++ Nat.toDigits 16 c.toNat ++ ['\x7d']
  else [c]

/-- The text between double quotes. -/
def quote (s : String) : String :=
  String.ofList ('"' :: (s.toList.flatMap quoteChar ++ ['"']))

/-- An optional text: `None`, or `Some` around the quoted text. -/
def quoteOption : Option String → String
  | none => "None"
  | some s => "Some(" ++ quote s ++ ")"

end MeshProxy.Text
