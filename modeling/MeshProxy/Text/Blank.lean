/-!
# Blank characters

The white space of the Unicode standard, and trimming it from both ends of a text.
-/

namespace MeshProxy.Text

/-- White space: the ASCII blanks, the two non-breaking spaces, the line and paragraph separators and
the typographic spaces. A zero-width space is not among them. -/
def isBlank (c : Char) : Bool :=
  let n := c.toNat
  (0x09 ≤ n && n ≤ 0x0D) || n == 0x20 || n == 0x85 || n == 0xA0 || n == 0x1680 ||
  (0x2000 ≤ n && n ≤ 0x200A) || n == 0x2028 || n == 0x2029 || n == 0x202F || n == 0x205F ||
  n == 0x3000

/-- The characters without the blanks at either end. -/
def trimChars (cs : List Char) : List Char :=
  ((cs.dropWhile isBlank).reverse.dropWhile isBlank).reverse

/-- The text without the blanks at either end. -/
def trim (s : String) : String :=
  String.ofList (trimChars s.toList)

/-- The trimmed value of a setting, if it has one and that is not blank. -/
def nonBlank? (value : Option String) : Option String :=
  match value with
  | none => none
  | some s => if (trim s).isEmpty then none else some (trim s)

end MeshProxy.Text
