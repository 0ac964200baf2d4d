/-!
# Chains of causes

An error that stops the program is told as an outermost text and the causes behind it, outermost first.
-/

namespace MeshProxy

/-- An error text with the causes behind it. -/
structure Chain where
  message : String
  causes : List String := []
deriving DecidableEq, Repr

namespace Chain

/-- The chain as the cause of something wider. -/
def within (chain : Chain) (context : String) : Chain :=
  ⟨context, chain.message :: chain.causes⟩

/-- The lines after the first of a text, indented. -/
def indentRest (indent : String) (text : String) : String :=
  String.intercalate ("\n" ++ indent) (text.splitOn "\n")

/-- A cause with its number, right-aligned in five columns. -/
def numbered (n : Nat) (text : String) : String :=
  let digits := toString n
  "".pushn ' ' (5 - digits.length) ++ digits ++ ": " ++ indentRest "       " text

/-- The chain as a report: the text, and below it the causes, which are numbered if there are
several. -/
def report (chain : Chain) : String :=
  match chain.causes with
  | [] => chain.message
  | [cause] => chain.message ++ "\n\nCaused by:\n    " ++ indentRest "    " cause
  | causes =>
    chain.message ++ "\n\nCaused by:\n" ++
      String.intercalate "\n" (causes.zipIdx.map fun (text, n) => numbered n text)

end Chain

end MeshProxy
