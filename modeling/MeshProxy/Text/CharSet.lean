/-!
# Sets of characters

A set of characters is kept as ranges of code points. A range is never empty, so a set without ranges is the
empty set.
-/

namespace MeshProxy.Text

/-- The characters whose code point lies in one of the ranges, both ends included. -/
structure CharSet where
  ranges : List (Nat × Nat)
deriving DecidableEq, Repr

namespace CharSet

def empty : CharSet := ⟨[]⟩

/-- Every character. -/
def all : CharSet := ⟨[(0, 0xD7FF), (0xE000, 0x10FFFF)]⟩

/-- The characters from one to another. -/
def range (first last : Char) : CharSet := ⟨[(first.toNat, last.toNat)]⟩

def single (c : Char) : CharSet := range c c

def holds (set : CharSet) (c : Char) : Bool :=
  set.ranges.any fun range => range.1 ≤ c.toNat && c.toNat ≤ range.2

def isEmpty (set : CharSet) : Bool := set.ranges.isEmpty

def union (a b : CharSet) : CharSet := ⟨a.ranges ++ b.ranges⟩

/-- What is left of a range without the code points of another. -/
def cutRange (gone kept : Nat × Nat) : List (Nat × Nat) :=
  if gone.2 < kept.1 ∨ kept.2 < gone.1 then [kept]
  else
    (if kept.1 < gone.1 then [(kept.1, gone.1 - 1)] else []) ++
      if gone.2 < kept.2 then [(gone.2 + 1, kept.2)] else []

/-- The characters of the first set that are not in the second. -/
def difference (a b : CharSet) : CharSet :=
  ⟨b.ranges.foldl (fun ranges gone => ranges.flatMap (cutRange gone)) a.ranges⟩

def intersection (a b : CharSet) : CharSet := a.difference (a.difference b)

/-- The characters in exactly one of two sets. -/
def symmetricDifference (a b : CharSet) : CharSet := (a.difference b).union (b.difference a)

def complement (a : CharSet) : CharSet := all.difference a

/-- The set with every ASCII letter in both cases. -/
def foldAscii (a : CharSet) : CharSet :=
  let shifted (letters : CharSet) (shift : Nat → Nat) : List (Nat × Nat) :=
    (a.intersection letters).ranges.map fun r => (shift r.1, shift r.2)
  ⟨a.ranges ++ shifted (range 'A' 'Z') (· + 32) ++ shifted (range 'a' 'z') (· - 32)⟩

def digits : CharSet := range '0' '9'
def lowers : CharSet := range 'a' 'z'
def uppers : CharSet := range 'A' 'Z'
def letters : CharSet := uppers.union lowers
def alphanumerics : CharSet := digits.union letters

/-- The letters, the digits and the underscore. -/
def wordChars : CharSet := alphanumerics.union (single '_')

/-- The blanks of ASCII, the vertical tabulator among them. -/
def blanks : CharSet := (range '\t' '\r').union (single ' ')

/-- The named sets of ASCII characters. -/
def named : List (String × CharSet) := [
  ("alnum", alphanumerics), ("alpha", letters), ("ascii", range '\x00' '\x7f'),
  ("blank", (single '\t').union (single ' ')),
  ("cntrl", (range '\x00' '\x1f').union (single '\x7f')), ("digit", digits),
  ("graph", range '!' '~'), ("lower", lowers), ("print", range ' ' '~'),
  ("punct", (range '!' '~').difference alphanumerics), ("space", blanks), ("upper", uppers),
  ("word", wordChars), ("xdigit", digits.union ((range 'A' 'F').union (range 'a' 'f')))]

end CharSet

end MeshProxy.Text
