import MeshProxy.Text.Blank
import MeshProxy.Text.Decimal
import MeshProxy.Text.Letters
import MeshProxy.Text.Pattern

/-!
# How patterns are written

A pattern is written with the usual marks: a dot, sets in brackets, groups in parentheses, bars between
alternatives, and a star, a plus or a question mark behind what is repeated. Letters in a group switch options on
and off. Sets are sets of single characters, and only the classes of ASCII have names; what would need the
classes or cases of all characters cannot be read. Numbers of rounds in braces cannot be read either.
-/

namespace MeshProxy.Text

namespace Pattern

/-- The options in force while a pattern is read. -/
structure Options where
  caseless : Bool := false
  multiline : Bool := false
  dotAll : Bool := false
  reluctant : Bool := false
  returns : Bool := false
  /-- Blanks and comments mean nothing. -/
  verbose : Bool := false
  /-- Classes are those of all characters and not those of ASCII. -/
  unicode : Bool := true
deriving DecidableEq, Repr

/-- What follows blanks and comments; a comment goes from a number sign to the end of the line. -/
def afterBlanks (inComment : Bool) : List Char → List Char
  | [] => []
  | c :: rest =>
    if inComment then afterBlanks (c != '\n') rest
    else if isBlank c then afterBlanks false rest
    else if c = '#' then afterBlanks true rest
    else c :: rest

namespace Options

/-- What is left to read. -/
def skip (o : Options) (cs : List Char) : List Char :=
  if o.verbose then afterBlanks false cs else cs

/-- The first character behind blanks and behind the mark of one comment. -/
def peek (o : Options) (cs : List Char) : Option Char :=
  if o.verbose then
    match cs.dropWhile isBlank with
    | '#' :: rest => (rest.dropWhile isBlank).head?
    | rest => rest.head?
  else cs.head?

/-- The options with one of them switched on or off. -/
def switch? (o : Options) (value : Bool) : Char → Option Options
  | 'i' => some { o with caseless := value }
  | 'm' => some { o with multiline := value }
  | 's' => some { o with dotAll := value }
  | 'U' => some { o with reluctant := value }
  | 'u' => some { o with unicode := value }
  | 'R' => some { o with returns := value }
  | 'x' => some { o with verbose := value }
  | _ => none

/-- The options after letters, those behind a hyphen being switched off. -/
def switchAll? (o : Options) (value : Bool) : List Char → Option Options
  | [] => some o
  | '-' :: rest => o.switchAll? false rest
  | c :: rest => do (← o.switch? value c).switchAll? value rest

/-- The options after the letters of a group. No letter may come twice, and none may be missing behind a
hyphen. -/
def change? (o : Options) (letters : List Char) : Option Options :=
  if letters.eraseDups = letters ∧ letters.getLast? ≠ some '-' then o.switchAll? true letters
  else none

/-- A set as it is under the options: without regard to case, if that is asked for. -/
def folded? (o : Options) (set : CharSet) : Option CharSet :=
  if !o.caseless then some set
  else if o.unicode then if set.isEmpty then some set else none
  else some set.foldAscii

/-- The complement of a set, which is no set of ASCII characters. -/
def complement? (o : Options) (negated : Bool) (set : CharSet) : Option CharSet :=
  if !negated then some set else if o.unicode then some set.complement else none

def dot? (o : Options) : Option CharSet :=
  if !o.unicode then none
  else if o.dotAll then some CharSet.all
  else if o.returns then some ((CharSet.single '\n').union (CharSet.single '\r')).complement
  else some (CharSet.single '\n').complement

end Options

/-- What a single character or an escape stands for. -/
inductive Atom where
  /-- A character, perhaps given as the number of a byte. -/
  | char (c : Char) (byte : Bool)
  | set (chars : CharSet)
  | look (condition : Look)
deriving DecidableEq, Repr

namespace Atom

/-- The characters that mean something of their own. -/
def marks : List Char := "\\.+*?()|[]\x7b\x7d^$#&-~".toList

/-- The number in so many hexadecimal digits, and what follows it. -/
def hexNumber? (o : Options) : Nat → Nat → List Char → Option (Nat × List Char)
  | 0, value, cs => some (value, cs)
  | count + 1, value, cs =>
    match o.skip cs with
    | [] => none
    | c :: rest => do hexNumber? o count (16 * value + (← hexDigit? c)) rest

/-- The character whose number is given in so many hexadecimal digits. -/
def hexChar? (o : Options) (count : Nat) (cs : List Char) : Option (Atom × List Char) := do
  let (n, rest) ← hexNumber? o count 0 cs
  if n.isValidChar then some (char (Char.ofNat n) (count == 2), rest) else none

/-- A class of ASCII. -/
def ascii? (o : Options) (chars : CharSet) : Option Atom :=
  if o.unicode then none else some (set chars)

/-- A look at the edges of ASCII words. -/
def edge? (o : Options) (condition : Look) : Option Atom :=
  if o.unicode then none else some (look condition)

/-- What a backslash makes of a character on its own. -/
def plainEscape? (o : Options) : Char → Option Atom
  | 'a' => some (char '\x07' false)
  | 'f' => some (char '\x0c' false)
  | 't' => some (char '\t' false)
  | 'n' => some (char '\n' false)
  | 'r' => some (char '\r' false)
  | 'v' => some (char '\x0b' false)
  | 'A' => some (look .start)
  | 'z' => some (look .finish)
  | 'b' => edge? o .wordEdge
  | 'B' => edge? o .noWordEdge
  | '<' => edge? o .wordStart
  | '>' => edge? o .wordEnd
  | 'd' => ascii? o CharSet.digits
  | 's' => ascii? o CharSet.blanks
  | 'w' => ascii? o CharSet.wordChars
  | c =>
    if marks.contains c ∨ (c.toNat < 0x80 ∧ !c.isAlphanum) then some (char c false) else none

/-- What the text behind a backslash stands for, and what follows it. -/
def escape? (o : Options) : List Char → Option (Atom × List Char)
  | 'x' :: rest => hexChar? o 2 rest
  | 'u' :: rest => hexChar? o 4 rest
  | 'U' :: rest => hexChar? o 8 rest
  | c :: rest => (plainEscape? o c).map fun atom => (atom, rest)
  | [] => none

/-- The atom of a character and what follows it. -/
def ofChars? (o : Options) (c : Char) (rest : List Char) : Option (Atom × List Char) :=
  if c = '\\' then escape? o rest else some (char c false, rest)

/-- The pattern of an atom outside of brackets. -/
def pattern? (o : Options) : Atom → Option Pattern
  | .char c byte =>
    if o.unicode then if o.caseless then none else some (Pattern.char c)
    else if byte ∧ 0x80 ≤ c.toNat then none
    else if o.caseless then some (one (CharSet.single c).foldAscii)
    else some (Pattern.char c)
  | .set chars => some (one chars)
  | .look condition => some (Pattern.look condition)

/-- The character of an atom in brackets, if it is a single one. -/
def char? (o : Options) : Atom → Option Char
  | .char c _ => if o.unicode ∨ c.toNat < 0x80 then some c else none
  | _ => none

/-- The characters of an atom in brackets. -/
def set? (o : Options) : Atom → Option CharSet
  | .set chars => some chars
  | atom => (atom.char? o).map CharSet.single

end Atom

/-- Something read, and how deep its parts are nested in each other. -/
structure Nested (α : Type) where
  value : α
  depth : Nat := 0
deriving DecidableEq, Repr

/-- One part as it is, or several of them as one, which is nested deeper. -/
def Nested.gather (join : List α → α) : List (Nested α) → Nested α
  | [part] => part
  | [] => ⟨join [], 0⟩
  | parts => ⟨join (parts.map (·.value)), 1 + (parts.map (·.depth)).foldl max 0⟩

/-- The depth that a pattern may have. -/
def maxDepth : Nat := 250

/-! ### Sets in brackets -/

inductive SetOperator where
  | intersection
  | difference
  | symmetricDifference
deriving DecidableEq, Repr

def SetOperator.apply : SetOperator → CharSet → CharSet → CharSet
  | intersection, a, b => a.intersection b
  | difference, a, b => a.difference b
  | symmetricDifference, a, b => a.symmetricDifference b

/-- The operator that a doubled character stands for. -/
def SetOperator.ofMark? : Char → Option SetOperator
  | '&' => some intersection
  | '-' => some difference
  | '~' => some symmetricDifference
  | _ => none

/-- A set in brackets that is being read. -/
structure Bracket where
  negated : Bool
  /-- What stands before the last operator, and that operator. -/
  left : Option (Nested CharSet × SetOperator) := none
  /-- What has been read since, last first. -/
  items : List (Nested CharSet) := []
  /-- Only hyphens have been read, and they stand for themselves. -/
  atStart : Bool := true

namespace Bracket

def push (b : Bracket) (item : Nested CharSet) : Bracket :=
  { b with items := item :: b.items, atStart := false }

/-- Everything read so far as one set. -/
def whole? (o : Options) (b : Bracket) : Option (Nested CharSet) :=
  let right := Nested.gather (List.foldl CharSet.union CharSet.empty) b.items.reverse
  match b.left with
  | none => some right
  | some (left, operator) => do
    let set := operator.apply (← o.folded? left.value) (← o.folded? right.value)
    return ⟨set, 1 + max left.depth right.depth⟩

/-- Goes on behind an operator. -/
def operator? (o : Options) (b : Bracket) (operator : SetOperator) : Option Bracket := do
  return { negated := b.negated, left := some (← b.whole? o, operator), atStart := false }

/-- The set of the closed brackets. -/
def close? (o : Options) (b : Bracket) : Option (Nested CharSet) := do
  let whole ← b.whole? o
  return ⟨← o.complement? b.negated (← o.folded? whole.value), 1 + whole.depth⟩

/-- The bracket behind its opening mark, and what follows. -/
def opened (o : Options) (cs : List Char) : Bracket × List Char :=
  match o.skip cs with
  | '^' :: rest => ({ negated := true }, rest)
  | rest => ({ negated := false }, rest)

/-- A named set behind its opening bracket, and what follows it. -/
def named? (o : Options) (cs : List Char) : Option (Option CharSet × List Char) :=
  match cs with
  | ':' :: rest =>
    let (negated, rest) :=
      match rest with
      | '^' :: rest => (true, rest)
      | rest => (false, rest)
    match CharSet.named.lookup (String.ofList (rest.takeWhile (· != ':'))), rest.dropWhile (· != ':') with
    | some set, ':' :: ']' :: rest =>
      some ((o.folded? set).bind (o.complement? negated), rest)
    | _, _ => none
  | _ => none

/-- A character, a class or a range at the front, and what follows it. -/
def item? (o : Options) (c : Char) (rest : List Char) : Option (CharSet × List Char) := do
  let (first, rest) ← Atom.ofChars? o c rest
  match o.skip rest with
  | '-' :: after =>
    if o.peek after = some ']' ∨ o.peek after = some '-' then
      return (← first.set? o, '-' :: after)
    else
      match o.skip after with
      | [] => none
      | c :: rest =>
        let (last, rest) ← Atom.ofChars? o c rest
        let (first, last) := (← first.char? o, ← last.char? o)
        if first ≤ last then return (CharSet.range first last, rest) else none
  | rest => return (← first.set? o, rest)

/-- Reads on in a bracket inside of others, innermost first, until the outermost is closed. -/
def read? (o : Options) : Nat → List Bracket → Bracket → List Char →
    Option (Nested CharSet × List Char)
  | 0, _, _, _ => none
  | fuel + 1, outer, b, cs =>
    match o.skip cs with
    | [] => none
    | c :: rest =>
      if b.atStart ∧ c = '-' then
        read? o fuel outer { b with items := ⟨CharSet.single '-', 0⟩ :: b.items } rest
      else if b.atStart ∧ b.items = [] ∧ c = ']' then
        read? o fuel outer (b.push ⟨CharSet.single ']', 0⟩) rest
      else if c = ']' then
        match b.close? o, outer with
        | none, _ => none
        | some set, [] => some (set, rest)
        | some set, next :: outer => read? o fuel outer (next.push set) rest
      else if c = '[' then
        match named? o rest with
        | some (none, _) => none
        | some (some set, rest) => read? o fuel outer (b.push ⟨set, 0⟩) rest
        | none =>
          let (inner, rest) := opened o rest
          read? o fuel ({ b with atStart := false } :: outer) inner rest
      else
        match SetOperator.ofMark? c, rest.head? == some c with
        | some operator, true =>
          match b.operator? o operator with
          | none => none
          | some b => read? o fuel outer b (rest.drop 1)
        | _, _ =>
          match item? o c rest with
          | none => none
          | some (set, rest) => read? o fuel outer (b.push ⟨set, 0⟩) rest

end Bracket

/-! ### Groups -/

/-- A group that is being read: the alternatives that are complete and the items of the current one, both
last first, and whether the last item can be repeated. -/
structure Group where
  branches : List (Nested Pattern) := []
  items : List (Nested Pattern) := []
  repeatable : Bool := false

namespace Group

def sequence : List Pattern → Pattern
  | [] => empty
  | [p] => p
  | p :: more => seq p (sequence more)

def alternatives : List Pattern → Pattern
  | [] => empty
  | [p] => p
  | p :: more => alt p (alternatives more)

/-- The current alternative. -/
def branch (g : Group) : Nested Pattern := Nested.gather sequence g.items.reverse

def close (g : Group) : Nested Pattern :=
  Nested.gather alternatives (g.branch :: g.branches).reverse

def push (g : Group) (item : Nested Pattern) : Group :=
  { g with items := item :: g.items, repeatable := true }

/-- Takes note of a change of options, which counts as an item but cannot be repeated. -/
def pushChange (g : Group) : Group := { g with items := ⟨empty, 0⟩ :: g.items, repeatable := false }

/-- Starts the next alternative. -/
def next (g : Group) : Group := { branches := g.branch :: g.branches }

/-- Repeats the last item, of which there must be one. -/
def repeated? (g : Group) (f : Pattern → Pattern) : Option Group :=
  match g.repeatable, g.items with
  | true, item :: before => some { g with items := ⟨f item.value, item.depth + 1⟩ :: before }
  | _, _ => none

end Group

/-- How far the reading of a pattern has come: the options, the group being read, the groups around it with
the options that hold again behind the inner one, and the names of groups. -/
structure Reading where
  options : Options := {}
  group : Group := {}
  outer : List (Group × Options) := []
  names : List (List Char) := []

namespace Reading

def push (r : Reading) (item : Nested Pattern) : Reading := { r with group := r.group.push item }

/-- Starts a group in which these options hold. -/
def opened (r : Reading) (options : Options) : Reading :=
  { r with options, group := {}, outer := (r.group, r.options) :: r.outer }

/-- A name starts with a letter or an underscore; dots, brackets and digits may follow. -/
def isName : List Char → Bool
  | [] => false
  | c :: rest =>
    (c == '_' || isLetter c) &&
      rest.all fun c => c == '_' || c == '.' || c == '[' || c == ']' || isLetterOrNumber c

/-- Starts a group with a name, which no other group may have. -/
def named? (r : Reading) (cs : List Char) : Option (Reading × List Char) :=
  let name := cs.takeWhile (· != '>')
  match cs.dropWhile (· != '>') with
  | '>' :: rest =>
    if isName name ∧ name ∉ r.names then
      some ({ r.opened r.options with names := name :: r.names }, rest)
    else none
  | _ => none

/-- Goes on behind the question mark of a group: its options, which hold in the group or, if that is closed
at once, in what follows it. -/
def changed? (r : Reading) (cs : List Char) : Option (Reading × List Char) :=
  let isEnd (c : Char) : Bool := c == ':' || c == ')'
  let letters := cs.takeWhile (!isEnd ·)
  match cs.dropWhile (!isEnd ·) with
  | ':' :: rest => (r.options.change? letters).map fun options => (r.opened options, rest)
  | ')' :: rest =>
    if letters = [] then none
    else
      (r.options.change? letters).map fun options =>
        ({ r with options, group := r.group.pushChange }, rest)
  | _ => none

/-- Goes on behind an opening parenthesis. -/
def open? (r : Reading) (cs : List Char) : Option (Reading × List Char) :=
  match r.options.skip cs with
  | '?' :: 'P' :: '<' :: rest => r.named? rest
  | '?' :: '<' :: rest => r.named? rest
  | '?' :: rest => r.changed? rest
  | rest => some (r.opened r.options, rest)

/-- Goes on behind a closing parenthesis. -/
def close? (r : Reading) : Option Reading :=
  match r.outer with
  | [] => none
  | (group, options) :: outer =>
    let inner := r.group.close
    some { r with options, group := group.push { inner with depth := inner.depth + 1 }, outer }

/-- Repeats the last item. A question mark right behind it turns the preference around. -/
def repeated? (r : Reading) (f : Bool → Pattern → Pattern) (cs : List Char) :
    Option (Reading × List Char) :=
  let (turned, rest) :=
    match cs with
    | '?' :: rest => (true, rest)
    | rest => (false, rest)
  (r.group.repeated? (f (turned == r.options.reluctant))).map fun group => ({ r with group }, rest)

/-- Reads one set in brackets, behind the opening one. -/
def bracket? (r : Reading) (cs : List Char) : Option (Reading × List Char) := do
  let (b, rest) := Bracket.opened r.options cs
  let (set, rest) ← Bracket.read? r.options (cs.length + 1) [] b rest
  return (r.push ⟨one set.value, set.depth⟩, rest)

/-- Goes on behind a character. -/
def step? (r : Reading) (c : Char) (rest : List Char) : Option (Reading × List Char) :=
  match c with
  | '(' => r.open? rest
  | ')' => r.close?.map fun r => (r, rest)
  | '|' => some ({ r with group := r.group.next }, rest)
  | '[' => r.bracket? rest
  | '*' => r.repeated? star rest
  | '+' => r.repeated? plus rest
  | '?' => r.repeated? opt rest
  | '\x7b' => none
  | '.' => r.options.dot?.map fun set => (r.push ⟨one set, 0⟩, rest)
  | '^' =>
    let condition := if r.options.multiline then .lineStart r.options.returns else .start
    some (r.push ⟨look condition, 0⟩, rest)
  | '$' =>
    let condition := if r.options.multiline then .lineEnd r.options.returns else .finish
    some (r.push ⟨look condition, 0⟩, rest)
  | c => do
    let (atom, rest) ← Atom.ofChars? r.options c rest
    return (r.push ⟨← atom.pattern? r.options, 0⟩, rest)

/-- Reads to the end; each step takes a character at least. -/
def run? : Nat → Reading → List Char → Option (Nested Pattern)
  | 0, _, _ => none
  | fuel + 1, r, cs =>
    match r.options.skip cs with
    | [] => if r.outer.isEmpty then some r.group.close else none
    | c :: rest =>
      match r.step? c rest with
      | none => none
      | some (r, rest) => run? fuel r rest

end Reading

/-- The pattern that a text spells. -/
def ofText? (text : String) : Option Pattern := do
  let cs := text.toList
  let whole ← Reading.run? (cs.length + 1) {} cs
  if whole.depth ≤ maxDepth then some whole.value else none

end Pattern

end MeshProxy.Text
