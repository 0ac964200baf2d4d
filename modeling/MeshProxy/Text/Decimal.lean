/-!
# Decimal numbers

Reading bounded natural numbers from text, and the digits they are written with; also the digits of
hexadecimal numbers.
-/

namespace MeshProxy.Text

/-- The value of one ASCII decimal digit. -/
def digit? (c : Char) : Option Nat :=
  if '0' ≤ c ∧ c ≤ '9' then some (c.toNat - '0'.toNat) else none

/-- The number a run of digits continues to, from the value of the digits before it. -/
def continueDigits (value : Nat) : List Char → Option Nat
  | [] => some value
  | c :: rest =>
    match digit? c with
    | some d => continueDigits (10 * value + d) rest
    | none => none

/-- The value of a non-empty run of ASCII digits, however many zeros lead it. -/
def digits? : List Char → Option Nat
  | [] => none
  | cs => continueDigits 0 cs

/-- A number of at most `limit`, written in digits. -/
def boundedDigits? (limit : Nat) (cs : List Char) : Option Nat :=
  (digits? cs).filter (· ≤ limit)

/-- A number of at most `limit`, written as digits after an optional plus sign. -/
def bounded? (limit : Nat) : List Char → Option Nat
  | '+' :: rest => boundedDigits? limit rest
  | cs => boundedDigits? limit cs

/-- The largest port number. -/
def maxPort : Nat := 65535

/-- The largest number that fits sixty-four bits. -/
def maxWord64 : Nat := 0xFFFFFFFFFFFFFFFF

/-- A port number, written as digits after an optional plus sign. -/
def port? (cs : List Char) : Option UInt16 :=
  (bounded? maxPort cs).map UInt16.ofNat

/-- What follows a sign, if one is there. -/
def unsigned : List Char → List Char
  | '+' :: rest => rest
  | '-' :: rest => rest
  | cs => cs

/-- Whether the text is an exponent of ten: nothing, or an E with a whole number. -/
def isExponent : List Char → Bool
  | [] => true
  | e :: rest => (e == 'e' || e == 'E') && (digits? (unsigned rest)).isSome

/-- Whether the text is a number: digits with perhaps a point among them and an exponent behind them, or the
word for infinity or for no number, all with or without a sign. -/
def isNumber (cs : List Char) : Bool :=
  let size := unsigned cs
  let whole := size.takeWhile Char.isDigit
  let (fraction, rest) :=
    match size.dropWhile Char.isDigit with
    | '.' :: rest => (rest.takeWhile Char.isDigit, rest.dropWhile Char.isDigit)
    | rest => ([], rest)
  ["inf", "infinity", "nan"].contains (String.ofList (size.map Char.toLower)) ||
    (!(whole ++ fraction).isEmpty && isExponent rest)

/-- The decimal digits of a number, without leading zeros. -/
def decimal (n : Nat) : List Char := Nat.toDigits 10 n

/-- The value of one hexadecimal digit of either case. -/
def hexDigit? (c : Char) : Option Nat :=
  if '0' ≤ c ∧ c ≤ '9' then some (c.toNat - '0'.toNat)
  else if 'a' ≤ c ∧ c ≤ 'f' then some (c.toNat - 'a'.toNat + 10)
  else if 'A' ≤ c ∧ c ≤ 'F' then some (c.toNat - 'A'.toNat + 10)
  else none

/-- The hexadecimal digits of a byte, always two of them. -/
def hexByte (b : UInt8) : List Char :=
  [Nat.digitChar (b.toNat / 16), Nat.digitChar (b.toNat % 16)]

end MeshProxy.Text
