import MeshProxy.Text.Decimal

/-!
# Durations

A span of time is shown in the largest unit of which it has at least one, with as many decimals as it
needs and no more.
-/

namespace MeshProxy.Text

/-- The units of time with their length in nanoseconds, longest first. -/
def timeUnits : List (Nat × String) :=
  [(1000000000, "s"), (1000000, "ms"), (1000, "µs"), (1, "ns")]

/-- The decimals of `rest` parts out of `whole`, where `whole` is a power of ten. -/
def decimals (whole rest : Nat) : List Char :=
  let digits := decimal rest
  let width := (decimal whole).length - 1
  let padded := List.replicate (width - digits.length) '0' ++ digits
  (padded.reverse.dropWhile (· == '0')).reverse

/-- A number of nanoseconds as a duration. -/
def duration (nanoseconds : Nat) : String :=
  match timeUnits.find? (·.1 ≤ nanoseconds) with
  | none => "0ns"
  | some (size, unit) =>
    let fraction := decimals size (nanoseconds % size)
    let shown := if nanoseconds % size = 0 then [] else '.' :: fraction
    String.ofList (decimal (nanoseconds / size) ++ shown) ++ unit

end MeshProxy.Text
