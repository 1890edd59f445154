/-!
The decimal text of a binary floating point number: the fewest digits that read back as the same
number, without an exponent.
-/

namespace Highlighting.Shortest

/-- A positive number `mantissa * 2 ^ exponent` among its neighbours. Those below it are half as
far away as those above when `narrow` holds. -/
structure Binary where
  mantissa : Nat
  exponent : Int
  narrow : Bool

def Binary.ofBits? (bits : Nat) : Option Binary :=
  let fraction : Nat := bits % Nat.pow 2 52
  let biased : Nat := bits / Nat.pow 2 52 % Nat.pow 2 11
  if biased = 2047 ∨ bits % Nat.pow 2 63 = 0 then none
  else if biased = 0 then some ⟨fraction, -1074, false⟩
  else some ⟨Nat.pow 2 52 + fraction, (biased : Int) - 1075, fraction == 0 && 1 < biased⟩

/-- A positive number with the bounds of what is read as it, all in units of `1 / scale`. -/
structure Interval where
  scale : Nat
  low : Nat
  value : Nat
  high : Nat
  closed : Bool

def Binary.interval (b : Binary) : Interval :=
  let up := Nat.pow 2 b.exponent.toNat
  ⟨4 * Nat.pow 2 (-b.exponent).toNat, (4 * b.mantissa - if b.narrow then 1 else 2) * up,
    4 * b.mantissa * up, (4 * b.mantissa + 2) * up, b.mantissa % 2 == 0⟩

def Interval.timesTen (i : Interval) (power : Int) : Interval :=
  let up := Nat.pow 10 power.toNat
  ⟨i.scale * Nat.pow 10 (-power).toNat, i.low * up, i.value * up, i.high * up, i.closed⟩

def Interval.holds (i : Interval) (n : Nat) : Bool :=
  let x := n * i.scale
  (i.low < x && x < i.high) || (i.closed && (x == i.low || x == i.high))

def Interval.nearest? (i : Interval) : Option Nat :=
  let below := i.value / i.scale
  let rest := i.value % i.scale
  match i.holds below, i.holds (below + 1) with
  | true, true =>
    if 2 * rest < i.scale ∨ (2 * rest = i.scale ∧ below % 2 = 0) then some below
    else some (below + 1)
  | true, false => some below
  | false, true => some (below + 1)
  | false, false => none

def leadingZeros (fuel : Nat) (scale value : Nat) : Nat :=
  match fuel with
  | 0 => 0
  | fuel + 1 => if scale ≤ value then 0 else leadingZeros fuel scale (value * 10) + 1

def Interval.order (i : Interval) : Int :=
  if i.scale ≤ i.value then ((toString (i.value / i.scale)).length : Int) - 1
  else -(leadingZeros 400 i.scale i.value : Int)

/-- The first grid, of those with `count` or more digits, that has a number read as this one: the
digits and their power of ten. -/
def digitsFrom (i : Interval) (order : Int) (count : Nat) : Nat → Nat × Int
  | 0 => (0, 0)
  | fuel + 1 =>
    let power := order - count + 1
    match (i.timesTen (-power)).nearest? with
    | some n => (n, power)
    | none => digitsFrom i order (count + 1) fuel

def positional (n : Nat) (power : Int) : String :=
  let digits := (toString n).toList
  if 0 ≤ power then String.ofList (digits ++ List.replicate power.toNat '0') ++ ".0"
  else
    let places := (-power).toNat
    let padded := List.replicate (places + 1 - digits.length) '0' ++ digits
    let whole := padded.take (padded.length - places)
    let fraction := (padded.drop (padded.length - places)).reverse.dropWhile (· == '0')
    String.ofList whole ++ "." ++
      (if fraction.isEmpty then "0" else String.ofList fraction.reverse)

def text (x : Float) : String :=
  let bits := x.toBits.toNat
  let sign := if Nat.pow 2 63 ≤ bits then "-" else ""
  match Binary.ofBits? (bits % Nat.pow 2 63) with
  | some b =>
    let i := b.interval
    let (n, power) := digitsFrom i i.order 1 17
    sign ++ positional n power
  | none => sign ++ "0.0"

end Highlighting.Shortest
