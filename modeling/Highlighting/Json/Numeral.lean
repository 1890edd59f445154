import Highlighting.Number.Shortest

/-!
Numbers as JSON text writes them, and what they are worth: an integer of 64 bits where that holds
them, a floating point number otherwise.
-/

namespace Highlighting

structure Numeral where
  negative : Bool
  whole : List Char
  fraction : List Char
  exponent : Option (Bool × List Char)
  deriving DecidableEq, Repr

namespace Numeral

def digitValue (c : Char) : Nat :=
  c.toNat - 48

def accumulate (bound : Nat) (n : Nat) : List Char → Nat × List Char
  | [] => (n, [])
  | c :: cs =>
    if n * 10 + digitValue c < bound then accumulate bound (n * 10 + digitValue c) cs
    else (n, c :: cs)

/-- The leading digits as a number below 2⁶⁴ and the power of ten it is multiplied by. Whole digits
that do not fit count as places; digits behind the point that do not fit count for nothing. -/
def significand (n : Numeral) : Nat × Int :=
  let (s, unread) := accumulate (Nat.pow 2 64) 0 n.whole
  let (s', unread') := accumulate (Nat.pow 2 64) s n.fraction
  (s', (unread.length : Int) - ((n.fraction.length - unread'.length : Nat) : Int))

def scale? (fuel : Nat) (f : Float) (power : Int) : Option Float :=
  if power.natAbs ≤ 308 then
    let tens := Float.ofScientific 1 false power.natAbs
    if 0 ≤ power then
      let g := f * tens
      if g.isInf then none else some g
    else some (f / tens)
  else if f == 0.0 then some f
  else if 0 ≤ power then none
  else
    match fuel with
    | 0 => some 0.0
    | fuel + 1 => scale? fuel (f / 1e308) (power + 308)

def float? (n : Numeral) : Option Float :=
  let (s, power) := n.significand
  let f := s.toUInt64.toFloat
  let magnitude :=
    match n.exponent with
    | none => scale? 4 f power
    | some (down, digits) =>
      match accumulate (Nat.pow 2 31) 0 digits with
      | (e, []) => scale? 4 f (if down then power - e else power + e)
      | (_, _ :: _) => if s ≠ 0 ∧ !down then none else some 0.0
  magnitude.map fun f => if n.negative then -f else f

def integer? (n : Numeral) : Option Int :=
  if n.fraction.isEmpty && n.exponent.isNone then
    match accumulate (Nat.pow 2 64) 0 n.whole with
    | (v, []) =>
      if n.negative then (if 0 < v ∧ v ≤ Nat.pow 2 63 then some (-(v : Int)) else none) else some v
    | (_, _ :: _) => none
  else none

def describe? (n : Numeral) : Option String :=
  match n.integer? with
  | some v => some ("integer `" ++ toString v ++ "`")
  | none => n.float?.map fun f => "floating point `" ++ Shortest.text f ++ "`"

end Numeral

end Highlighting
