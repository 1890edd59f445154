import Highlighting.Text.Hexadecimal

namespace Highlighting

/-- The code points `first`, `first + step`, …, `last`. -/
structure CodeRun where
  first : Nat
  last : Nat
  step : Nat := 1
  deriving DecidableEq, Repr

namespace CodeRun

def contains (r : CodeRun) (n : Nat) : Bool :=
  r.first ≤ n && n ≤ r.last && (n - r.first) % r.step == 0

def size (r : CodeRun) : Nat :=
  if r.step = 1 then 1 else (r.last - r.first) / r.step + 1

def number (digits : String) : Nat :=
  digits.foldl (fun n c => 16 * n + (hexDigit? c).getD 0) 0

/-- Runs in the form `41-5A 5F 100-12E/2`, their numbers in hexadecimal. -/
def ofText (text : String) : List CodeRun :=
  ((text.splitToList Char.isWhitespace).filter (· ≠ "")).map fun item =>
    match (item.splitOn "/").map fun part => (part.splitOn "-").map number with
    | [[first, last], [step]] => ⟨first, last, step⟩
    | [[first, last]] => ⟨first, last, 1⟩
    | _ => ⟨number item, number item, 1⟩

end CodeRun

end Highlighting
