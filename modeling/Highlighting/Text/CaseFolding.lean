import Highlighting.Text.FoldTable

/-!
Simple case folding. Two characters are the same letter, whatever their case, when they fold to the
same character.
-/

namespace Highlighting

def foldChar (c : Char) : Char :=
  let n := c.toNat
  match foldRuns.find? fun r => r.first ≤ n && n ≤ r.last && (n - r.first) % r.step == 0 with
  | some r => Char.ofNat (r.target + (n - r.first))
  | none => c

def foldSources (target : Char) : List Char :=
  let n := target.toNat
  foldRuns.filterMap fun r =>
    if r.target ≤ n && n - r.target ≤ r.last - r.first && (n - r.target) % r.step == 0 then
      some (Char.ofNat (r.first + (n - r.target)))
    else none

def caseVariants (c : Char) : List Char :=
  foldChar c :: foldSources (foldChar c)

end Highlighting
