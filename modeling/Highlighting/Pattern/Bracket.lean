import Highlighting.Pattern.Escape

namespace Highlighting.Pattern

structure ClassPart where
  set : CharSet
  depth : Nat

namespace ClassPart

def leaf (s : CharSet) : ClassPart :=
  ⟨s, 0⟩

def unionOf : List ClassPart → ClassPart
  | [] => leaf .empty
  | [p] => p
  | p :: ps =>
    ⟨ps.foldl (fun s q => .union q.set s) p.set, (ps.foldl (fun n q => max n q.depth) p.depth) + 1⟩

def nested? (f : Flags) (negated : Bool) (p : ClassPart) : Option ClassPart :=
  (f.negate? negated p.set).map (⟨·, p.depth + 1⟩)

end ClassPart

inductive SetOperator where
  | inter
  | difference
  | symmetricDifference

def SetOperator.apply : SetOperator → CharSet → CharSet → CharSet
  | inter => .inter
  | difference => .difference
  | symmetricDifference => .symmetricDifference

/-- A class being read: the parts of its latest operand, and the operand on the left of its latest
operator. -/
structure OpenClass where
  negated : Bool
  left : Option (SetOperator × ClassPart)
  parts : List ClassPart

namespace OpenClass

def add (k : OpenClass) (p : ClassPart) : OpenClass :=
  { k with parts := p :: k.parts }

def value (f : Flags) (k : OpenClass) : ClassPart :=
  let right := ClassPart.unionOf k.parts
  match k.left with
  | none => right
  | some (op, left) =>
    ⟨op.apply (f.fold left.set) (f.fold right.set), max left.depth right.depth + 1⟩

def operate (f : Flags) (k : OpenClass) (op : SetOperator) : OpenClass :=
  ⟨k.negated, some (op, k.value f), []⟩

def close? (f : Flags) (k : OpenClass) : Option ClassPart :=
  (k.value f).nested? f k.negated

end OpenClass

def leadingHyphens (fuel : Nat) (f : Flags) (k : OpenClass) (cs : List Char) :
    OpenClass × List Char :=
  match fuel, cs with
  | fuel + 1, '-' :: cs => leadingHyphens fuel f (k.add (.leaf (.singleton '-'))) (trim f cs)
  | _, cs => (k, cs)

def openClass (f : Flags) (cs : List Char) : OpenClass × List Char :=
  let cs := trim f cs
  let (negated, cs) :=
    match cs with
    | '^' :: cs => (true, trim f cs)
    | cs => (false, cs)
  let (k, cs) := leadingHyphens cs.length f ⟨negated, none, []⟩ cs
  match k.parts, cs with
  | [], ']' :: cs => (k.add (.leaf (.singleton ']')), trim f cs)
  | _, cs => (k, cs)

def asciiClass? (cs : List Char) : Option ((Bool × AsciiClass) × List Char) :=
  match cs with
  | ':' :: cs =>
    let (negated, cs) :=
      match cs with
      | '^' :: cs => (true, cs)
      | cs => (false, cs)
    let name := cs.takeWhile (· != ':')
    match cs.dropWhile (· != ':') with
    | ':' :: ']' :: cs =>
      (AsciiClass.ofName? (String.ofList name)).map fun k => ((negated, k), cs)
    | _ => none
  | _ => none

def Escape.fitsClass (f : Flags) : Escape → Bool
  | literal c => !f.ascii || isAscii c
  | _ => true

def classItem? (f : Flags) (cs : List Char) : Option (Escape × List Char) :=
  let found :=
    match cs with
    | [] => none
    | '\\' :: cs => escape? f cs
    | c :: cs => some (.literal c, cs)
  found.filter fun found => found.1.fitsClass f

def classRange? (f : Flags) (cs : List Char) : Option (CharSet × List Char) := do
  let (first, cs) ← classItem? f cs
  let single : Option CharSet :=
    match first with
    | .literal c => some (.singleton c)
    | .set s => some s
    | .assert _ => none
  match trim f cs with
  | [] => none
  | '-' :: behind =>
    let next := peekBehind? f behind
    if next = some ']' ∨ next = some '-' then return (← single, '-' :: behind)
    else
      let (last, cs) ← classItem? f (trim f behind)
      match first, last with
      | .literal a, .literal b => if a ≤ b then return (.range a b, cs) else none
      | _, _ => none
  | cs => return (← single, cs)

def classBody? (fuel : Nat) (f : Flags) (k : OpenClass) (outer : List OpenClass)
    (cs : List Char) : Option (ClassPart × List Char) :=
  match fuel with
  | 0 => none
  | fuel + 1 =>
    match trim f cs with
    | [] => none
    | '[' :: cs =>
      match asciiClass? cs with
      | some ((negated, named), cs) => do
        let s ← f.negate? negated (.ascii named)
        classBody? fuel f (k.add (.leaf s)) outer cs
      | none =>
        let (inner, cs) := openClass f cs
        classBody? fuel f inner (k :: outer) cs
    | ']' :: cs => do
      let p ← k.close? f
      match outer with
      | [] => return (p, cs)
      | around :: outer => classBody? fuel f (around.add p) outer cs
    | '&' :: '&' :: cs => classBody? fuel f (k.operate f .inter) outer cs
    | '-' :: '-' :: cs => classBody? fuel f (k.operate f .difference) outer cs
    | '~' :: '~' :: cs => classBody? fuel f (k.operate f .symmetricDifference) outer cs
    | cs => do
      let (s, cs) ← classRange? f cs
      classBody? fuel f (k.add (.leaf s)) outer cs

def class? (f : Flags) (cs : List Char) : Option (ClassPart × List Char) :=
  let (k, cs) := openClass f cs
  classBody? (cs.length + 1) f k [] cs

end Highlighting.Pattern
