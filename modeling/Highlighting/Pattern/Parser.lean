import Highlighting.Pattern.Bracket

/-!
The written form of regular expressions: Perl-like, without look-around and back-references, and
with the classes of Unicode 15.0. `Regex.ofPattern?` reads a whole pattern. It has no answer where
the pattern is malformed, nests too deeply or is too large, by a measure that only comes near the
room that compiled patterns take. A pattern is about characters: with Unicode switched off, what
would match single bytes beyond ASCII has no answer either.
-/

namespace Highlighting.Pattern

/-- A part of a pattern, with the depth of its nesting and a measure of its size. -/
structure Part where
  regex : Regex
  depth : Nat
  size : Nat

/-- How much room a set takes, a single range taking one. The words take by far the most. -/
def setSize : CharSet → Nat
  | .empty => 1
  | .range _ _ => 1
  | .decimalDigit => 64
  | .whiteSpace => 10
  | .word => 1440
  | .ascii _ => 4
  | .runs rs => rs.foldl (fun n r => n + r.size) 0
  | .union s t => setSize s + setSize t
  | .inter s t => max (setSize s) (setSize t)
  | .complement s => setSize s
  | .anyCase s => setSize s
  | .asciiCase s => setSize s

namespace Part

def leaf (r : Regex) : Part :=
  ⟨r, 0, 1⟩

def ofSet (s : CharSet) (depth : Nat) : Part :=
  ⟨.set s, depth, setSize s⟩

def join (op : Regex → Regex → Regex) (p : Part) (ps : List Part) : Part :=
  ⟨ps.foldl (fun r q => op r q.regex) p.regex, (ps.foldl (fun n q => max n q.depth) p.depth) + 1,
    ps.foldl (fun n q => n + q.size) p.size⟩

def sequence : List Part → Part
  | [] => leaf .empty
  | [p] => p
  | p :: ps => join .cat p ps

def choice : List Part → Part
  | [] => leaf .empty
  | [p] => p
  | p :: ps => join .alt p ps

def nested (p : Part) : Part :=
  { p with depth := p.depth + 1 }

def repeated (p : Part) (count : Nat) (r : Regex → Regex) : Part :=
  ⟨r p.regex, p.depth + 1, p.size * max count 1 + 1⟩

end Part

/-- A group being read. The finished alternatives and the parts of the unfinished one come latest
first; a part that is `none` is a change of flags, which cannot be repeated. -/
structure OpenGroup where
  flags : Flags
  alternatives : List Part
  parts : List (Option Part)

namespace OpenGroup

def add (g : OpenGroup) (p : Part) : OpenGroup :=
  { g with parts := some p :: g.parts }

def tail (g : OpenGroup) : Part :=
  .sequence (g.parts.reverse.map fun p => p.getD (.leaf .empty))

def bar (g : OpenGroup) : OpenGroup :=
  ⟨g.flags, g.tail :: g.alternatives, []⟩

def value (g : OpenGroup) : Part :=
  .choice (g.tail :: g.alternatives).reverse

def repeatLast? (g : OpenGroup) (count : Nat) (r : Regex → Regex) : Option OpenGroup :=
  match g.parts with
  | some p :: parts => some { g with parts := some (p.repeated count r) :: parts }
  | _ => none

end OpenGroup

def flagGroup? (f : Flags) (seen : List Char) (negated : Bool) :
    List Char → Option (Flags × Bool × Char × List Char)
  | [] => none
  | c :: cs =>
    if c = ':' ∨ c = ')' then
      if seen.head? = some '-' then none else some (f, !seen.isEmpty, c, cs)
    else if c = '-' then
      if negated then none else flagGroup? f (c :: seen) true cs
    else if c ∈ seen then none
    else
      match f.set? c (!negated) with
      | some f => flagGroup? f (c :: seen) negated cs
      | none => none

def isNameStart (c : Char) : Bool :=
  c == '_' || Property.isAlphabetic c

def isNamePart (c : Char) : Bool :=
  c == '_' || c == '.' || c == '[' || c == ']' || Property.isAlphanumeric c

def groupName? (cs : List Char) : Option (List Char × List Char) :=
  let name := cs.takeWhile (· != '>')
  match name, cs.dropWhile (· != '>') with
  | c :: name, '>' :: cs =>
    if isNameStart c && name.all isNamePart then some (c :: name, cs) else none
  | _, _ => none

structure Reader where
  group : OpenGroup
  outer : List OpenGroup
  names : List (List Char)

namespace Reader

def begin (f : Flags) : Reader :=
  ⟨⟨f, [], []⟩, [], []⟩

def add (r : Reader) (p : Part) : Reader :=
  { r with group := r.group.add p }

def enter (r : Reader) (f : Flags) : Reader :=
  { r with group := ⟨f, [], []⟩, outer := r.group :: r.outer }

def leave? (r : Reader) : Option Reader :=
  match r.outer with
  | [] => none
  | around :: outer => some { r with group := around.add r.group.value.nested, outer }

def enterNamed? (r : Reader) (cs : List Char) : Option (Reader × List Char) :=
  match groupName? cs with
  | some (name, cs) =>
    if name ∈ r.names then none
    else some ({ r.enter r.group.flags with names := name :: r.names }, cs)
  | none => none

def openGroup? (r : Reader) (cs : List Char) : Option (Reader × List Char) :=
  let f := r.group.flags
  match trim f cs with
  | '?' :: '=' :: _ => none
  | '?' :: '!' :: _ => none
  | '?' :: '<' :: '=' :: _ => none
  | '?' :: '<' :: '!' :: _ => none
  | '?' :: 'P' :: '<' :: cs => r.enterNamed? cs
  | '?' :: '<' :: cs => r.enterNamed? cs
  | '?' :: cs =>
    match flagGroup? f [] false cs with
    | some (g, true, ')', cs) =>
      some ({ r with group := { r.group with flags := g, parts := none :: r.group.parts } }, cs)
    | some (g, _, ':', cs) => some (r.enter g, cs)
    | _ => none
  | cs => some (r.enter f, cs)

def greed (f : Flags) (cs : List Char) : Bool × List Char :=
  match cs with
  | '?' :: cs => (f.swapGreed, cs)
  | cs => (!f.swapGreed, cs)

def repeat? (r : Reader) (op : Bool → Regex → Regex) (cs : List Char) :
    Option (Reader × List Char) :=
  let (greedy, cs) := greed r.group.flags cs
  (r.group.repeatLast? 1 (op greedy)).map fun g => ({ r with group := g }, cs)

def bounds? (f : Flags) (cs : List Char) : Option (Nat × Option Nat × List Char) := do
  let (least, cs) ← decimal? f (trim f cs)
  match cs with
  | '\x7d' :: cs => return (least, some least, cs)
  | ',' :: cs =>
    match trim f cs with
    | '\x7d' :: cs => return (least, none, cs)
    | cs =>
      let (most, cs) ← decimal? f cs
      match cs with
      | '\x7d' :: cs => if least ≤ most then return (least, some most, cs) else none
      | _ => none
  | _ => none

def sizeLimit : Nat :=
  327680

def repeatCounted? (r : Reader) (cs : List Char) : Option (Reader × List Char) := do
  let f := r.group.flags
  let (least, most, cs) ← bounds? f cs
  let (greedy, cs) := greed f (trim f cs)
  match r.group.parts with
  | some p :: _ =>
    if p.size * max least (most.getD 0) ≤ sizeLimit then
      let g ← r.group.repeatLast? (max least (most.getD 0)) fun s =>
        match most with
        | some most => s.between greedy least most
        | none => s.atLeast greedy least
      return ({ r with group := g }, cs)
    else none
  | _ => none

def readPart? (f : Flags) : List Char → Option (Part × List Char)
  | [] => none
  | '[' :: cs => (class? f cs).map fun (p, cs) => (.ofSet p.set p.depth, cs)
  | '.' :: cs => f.dot?.map fun s => (.ofSet s 0, cs)
  | '^' :: cs => some (.leaf (.assert f.caret), cs)
  | '$' :: cs => some (.leaf (.assert f.dollar), cs)
  | '\\' :: cs =>
    (escape? f cs).map fun (e, cs) =>
      match e with
      | .literal c => (.ofSet (f.literal c) 0, cs)
      | .set s => (.ofSet s 0, cs)
      | .assert a => (.leaf (.assert a), cs)
  | c :: cs => some (.ofSet (f.literal c) 0, cs)

def step? (r : Reader) : List Char → Option (Reader × List Char)
  | '(' :: cs => r.openGroup? cs
  | ')' :: cs => r.leave?.map (·, cs)
  | '|' :: cs => some ({ r with group := r.group.bar }, cs)
  | '?' :: cs => r.repeat? .opt cs
  | '*' :: cs => r.repeat? .star cs
  | '+' :: cs => r.repeat? .plus cs
  | '\x7b' :: cs => r.repeatCounted? cs
  | cs => (readPart? r.group.flags cs).map fun (p, cs) => (r.add p, cs)

def read? (fuel : Nat) (r : Reader) (cs : List Char) : Option Part :=
  match fuel with
  | 0 => none
  | fuel + 1 =>
    match trim r.group.flags cs with
    | [] => if r.outer.isEmpty then some r.group.value else none
    | cs => do
      let (r, cs) ← r.step? cs
      read? fuel r cs

end Reader

def depthLimit : Nat :=
  250

end Highlighting.Pattern

namespace Highlighting.Regex

def ofPattern? (ignoreCase : Bool) (pattern : List Char) : Option Regex := do
  let part ← Pattern.Reader.read? (pattern.length + 1) (.begin { ignoreCase }) pattern
  if part.depth ≤ Pattern.depthLimit ∧ part.size ≤ Pattern.Reader.sizeLimit then return part.regex
  else none

end Highlighting.Regex
