import Highlighting.Json.Numeral
import Highlighting.Position
import Highlighting.Text.Hexadecimal

/-!
JSON text as a tree. Reading never fails: where the text is faulty the tree is broken off, and
says what is wrong there. Who walks the tree from left to right comes to the first fault of the
text, unless something else stops the walk before.
-/

namespace Highlighting

inductive Fault where
  | malformed
  | truncated
  deriving DecidableEq, Repr

/-- A fault as seen by who needs the value and by who passes over it. Needed strings must not hold
half of a surrogate pair. -/
structure Breach where
  needed : Fault
  skipped : Fault
  deriving DecidableEq, Repr

namespace Breach

def both (f : Fault) : Breach :=
  ⟨f, f⟩

end Breach

inductive Beginning where
  | nothing
  | null
  | bool
  | number
  | string
  deriving DecidableEq, Repr

inductive Ending where
  | closed
  | broken (b : Breach)
  | trailing (b : Breach)
  deriving DecidableEq, Repr

/-- A string is `none` when it holds half of a surrogate pair. -/
inductive Tree where
  | null
  | bool (b : Bool)
  | number (n : Numeral)
  | string (s : Option String)
  | array (items : List Tree) (ending : Ending)
  | object (members : List (Option String × Tree)) (ending : Ending)
  | broken (beginning : Beginning) (b : Breach)
  deriving Repr

namespace Tree

inductive StringPart where
  | char (c : Char)
  | unit (n : Nat)
  deriving DecidableEq, Repr

namespace StringPart

def isLeading (n : Nat) : Bool :=
  0xD800 ≤ n && n < 0xDC00

def isTrailing (n : Nat) : Bool :=
  0xDC00 ≤ n && n < 0xE000

def chars? : List StringPart → Option (List Char)
  | [] => some []
  | char c :: parts => (chars? parts).map (c :: ·)
  | unit n :: parts =>
    if isTrailing n then none
    else if isLeading n then
      match parts with
      | unit m :: parts =>
        if isTrailing m then
          (chars? parts).map (Char.ofNat (0x10000 + (n - 0xD800) * 0x400 + (m - 0xDC00)) :: ·)
        else none
      | _ => none
    else (chars? parts).map (Char.ofNat n :: ·)

def settled : List StringPart → List StringPart
  | unit n :: parts => if isLeading n then parts else unit n :: parts
  | parts => parts

def breach (parts : List StringPart) (f : Fault) : Breach :=
  ⟨if (chars? (settled parts).reverse).isSome then f else .malformed, f⟩

end StringPart

def hexUnit? (a b c d : Char) : Option Nat := do
  return (((← hexDigit? a) * 16 + (← hexDigit? b)) * 16 + (← hexDigit? c)) * 16 + (← hexDigit? d)

def escaped? (c : Char) : Option Char :=
  match c with
  | '"' => some '"'
  | '\\' => some '\\'
  | '/' => some '/'
  | 'b' => some '\x08'
  | 'f' => some '\x0c'
  | 'n' => some '\n'
  | 'r' => some '\r'
  | 't' => some '\t'
  | _ => none

def stringParts (parts : List StringPart) :
    List Char → Except Breach (List StringPart × List Char)
  | [] => .error (StringPart.breach parts .truncated)
  | '"' :: rest => .ok (parts.reverse, rest)
  | '\\' :: 'u' :: a :: b :: c :: d :: rest =>
    match hexUnit? a b c d with
    | some n => stringParts (.unit n :: parts) rest
    | none => .error (StringPart.breach parts .malformed)
  | '\\' :: 'u' :: rest =>
    .error (StringPart.breach parts (if utf8Length rest < 4 then .truncated else .malformed))
  | '\\' :: c :: rest =>
    match escaped? c with
    | some c => stringParts (.char c :: parts) rest
    | none => .error (StringPart.breach parts .malformed)
  | '\\' :: [] => .error (StringPart.breach parts .truncated)
  | c :: rest =>
    if c.toNat < 0x20 then .error (StringPart.breach parts .malformed)
    else stringParts (.char c :: parts) rest

def readString (cs : List Char) : Except Breach (Option String × List Char) :=
  (stringParts [] cs).map fun (parts, rest) =>
    ((StringPart.chars? parts).map String.ofList, rest)

def digits (cs : List Char) : Except Breach (List Char × List Char) :=
  match cs with
  | [] => .error ⟨.truncated, .malformed⟩
  | c :: _ =>
    if c.isDigit then .ok (cs.takeWhile Char.isDigit, cs.dropWhile Char.isDigit)
    else .error (.both .malformed)

def wholeDigits (cs : List Char) : Except Breach (List Char × List Char) := do
  let (ds, rest) ← digits cs
  if ds.head? = some '0' ∧ ds.length ≠ 1 then .error (.both .malformed) else return (ds, rest)

def fractionDigits (cs : List Char) : Except Breach (List Char × List Char) :=
  match cs with
  | '.' :: cs => digits cs
  | _ => .ok ([], cs)

def exponentPart (cs : List Char) : Except Breach (Option (Bool × List Char) × List Char) :=
  match cs with
  | c :: cs' =>
    if c = 'e' ∨ c = 'E' then
      let (down, cs') :=
        match cs' with
        | '-' :: cs => (true, cs)
        | '+' :: cs => (false, cs)
        | cs => (false, cs)
      (digits cs').map fun (ds, rest) => (some (down, ds), rest)
    else .ok (none, cs)
  | [] => .ok (none, cs)

def readNumeral (cs : List Char) : Except Breach (Numeral × List Char) := do
  let (negative, cs) :=
    match cs with
    | '-' :: cs => (true, cs)
    | cs => (false, cs)
  let (whole, cs) ← wholeDigits cs
  let (fraction, cs) ← fractionDigits cs
  let (exponent, cs) ← exponentPart cs
  return (⟨negative, whole, fraction, exponent⟩, cs)

def isBlank (c : Char) : Bool :=
  c == ' ' || c == '\n' || c == '\t' || c == '\r'

def trim (cs : List Char) : List Char :=
  cs.dropWhile isBlank

def keyword (word : List Char) (cs : List Char) : Except Fault (List Char) :=
  match word, cs with
  | [], cs => .ok cs
  | _ :: _, [] => .error .truncated
  | w :: word, c :: cs => if w = c then keyword word cs else .error .malformed

def ofKeyword (value : Tree) (beginning : Beginning) (word cs : List Char) : Tree × List Char :=
  match keyword word cs with
  | .ok rest => (value, rest)
  | .error f => (broken beginning (.both f), [])

mutual

def read (fuel : Nat) (cs : List Char) : Tree × List Char :=
  match fuel with
  | 0 => (broken .nothing (.both .malformed), [])
  | fuel + 1 =>
    match trim cs with
    | [] => (broken .nothing (.both .truncated), [])
    | 'n' :: cs => ofKeyword null .null "ull".toList cs
    | 't' :: cs => ofKeyword (bool true) .bool "rue".toList cs
    | 'f' :: cs => ofKeyword (bool false) .bool "alse".toList cs
    | '"' :: cs =>
      match readString cs with
      | .ok (s, rest) => (string s, rest)
      | .error b => (broken .string b, [])
    | '[' :: cs =>
      match trim cs with
      | ']' :: rest => (array [] .closed, rest)
      | [] => (array [] (.broken (.both .truncated)), [])
      | cs =>
        let (items, ending, rest) := readItems fuel cs
        (array items ending, rest)
    | '\x7b' :: cs =>
      match trim cs with
      | '\x7d' :: rest => (object [] .closed, rest)
      | [] => (object [] (.broken (.both .truncated)), [])
      | '"' :: cs =>
        let (members, ending, rest) := readMembers fuel cs
        (object members ending, rest)
      | _ => (object [] (.broken (.both .malformed)), [])
    | c :: cs =>
      if c = '-' ∨ c.isDigit then
        match readNumeral (c :: cs) with
        | .ok (n, rest) => (number n, rest)
        | .error b => (broken .number b, [])
      else (broken .nothing (.both .malformed), [])

def readItems (fuel : Nat) (cs : List Char) : List Tree × Ending × List Char :=
  match fuel with
  | 0 => ([], .broken (.both .malformed), [])
  | fuel + 1 =>
    let (item, rest) := read fuel cs
    match trim rest with
    | ']' :: rest => ([item], .closed, rest)
    | [] => ([item], .broken (.both .truncated), [])
    | ',' :: rest =>
      match trim rest with
      | [] => ([item], .trailing (.both .truncated), [])
      | ']' :: _ => ([item], .trailing (.both .malformed), [])
      | cs =>
        let (items, ending, rest) := readItems fuel cs
        (item :: items, ending, rest)
    | _ => ([item], .broken (.both .malformed), [])

def readMembers (fuel : Nat) (cs : List Char) :
    List (Option String × Tree) × Ending × List Char :=
  match fuel with
  | 0 => ([], .broken (.both .malformed), [])
  | fuel + 1 =>
    match readString cs with
    | .error b => ([], .broken b, [])
    | .ok (key, rest) =>
      let (value, rest) :=
        match trim rest with
        | ':' :: rest => read fuel rest
        | [] => (broken .nothing (.both .truncated), [])
        | _ => (broken .nothing (.both .malformed), [])
      match trim rest with
      | '\x7d' :: rest => ([(key, value)], .closed, rest)
      | [] => ([(key, value)], .broken (.both .truncated), [])
      | ',' :: rest =>
        match trim rest with
        | '"' :: cs =>
          match readMembers fuel cs with
          | ([], .broken b, rest) => ([(key, value)], .trailing b, rest)
          | (members, ending, rest) => ((key, value) :: members, ending, rest)
        | [] => ([(key, value)], .trailing (.both .truncated), [])
        | _ => ([(key, value)], .trailing (.both .malformed), [])
      | _ => ([(key, value)], .broken (.both .malformed), [])

end

def ofText (cs : List Char) : Tree × List Char :=
  read (2 * cs.length + 2) cs

mutual

def fault? : Tree → Option Fault
  | array items ending => faultOfItems? items ending
  | object members ending => faultOfMembers? members ending
  | broken _ b => some b.skipped
  | _ => none

def faultOfItems? : List Tree → Ending → Option Fault
  | [], .closed => none
  | [], .broken b => some b.skipped
  | [], .trailing b => some b.skipped
  | x :: xs, ending => (fault? x).or (faultOfItems? xs ending)

def faultOfMembers? : List (Option String × Tree) → Ending → Option Fault
  | [], .closed => none
  | [], .broken b => some b.skipped
  | [], .trailing b => some b.skipped
  | (_, x) :: ms, ending => (fault? x).or (faultOfMembers? ms ending)

end

end Tree

end Highlighting
