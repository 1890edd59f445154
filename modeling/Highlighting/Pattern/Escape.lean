import Highlighting.Pattern.Regex
import Highlighting.Pattern.UnicodeClass

namespace Highlighting.Pattern

structure Flags where
  ignoreCase : Bool := false
  multiLine : Bool := false
  dotAll : Bool := false
  swapGreed : Bool := false
  anyLineEnd : Bool := false
  verbose : Bool := false
  /-- Characters beyond ASCII stand for themselves: they have no case and are in no class. -/
  ascii : Bool := false
  deriving DecidableEq, Repr

namespace Flags

def set? (f : Flags) (letter : Char) (on : Bool) : Option Flags :=
  match letter with
  | 'i' => some { f with ignoreCase := on }
  | 'm' => some { f with multiLine := on }
  | 's' => some { f with dotAll := on }
  | 'U' => some { f with swapGreed := on }
  | 'R' => some { f with anyLineEnd := on }
  | 'x' => some { f with verbose := on }
  | 'u' => some { f with ascii := !on }
  | _ => none

def fold (f : Flags) (s : CharSet) : CharSet :=
  if f.ignoreCase then (if f.ascii then .asciiCase s else .anyCase s) else s

def pick (f : Flags) (s : CharSet) (k : AsciiClass) : CharSet :=
  if f.ascii then .ascii k else s

/-- With ASCII alone, what is not in `s` would be bytes, which are not all characters. -/
def complement? (f : Flags) (s : CharSet) : Option CharSet :=
  if f.ascii then none else some (.complement s)

def negate? (f : Flags) (negated : Bool) (s : CharSet) : Option CharSet :=
  if negated then f.complement? (f.fold s) else some (f.fold s)

def dot? (f : Flags) : Option CharSet :=
  if f.dotAll then f.complement? .empty
  else if f.anyLineEnd then f.complement? (.union (.singleton '\r') (.singleton '\n'))
  else f.complement? (.singleton '\n')

def caret (f : Flags) : Assertion :=
  if f.multiLine then (if f.anyLineEnd then .anyLineStart else .lineStart) else .textStart

def dollar (f : Flags) : Assertion :=
  if f.multiLine then (if f.anyLineEnd then .anyLineEnd else .lineEnd) else .textEnd

def literal (f : Flags) (c : Char) : CharSet :=
  f.fold (.singleton c)

end Flags

def skipBlank (inComment : Bool) : List Char → List Char
  | [] => []
  | c :: cs =>
    if inComment then skipBlank (c != '\n') cs
    else if Property.isWhiteSpace c then skipBlank false cs
    else if c = '#' then skipBlank true cs
    else c :: cs

def trim (f : Flags) (cs : List Char) : List Char :=
  if f.verbose then skipBlank false cs else cs

/-- The character behind a hyphen in a class. In verbose mode blanks, and one number sign between
them, are passed over. -/
def peekBehind? (f : Flags) (cs : List Char) : Option Char :=
  if f.verbose then
    let rest :=
      match cs.dropWhile Property.isWhiteSpace with
      | '#' :: rest => rest.dropWhile Property.isWhiteSpace
      | rest => rest
    rest.head?.or cs.head?
  else cs.head?

def scalar? (n : Nat) : Option Char :=
  if n.isValidChar then some (Char.ofNat n) else none

def hexDigits? (f : Flags) (value : Nat) : Nat → List Char → Option (Char × List Char)
  | 0, cs => (scalar? value).map (·, cs)
  | count + 1, c :: cs =>
    match hexDigit? c with
    | some d => hexDigits? f (value * 16 + d) count (trim f cs)
    | none => none
  | _ + 1, [] => none

def hexInBraces? (fuel : Nat) (f : Flags) (value : Option Nat) (cs : List Char) :
    Option (Char × List Char) :=
  match fuel, cs with
  | fuel + 1, c :: cs =>
    if c = '\x7d' then do
      let c ← scalar? (← value)
      return (c, trim f cs)
    else do
      let d ← hexDigit? c
      hexInBraces? fuel f (some (value.getD 0 * 16 + d)) (trim f cs)
  | _, _ => none

def isAscii (c : Char) : Bool :=
  c.toNat < 0x80

def hexEscape? (f : Flags) (count : Nat) (cs : List Char) : Option (Char × List Char) :=
  match trim f cs with
  | '\x7b' :: cs => hexInBraces? (cs.length + 1) f none (trim f cs)
  | cs => (hexDigits? f 0 count cs).filter fun found =>
    !(f.ascii && count == 2) || isAscii found.1

def decimalDigits (fuel : Nat) (f : Flags) (value : Option Nat) (cs : List Char) :
    Option Nat × List Char :=
  match fuel, cs with
  | fuel + 1, c :: rest =>
    if c.isDigit then
      decimalDigits fuel f (some (value.getD 0 * 10 + (c.toNat - 48))) (trim f rest)
    else (value, cs)
  | _, _ => (value, cs)

def decimal? (f : Flags) (cs : List Char) : Option (Nat × List Char) :=
  match decimalDigits (cs.length + 1) f none (cs.dropWhile Property.isWhiteSpace) with
  | (some n, cs) => if n < Nat.pow 2 32 then some (n, cs.dropWhile Property.isWhiteSpace) else none
  | (none, _) => none

inductive Escape where
  | literal (c : Char)
  | set (s : CharSet)
  | assert (a : Assertion)

def isWordEdgeName (c : Char) : Bool :=
  c.isAlpha || c == '-'

def wordEdgeNamed? (name : String) : Option WordEdge :=
  match name with
  | "start" => some .start
  | "end" => some .finish
  | "start-half" => some .startHalf
  | "end-half" => some .finishHalf
  | _ => none

def wordEdgeName? (fuel : Nat) (f : Flags) (name : List Char) (cs : List Char) :
    Option (WordEdge × List Char) :=
  match fuel, cs with
  | fuel + 1, c :: cs =>
    if isWordEdgeName c then wordEdgeName? fuel f (c :: name) (trim f cs)
    else if c = '\x7d' then (wordEdgeNamed? (String.ofList name.reverse)).map (·, cs)
    else none
  | _, _ => none

/-- Behind a word boundary: a word edge named in braces. A brace that opens no name is left for a
repetition. -/
def wordBoundary? (f : Flags) (cs : List Char) : Option (Escape × List Char) :=
  match cs with
  | '\x7b' :: rest =>
    match trim f rest with
    | [] => none
    | c :: rest =>
      if isWordEdgeName c then
        (wordEdgeName? (rest.length + 2) f [] (c :: rest)).map
          fun (edge, cs) => (.assert (.word f.ascii edge), cs)
      else some (.assert (.word f.ascii .boundary), cs)
  | _ => some (.assert (.word f.ascii .boundary), cs)

def nameInBraces? (fuel : Nat) (f : Flags) (name : List Char) (cs : List Char) :
    Option (List Char × List Char) :=
  match fuel, cs with
  | fuel + 1, c :: cs =>
    if c = '\x7d' then some (name.reverse, cs) else nameInBraces? fuel f (c :: name) (trim f cs)
  | _, _ => none

def unicodeSet? (f : Flags) (negated : Bool) (name : List Char) : Option CharSet :=
  if f.ascii then none else (UnicodeClass.ofPhrase? name).bind (f.negate? negated)

def unicodeClass? (f : Flags) (negated : Bool) (cs : List Char) : Option (CharSet × List Char) :=
  match trim f cs with
  | [] => none
  | '\x7b' :: cs =>
    (nameInBraces? (cs.length + 1) f [] (trim f cs)).bind fun (name, cs) =>
      (unicodeSet? f negated name).map (·, cs)
  | c :: cs => (unicodeSet? f negated [c]).map (·, cs)

def escape? (f : Flags) : List Char → Option (Escape × List Char)
  | [] => none
  | c :: cs =>
    match c with
    | 'x' => (hexEscape? f 2 cs).map fun (c, cs) => (.literal c, cs)
    | 'u' => (hexEscape? f 4 cs).map fun (c, cs) => (.literal c, cs)
    | 'U' => (hexEscape? f 8 cs).map fun (c, cs) => (.literal c, cs)
    | 'd' => some (.set (f.pick .decimalDigit .digit), cs)
    | 's' => some (.set (f.pick .whiteSpace .space), cs)
    | 'w' => some (.set (f.pick .word .word), cs)
    | 'D' => (f.complement? .decimalDigit).map fun s => (.set s, cs)
    | 'S' => (f.complement? .whiteSpace).map fun s => (.set s, cs)
    | 'W' => (f.complement? .word).map fun s => (.set s, cs)
    | 'p' => (unicodeClass? f false cs).map fun (s, cs) => (.set s, cs)
    | 'P' => (unicodeClass? f true cs).map fun (s, cs) => (.set s, cs)
    | 'a' => some (.literal '\x07', cs)
    | 'f' => some (.literal '\x0c', cs)
    | 't' => some (.literal '\t', cs)
    | 'n' => some (.literal '\n', cs)
    | 'r' => some (.literal '\r', cs)
    | 'v' => some (.literal '\x0b', cs)
    | 'A' => some (.assert .textStart, cs)
    | 'z' => some (.assert .textEnd, cs)
    | 'b' => wordBoundary? f cs
    | 'B' => some (.assert (.word f.ascii .inside), cs)
    | '<' => some (.assert (.word f.ascii .start), cs)
    | '>' => some (.assert (.word f.ascii .finish), cs)
    | _ => if isAscii c ∧ ¬c.isAlphanum then some (.literal c, cs) else none

end Highlighting.Pattern
