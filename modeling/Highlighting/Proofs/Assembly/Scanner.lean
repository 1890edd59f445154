import Highlighting.Category
import Mathlib.Tactic.Lemma

/-! A scanner for assembly language that never goes back: the first characters of a text settle
what stands there, and one pass over it where it ends. -/

namespace Highlighting.Assembly

def isBlank (c : Char) : Bool :=
  c ∈ ['\t', '\n', '\r', ' ', '\xA0']

def endsLine (c : Char) : Bool :=
  c ∈ ['\r', '\n']

def isSigil (c : Char) : Bool :=
  c ∈ ['%', '@', '!']

def isSymbolStart (c : Char) : Bool :=
  c.isAlpha || c ∈ ['-', '$', '.', '_']

def isSymbolPart (c : Char) : Bool :=
  isSymbolStart c || c.isDigit

def isNameStart (c : Char) : Bool :=
  c.isAlpha || c == '_'

def isNamePart (c : Char) : Bool :=
  isNameStart c || c.isDigit

def isHexDigit (c : Char) : Bool :=
  c.isDigit || 'a' ≤ c && c ≤ 'f' || 'A' ≤ c && c ≤ 'F'

def isPunctuation (c : Char) : Bool :=
  c ∈ ['(', ')', '[', ']', '\x7b', '\x7d', ',', '=', '*', '<', '>', ':']

def headed? (p q : Char → Bool) : List Char → Option (List Char)
  | [] => none
  | c :: cs => if p c then some (c :: cs.takeWhile q) else none

/-- The inside of a string up to its closing quote, or to the end of the text. A backslash takes
the next character with it, and there has to be one. -/
def throughQuote? : List Char → Option (List Char)
  | [] => some []
  | '"' :: _ => some ['"']
  | ['\\'] => none
  | '\\' :: c :: cs => (throughQuote? cs).map fun body => '\\' :: c :: body
  | c :: cs => (throughQuote? cs).map (c :: ·)

def string? : List Char → Option (List Char)
  | '"' :: cs => (throughQuote? cs).map ('"' :: ·)
  | '!' :: '"' :: cs => (throughQuote? cs).map fun body => '!' :: '"' :: body
  | _ => none

def hexadecimal? : List Char → Option (List Char)
  | '0' :: x :: cs =>
    if x = 'x' ∨ x = 'X' then (headed? isHexDigit isHexDigit cs).map fun ds => '0' :: x :: ds
    else none
  | _ => none

def digits? (text : List Char) : Option (List Char) :=
  (hexadecimal? text).or (headed? Char.isDigit Char.isDigit text)

def number? : List Char → Option (List Char)
  | '$' :: cs => (digits? cs).map ('$' :: ·)
  | cs => digits? cs

def scan : List Char → Option (Category × List Char)
  | [] => none
  | c :: cs => some <|
    if isBlank c then (.plain, c :: cs.takeWhile isBlank)
    else if c = '"' ∨ c = '!' ∧ cs.head? = some '"' then
      match string? (c :: cs) with
      | some text => (.string, text)
      | none => (.plain, [c])
    else if c = '#' then (.comment, c :: cs.takeWhile (!endsLine ·))
    else if isSigil c ∧ cs.head?.any isSymbolStart then
      (.plain, c :: cs.takeWhile isSymbolPart)
    else if isSigil c ∧ cs.head?.any Char.isDigit then (.plain, c :: cs.takeWhile Char.isDigit)
    else if isNameStart c then (.keyword, c :: cs.takeWhile isNamePart)
    else if c = '$' ∨ c.isDigit then
      match number? (c :: cs) with
      | some text => (.literal, text)
      | none => (.plain, [c])
    else if isPunctuation c then (.punctuation, [c])
    else if c :: cs = ['.', '.', '.'] then (.punctuation, c :: cs)
    else (.plain, [c])

end Highlighting.Assembly
