import Highlighting.Text.CaseFolding
import Highlighting.Text.Property

namespace Highlighting

inductive AsciiClass where
  | alnum
  | alpha
  | ascii
  | blank
  | cntrl
  | digit
  | graph
  | lower
  | print
  | punct
  | space
  | upper
  | word
  | xdigit
  deriving DecidableEq, Repr

namespace AsciiClass

def ofName? (name : String) : Option AsciiClass :=
  match name with
  | "alnum" => some alnum
  | "alpha" => some alpha
  | "ascii" => some ascii
  | "blank" => some blank
  | "cntrl" => some cntrl
  | "digit" => some digit
  | "graph" => some graph
  | "lower" => some lower
  | "print" => some print
  | "punct" => some punct
  | "space" => some space
  | "upper" => some upper
  | "word" => some word
  | "xdigit" => some xdigit
  | _ => none

def contains (k : AsciiClass) (c : Char) : Bool :=
  let n := c.toNat
  match k with
  | alnum => c.isAlphanum
  | alpha => c.isAlpha
  | ascii => n < 0x80
  | blank => n == 0x09 || n == 0x20
  | cntrl => n < 0x20 || n == 0x7F
  | digit => c.isDigit
  | graph => 0x21 ≤ n && n ≤ 0x7E
  | lower => c.isLower
  | print => 0x20 ≤ n && n ≤ 0x7E
  | punct => 0x21 ≤ n && n ≤ 0x7E && !c.isAlphanum
  | space => (0x09 ≤ n && n ≤ 0x0D) || n == 0x20
  | upper => c.isUpper
  | word => c.isAlphanum || c == '_'
  | xdigit => c.isDigit || ('a' ≤ c && c ≤ 'f') || ('A' ≤ c && c ≤ 'F')

end AsciiClass

inductive CharSet where
  | empty
  | range (first last : Char)
  | decimalDigit
  | whiteSpace
  | word
  | ascii (k : AsciiClass)
  | runs (rs : List CodeRun)
  | union (s t : CharSet)
  | inter (s t : CharSet)
  | complement (s : CharSet)
  /-- The characters that are the same letter as one in `s`. -/
  | anyCase (s : CharSet)
  /-- The same where only the letters of ASCII have a case. -/
  | asciiCase (s : CharSet)
  deriving DecidableEq, Repr

namespace CharSet

def contains : CharSet → Char → Bool
  | empty, _ => false
  | range first last, c => first ≤ c && c ≤ last
  | decimalDigit, c => Property.isDecimalDigit c
  | whiteSpace, c => Property.isWhiteSpace c
  | word, c => Property.isWord c
  | ascii k, c => k.contains c
  | runs rs, c => Property.within rs c
  | union s t, c => s.contains c || t.contains c
  | inter s t, c => s.contains c && t.contains c
  | complement s, c => !s.contains c
  | anyCase s, c => (caseVariants c).any s.contains
  | asciiCase s, c => s.contains c.toLower || s.contains c.toUpper

def singleton (c : Char) : CharSet :=
  range c c

def unionOf : List CharSet → CharSet
  | [] => empty
  | [s] => s
  | s :: ss => union s (unionOf ss)

def difference (s t : CharSet) : CharSet :=
  inter s (complement t)

def symmetricDifference (s t : CharSet) : CharSet :=
  union (difference s t) (difference t s)

end CharSet

end Highlighting
