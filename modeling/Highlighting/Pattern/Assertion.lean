import Highlighting.Pattern.Cursor
import Highlighting.Pattern.CharSet

namespace Highlighting

inductive WordEdge where
  | boundary
  | inside
  | start
  | finish
  | startHalf
  | finishHalf
  deriving DecidableEq, Repr

inductive Assertion where
  | textStart
  | textEnd
  | lineStart
  | lineEnd
  /-- Lines end in a carriage return, a line feed, or both together. -/
  | anyLineStart
  | anyLineEnd
  /-- With `ascii`, words are made of the letters, digits and underscores of ASCII alone. -/
  | word (ascii : Bool) (edge : WordEdge)
  deriving DecidableEq, Repr

namespace Assertion

variable {text : List Char}

def edgeHolds (isWord : Char → Bool) (edge : WordEdge) (c : Cursor text) : Bool :=
  let left := c.before?.any isWord
  let right := c.after?.any isWord
  match edge with
  | .boundary => left != right
  | .inside => left == right
  | .start => !left && right
  | .finish => left && !right
  | .startHalf => !left
  | .finishHalf => !right

def holds (a : Assertion) (c : Cursor text) : Bool :=
  match a with
  | textStart => c.offset == 0
  | textEnd => c.rest.isEmpty
  | lineStart => c.offset == 0 || c.before? == some '\n'
  | lineEnd => c.rest.isEmpty || c.after? == some '\n'
  | anyLineStart =>
    c.offset == 0 || c.before? == some '\n' || (c.before? == some '\r' && c.after? != some '\n')
  | anyLineEnd =>
    c.rest.isEmpty || c.after? == some '\r' || (c.after? == some '\n' && c.before? != some '\r')
  | word true edge => edgeHolds AsciiClass.word.contains edge c
  | word false edge => edgeHolds Property.isWord edge c

end Assertion

end Highlighting
