import Highlighting.Category
import Highlighting.Position

namespace Highlighting

structure Token where
  category : Category
  text : String
  span : Span
  deriving DecidableEq, Repr

namespace Token

def startingAt (start : Position) (category : Category) (text : List Char) : Token :=
  ⟨category, String.ofList text, ⟨start, start.advanceBy text⟩⟩

def concatText (tokens : List Token) : String :=
  String.join (tokens.map Token.text)

end Token

/-- From the byte `offset` on, up to the next decoration, the text has this category. -/
structure Decoration where
  offset : Nat
  category : Category
  deriving DecidableEq, Repr

namespace Decoration

def ofToken (t : Token) : Decoration :=
  ⟨t.span.start.byteOffset, t.category⟩

def merged (current : Option Category) : List Token → List Decoration
  | [] => []
  | t :: ts =>
    if current = some t.category then merged current ts
    else ofToken t :: merged (some t.category) ts

def ofTokens (merge : Bool) (tokens : List Token) : List Decoration :=
  if merge then merged none tokens else tokens.map ofToken

end Decoration

end Highlighting
