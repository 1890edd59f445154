/-!
Where a character stands in a source text. A position carries three coordinates that move
together: line and column for people, a byte offset for slices, a UTF-16 column for editors.
-/

namespace Highlighting

def utf8Length (text : List Char) : Nat :=
  text.foldr (fun c bytes => c.utf8Size + bytes) 0

def utf16Size (c : Char) : Nat :=
  if c.val < 0x10000 then 1 else 2

def utf16Length (text : List Char) : Nat :=
  text.foldr (fun c units => utf16Size c + units) 0

/-- Lines and columns count from one and columns count characters; offsets count from zero. -/
structure Position where
  line : Nat
  column : Nat
  byteOffset : Nat
  utf16Column : Nat
  deriving DecidableEq, Repr

namespace Position

def start : Position := ⟨1, 1, 0, 0⟩

instance : Inhabited Position := ⟨start⟩

def advance (p : Position) (c : Char) : Position :=
  if c = '\n' then ⟨p.line + 1, 1, p.byteOffset + c.utf8Size, 0⟩
  else ⟨p.line, p.column + 1, p.byteOffset + c.utf8Size, p.utf16Column + utf16Size c⟩

def advanceBy (p : Position) (text : List Char) : Position :=
  text.foldl advance p

theorem advanceBy_append (p : Position) (text text' : List Char) :
    p.advanceBy (text ++ text') = (p.advanceBy text).advanceBy text' := by
  simp [advanceBy, List.foldl_append]

def advancedBy (p : Position) (text : String) : Position :=
  p.advanceBy text.toList

end Position

structure Span where
  start : Position
  stop : Position
  deriving DecidableEq, Repr

namespace Span

def length (s : Span) : Nat :=
  s.stop.byteOffset - s.start.byteOffset

def isEmpty (s : Span) : Bool :=
  s.length == 0

end Span

end Highlighting
