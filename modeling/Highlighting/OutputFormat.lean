namespace Highlighting

inductive OutputFormat where
  | text
  | json
  | decorations
  deriving DecidableEq, Repr

namespace OutputFormat

instance : Inhabited OutputFormat := ⟨text⟩

def all : List OutputFormat :=
  [text, json, decorations]

def name : OutputFormat → String
  | text => "text"
  | json => "json"
  | decorations => "decorations"

def label : OutputFormat → String
  | text => "Text"
  | json => "Json"
  | decorations => "Decorations"

def ofName? (name : String) : Option OutputFormat :=
  all.find? (·.name == name)

end OutputFormat

end Highlighting
