/-!
The categories a piece of source text can have. Each has a short style class, a spelled-out name
for data formats, and the name of its constructor.
-/

namespace Highlighting

inductive Category where
  | plain
  | string
  | keyword
  | comment
  | type
  | literal
  | punctuation
  | tag
  | declaration
  | source
  | attribName
  | attribValue
  | noCode
  deriving DecidableEq, Repr

namespace Category

instance : Inhabited Category := ⟨plain⟩

def all : List Category :=
  [plain, string, keyword, comment, type, literal, punctuation, tag, declaration, source,
    attribName, attribValue, noCode]

def className : Category → String
  | plain => "pln"
  | string => "str"
  | keyword => "kwd"
  | comment => "com"
  | type => "typ"
  | literal => "lit"
  | punctuation => "pun"
  | tag => "tag"
  | declaration => "dec"
  | source => "src"
  | attribName => "atn"
  | attribValue => "atv"
  | noCode => "nocode"

def ofClassName? (name : String) : Option Category :=
  all.find? (·.className == name)

def jsonName : Category → String
  | plain => "plain"
  | string => "string"
  | keyword => "keyword"
  | comment => "comment"
  | type => "type"
  | literal => "literal"
  | punctuation => "punctuation"
  | tag => "tag"
  | declaration => "declaration"
  | source => "source"
  | attribName => "attrib_name"
  | attribValue => "attrib_value"
  | noCode => "no_code"

def label : Category → String
  | plain => "Plain"
  | string => "String"
  | keyword => "Keyword"
  | comment => "Comment"
  | type => "Type"
  | literal => "Literal"
  | punctuation => "Punctuation"
  | tag => "Tag"
  | declaration => "Declaration"
  | source => "Source"
  | attribName => "AttribName"
  | attribValue => "AttribValue"
  | noCode => "NoCode"

end Category

end Highlighting
