import Highlighting.Highlighter.Basic
import Highlighting.Json.Value

namespace Highlighting

def Position.toJson (p : Position) : Json :=
  .object [("line", .number p.line), ("column", .number p.column),
    ("byte_offset", .number p.byteOffset), ("utf16_column", .number p.utf16Column)]

def Span.toJson (s : Span) : Json :=
  .object [("start", s.start.toJson), ("end", s.stop.toJson)]

def Token.toJson (t : Token) : Json :=
  .object [("category", .string t.category.jsonName), ("text", .string t.text),
    ("span", t.span.toJson)]

def Decoration.toJson (d : Decoration) : Json :=
  .object [("offset", .number d.offset), ("category", .string d.category.jsonName)]

def HighlightConfig.toJson (config : HighlightConfig) : Json :=
  .object [("fallback_language", .ofOption config.fallbackLanguage),
    ("merge_decorations", .bool config.mergeDecorations)]

namespace Highlighted

def toJson (h : Highlighted) : Json :=
  .object [("language", .string h.language), ("handler", .string h.handler),
    ("tokens", .array (h.tokens.map Token.toJson))]

end Highlighted

namespace Output

def tokenLine (t : Token) : String :=
  toString t.span.start.line ++ ":" ++ toString t.span.start.column ++ "\t" ++
    t.category.className ++ "\t" ++ quote t.text ++ "\n"

def text (h : Highlighted) : String :=
  String.join (h.tokens.map tokenLine)

def json (h : Highlighted) : String :=
  String.ofList (h.toJson.pretty 0 ++ ['\n'])

def decorationLine (d : Decoration) : String :=
  toString d.offset ++ "\t" ++ d.category.className ++ "\n"

def decorations (ds : List Decoration) : String :=
  String.join (ds.map decorationLine)

def render (format : OutputFormat) (merge : Bool) (h : Highlighted) : String :=
  match format with
  | .text => text h
  | .json => json h
  | .decorations => decorations (h.decorations merge)

end Output

end Highlighting
