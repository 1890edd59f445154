import Highlighting.Json.Value
import Highlighting.Log.Event

namespace Highlighting

namespace Event

def fieldText : String × FieldValue → String
  | (name, .verbatim text) => " " ++ name ++ "=" ++ text
  | (name, .quoted text) => " " ++ name ++ "=" ++ quote text
  | (name, .count n) => " " ++ name ++ "=" ++ toString n

def line (e : Event) : String :=
  let label := e.level.label
  String.ofList (List.replicate (5 - label.length) ' ') ++ label ++ " " ++ e.phase.target ++
    ": " ++ e.message ++ String.join (e.fields.map fieldText)

def fieldJson : String × FieldValue → String × Json
  | (name, .verbatim text) => (name, .string text)
  | (name, .quoted text) => (name, .string text)
  | (name, .count n) => (name, .number n)

def toJson (e : Event) : Json :=
  .object [("level", .string e.level.label),
    ("fields", .object (("message", .string e.message) :: e.fields.map fieldJson)),
    ("target", .string e.phase.target)]

end Event

end Highlighting
