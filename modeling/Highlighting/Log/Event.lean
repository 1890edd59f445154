import Highlighting.Log.Level
import Highlighting.OutputFormat
import Highlighting.Text.Quoted
import Highlighting.Token

namespace Highlighting

inductive Event where
  | compiled (lexer : String) (shortcutRules fallthroughRules shortcutChars : Nat)
  | tokenizing (lexer : String) (bytes : Nat)
  | produced (token : Token)
  | overriding (name existing rejected : String)
  | registered (handler : String) (bound requested : Nat)
  | fellBack (name fallback : String)
  | builtinsReady (aliases : Nat)
  | highlighted (language handler : String) (tokens : Nat)
  | reading (language : String) (bytes : Nat)
  | writing (tokens : Nat) (format : OutputFormat)
  deriving DecidableEq, Repr

inductive FieldValue where
  | verbatim (text : String)
  | quoted (text : String)
  | count (n : Nat)
  deriving DecidableEq, Repr

namespace Event

def level : Event → Level
  | compiled .. => .debug
  | tokenizing .. => .trace
  | produced .. => .trace
  | overriding .. => .warn
  | registered .. => .debug
  | fellBack .. => .debug
  | builtinsReady .. => .info
  | highlighted .. => .debug
  | reading .. => .info
  | writing .. => .debug

def phase : Event → Phase
  | compiled .. => .lexer
  | tokenizing .. => .lexer
  | produced .. => .lexer
  | overriding .. => .registry
  | registered .. => .registry
  | fellBack .. => .registry
  | builtinsReady .. => .highlight
  | highlighted .. => .highlight
  | reading .. => .cli
  | writing .. => .cli

def message : Event → String
  | compiled .. => "Compiled rule table"
  | tokenizing .. => "Tokenizing"
  | produced .. => "Produced token"
  | overriding .. => "cannot override language handler"
  | registered .. => "Registered language handler"
  | fellBack .. => "Using fallback language handler"
  | builtinsReady .. => "Built-in languages registered"
  | highlighted .. => "Highlighted source"
  | reading .. => "Highlighting"
  | writing .. => "Writing output"

def fields : Event → List (String × FieldValue)
  | compiled lexer shortcutRules fallthroughRules shortcutChars =>
    [("lexer", .verbatim lexer), ("shortcut_rules", .count shortcutRules),
      ("fallthrough_rules", .count fallthroughRules), ("shortcut_chars", .count shortcutChars)]
  | tokenizing lexer bytes => [("lexer", .verbatim lexer), ("bytes", .count bytes)]
  | produced token =>
    [("category", .quoted token.category.className), ("text", .verbatim (quote token.text)),
      ("line", .count token.span.start.line), ("column", .count token.span.start.column)]
  | overriding name existing rejected =>
    [("alias", .quoted name), ("existing", .quoted existing), ("rejected", .quoted rejected)]
  | registered handler bound requested =>
    [("handler", .quoted handler), ("bound", .count bound), ("requested", .count requested)]
  | fellBack name fallback => [("alias", .quoted name), ("fallback", .quoted fallback)]
  | builtinsReady aliases => [("aliases", .count aliases)]
  | highlighted language handler tokens =>
    [("language", .quoted language), ("handler", .quoted handler), ("tokens", .count tokens)]
  | reading language bytes => [("language", .verbatim language), ("bytes", .count bytes)]
  | writing tokens format => [("tokens", .count tokens), ("format", .verbatim format.label)]

end Event

/-- A value with the events emitted on the way to it, oldest first. -/
structure Logged (α : Type) where
  value : α
  events : List Event

namespace Logged

variable {α β : Type}

instance : Monad Logged where
  pure a := ⟨a, []⟩
  bind x f := ⟨(f x.value).value, x.events ++ (f x.value).events⟩

def emit (e : Event) : Logged Unit :=
  ⟨(), [e]⟩

end Logged

end Highlighting
