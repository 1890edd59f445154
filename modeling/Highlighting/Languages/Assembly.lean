import Highlighting.Highlighter.Error

namespace Highlighting.Assembly

def name : String :=
  "asm"

def aliases : List String :=
  ["asm", "att"]

def shortcutRules : List RuleSpec :=
  [⟨.plain, "^[\\t\\n\\r \\xA0]+", none, some "\t\n\r \xA0"⟩,
    ⟨.string, "^!?\"(?:[^\"\\\\]|\\\\[\\s\\S])*(?:\"|$)", none, some "\""⟩,
    ⟨.comment, "^#[^\\r\\n]*", none, some "#"⟩]

def fallthroughRules : List RuleSpec :=
  [⟨.plain, "^[%@!](?:[\\-a-zA-Z$._][\\-a-zA-Z$._0-9]*|[0-9]+)", none, none⟩,
    ⟨.keyword, "^[A-Za-z_][0-9A-Za-z_]*", none, none⟩,
    ⟨.literal, "^\\$?(?:0[xX][a-fA-F0-9]+|[0-9]+)", none, none⟩,
    ⟨.punctuation, "^[()\\[\\]\x7b\x7d,=*<>:]|\\.\\.\\.$", none, none⟩]

def compile : Logged (Except RuleError Lexer) :=
  Lexer.compile name shortcutRules fallthroughRules

def lexer : Except RuleError Lexer :=
  compile.value

def register (registry : Registry) : Logged (Registry × Except HighlightError Nat) :=
  match lexer with
  | .error e => pure (registry, .error (.rule e))
  | .ok lexer => do
    let (registry, outcome) ← registry.register lexer.handler aliases
    return (registry, outcome.mapError .registry)

end Highlighting.Assembly
