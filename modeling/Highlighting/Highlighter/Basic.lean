import Highlighting.Highlighter.Config
import Highlighting.Languages.Assembly

namespace Highlighting

structure Highlighted where
  language : String
  handler : String
  tokens : List Token
  deriving DecidableEq, Repr

namespace Highlighted

def decorations (h : Highlighted) (merge : Bool) : List Decoration :=
  Decoration.ofTokens merge h.tokens

end Highlighted

def Registry.registerBuiltins (registry : Registry) :
    Logged (Registry × Except HighlightError Nat) :=
  Assembly.register registry

structure Highlighter where
  registry : Registry
  config : HighlightConfig

namespace Highlighter

def withBuiltins (config : HighlightConfig) : Logged (Except HighlightError Highlighter) := do
  let (registry, outcome) ← Registry.empty.registerBuiltins
  match outcome with
  | .error e => return .error e
  | .ok bound =>
    .emit (.builtinsReady bound)
    return .ok ⟨registry, config⟩

def highlight (h : Highlighter) (language source : String) :
    Logged (Except HighlightError Highlighted) := do
  match ← h.registry.resolve language h.config.fallbackLanguage with
  | .error e => return .error (.registry e)
  | .ok handler =>
    let tokens ← handler.tokenize source
    .emit (.highlighted language handler.name tokens.length)
    return .ok ⟨language, handler.name, tokens⟩

def decorate (h : Highlighter) (language source : String) :
    Logged (Except HighlightError (List Decoration)) := do
  return (← h.highlight language source).map (·.decorations h.config.mergeDecorations)

def describe (h : Highlighter) : String :=
  "Highlighter \x7b registry: " ++ h.registry.describe ++ ", config: " ++ h.config.describe ++
    " \x7d"

end Highlighter

end Highlighting
