import Highlighting.Registry

namespace Highlighting

inductive HighlightError where
  | rule (e : RuleError)
  | registry (e : RegistryError)
  deriving DecidableEq, Repr

namespace HighlightError

def message : HighlightError → String
  | rule e => "rule error: " ++ e.message
  | registry e => "registry error: " ++ e.message

end HighlightError

end Highlighting
