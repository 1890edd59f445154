import Highlighting.Text.Quoted

namespace Highlighting

structure HighlightConfig where
  fallbackLanguage : Option String := none
  mergeDecorations : Bool := true
  deriving DecidableEq, Repr

namespace HighlightConfig

instance : Inhabited HighlightConfig := ⟨{}⟩

def describe (config : HighlightConfig) : String :=
  let fallback :=
    match config.fallbackLanguage with
    | some name => "Some(" ++ quote name ++ ")"
    | none => "None"
  "HighlightConfig \x7b fallback_language: " ++ fallback ++
    ", merge_decorations: " ++ toString config.mergeDecorations ++ " \x7d"

end HighlightConfig

end Highlighting
