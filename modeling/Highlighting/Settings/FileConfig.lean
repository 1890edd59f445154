import Highlighting.Highlighter.Config
import Highlighting.Json.Decode
import Highlighting.Log.Filter
import Highlighting.OutputFormat

namespace Highlighting

def Level.names : List String :=
  ["error", "silent", "warn", "info", "debug", "trace"]

def Level.ofTree : Tree → Except DecodeError Level :=
  Tree.variant Level.names Level.ofName?

def Phase.ofTree : Tree → Except DecodeError Phase :=
  Tree.variant (Phase.all.map Phase.name) Phase.ofName?

def OutputFormat.ofTree : Tree → Except DecodeError OutputFormat :=
  Tree.variant (OutputFormat.all.map OutputFormat.name) OutputFormat.ofName?

namespace HighlightConfig

def fields : List (Tree.Field HighlightConfig) :=
  [⟨"fallback_language",
      fun t c => return { c with fallbackLanguage := ← t.option Tree.asString }⟩,
    ⟨"merge_decorations", fun t c => return { c with mergeDecorations := ← t.asBool }⟩]

def ofTree : Tree → Except DecodeError HighlightConfig :=
  Tree.record "struct HighlightConfig" fields {}

end HighlightConfig

namespace PhaseLevels

def fields : List (Tree.Field PhaseLevels) :=
  [⟨"lexer", fun t p => return { p with lexer := ← t.option Level.ofTree }⟩,
    ⟨"registry", fun t p => return { p with registry := ← t.option Level.ofTree }⟩,
    ⟨"highlight", fun t p => return { p with highlight := ← t.option Level.ofTree }⟩]

def ofTree : Tree → Except DecodeError PhaseLevels :=
  Tree.record "struct PhaseLevels" fields {}

end PhaseLevels

structure FileConfig where
  language : Option String := none
  format : Option OutputFormat := none
  logLevel : Option Level := none
  log : PhaseLevels := {}
  highlight : HighlightConfig := {}
  deriving DecidableEq, Repr

namespace FileConfig

def fields : List (Tree.Field FileConfig) :=
  [⟨"language", fun t c => return { c with language := ← t.option Tree.asString }⟩,
    ⟨"format", fun t c => return { c with format := ← t.option OutputFormat.ofTree }⟩,
    ⟨"log_level", fun t c => return { c with logLevel := ← t.option Level.ofTree }⟩,
    ⟨"log", fun t c => return { c with log := ← PhaseLevels.ofTree t }⟩,
    ⟨"highlight", fun t c => return { c with highlight := ← HighlightConfig.ofTree t }⟩]

def ofTree : Tree → Except DecodeError FileConfig :=
  Tree.record "struct FileConfig" fields {}

def logConfig (config : FileConfig) (commandLine : Option Level) : LogConfig :=
  ⟨(commandLine.or config.logLevel).getD LogConfig.defaultLevel, config.log⟩

end FileConfig

end Highlighting
