import Highlighting.Log.Event

namespace Highlighting

structure PhaseLevels where
  lexer : Option Level := none
  registry : Option Level := none
  highlight : Option Level := none
  deriving DecidableEq, Repr

structure LogConfig where
  level : Level
  phases : PhaseLevels
  deriving DecidableEq, Repr

namespace LogConfig

def defaultLevel : Level :=
  .warn

def levelFor (config : LogConfig) : Phase → Level
  | .lexer => config.phases.lexer.getD config.level
  | .registry => config.phases.registry.getD config.level
  | .highlight => config.phases.highlight.getD config.level
  | .cli => config.level

end LogConfig

/-- A level for each of some beginnings of targets, and one for all other targets. -/
structure LogFilter where
  default : Level
  targets : List (String × Level)
  deriving DecidableEq, Repr

namespace LogFilter

def ofConfig (config : LogConfig) : LogFilter :=
  ⟨config.level, Phase.all.map fun p => (p.target, config.levelFor p)⟩

def longer (best : Option (String × Level)) (entry : String × Level) :
    Option (String × Level) :=
  match best with
  | some b => if b.1.length < entry.1.length then some entry else best
  | none => some entry

def levelOf (f : LogFilter) (target : String) : Level :=
  let entries := f.targets.filter fun entry => entry.1.toList.isPrefixOf target.toList
  ((entries.foldl longer none).map Prod.snd).getD f.default

def enables (f : LogFilter) (target : String) (level : Level) : Bool :=
  level ≤ f.levelOf target

end LogFilter

end Highlighting
