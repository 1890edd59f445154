import Highlighting.CommandLine.Arguments
import Highlighting.CommandLine.FileTree
import Highlighting.Output
import Highlighting.Settings.FileConfig

/-!
One run of the program: arguments, files and standard input go in; text for standard output, log
events and an exit code come out.
-/

namespace Highlighting

inductive RunError where
  | read (path : String) (e : ReadError)
  | config (path : String) (e : DecodeError)
  | missingLanguage
  | highlight (e : HighlightError)
  deriving DecidableEq, Repr

namespace RunError

def message : RunError → String
  | read path e => "cannot read '" ++ path ++ "': " ++ e.message
  | config path e => "cannot parse config '" ++ path ++ "': " ++ e.message
  | missingLanguage =>
    "no language given: pass --lang, set \"language\" in the config, or use a file extension"
  | highlight e => e.message

end RunError

structure Surroundings where
  read : String → Except ReadError String
  isFile : String → Bool
  input : Except ReadError String

namespace Surroundings

def ofTree (tree : FileTree) (input : ByteArray) : Surroundings :=
  ⟨tree.read, tree.isFile, decodeText input⟩

def defaultConfigFile : String :=
  "hilite.json"

def readConfig (world : Surroundings) (path : String) : Except RunError FileConfig :=
  match world.read path with
  | .error e => .error (.read path e)
  | .ok text => (Tree.decode FileConfig.ofTree text).mapError (.config path)

def loadConfig (world : Surroundings) (path : Option String) : Except RunError FileConfig :=
  match path with
  | some path => world.readConfig path
  | none =>
    if world.isFile defaultConfigFile then world.readConfig defaultConfigFile else .ok {}

def source (world : Surroundings) (file : Option String) : Except RunError String :=
  match file with
  | some path => (world.read path).mapError (.read path)
  | none => world.input.mapError (.read "<stdin>")

end Surroundings

def languageOfExtension (extension : String) : String :=
  let lower := String.ofList (extension.toList.map Char.toLower)
  if lower = "s" then "asm" else lower

def chooseLanguage (args : Arguments) (config : FileConfig) : Option String :=
  (args.language.or config.language).or
    ((args.file.bind Path.extension?).map languageOfExtension)

namespace Surroundings

def highlight (world : Surroundings) (args : Arguments) (config : FileConfig)
    (h : Highlighter) : Logged (Except RunError String) :=
  match chooseLanguage args config with
  | none => return .error .missingLanguage
  | some language =>
    match world.source args.file with
    | .error e => return .error e
    | .ok source => do
      .emit (.reading language (utf8Length source.toList))
      match ← h.highlight language source with
      | .error e => return .error (.highlight e)
      | .ok highlighted =>
        let format := (args.format.or config.format).getD default
        .emit (.writing highlighted.tokens.length format)
        return .ok (Output.render format h.config.mergeDecorations highlighted)

def work (world : Surroundings) (args : Arguments) (config : FileConfig) :
    Logged (Except RunError String) := do
  let _ ← Assembly.compile
  match ← Highlighter.withBuiltins config.highlight with
  | .error e => return .error (.highlight e)
  | .ok h =>
    if args.list then return .ok (String.join (h.registry.names.map (· ++ "\n")))
    else world.highlight args config h

end Surroundings

structure Outcome where
  output : String
  log : List Event
  json : Bool
  error : Option RunError
  deriving Repr

namespace Outcome

def exitCode (o : Outcome) : Nat :=
  if o.error.isSome then 1 else 0

end Outcome

def Surroundings.run (world : Surroundings) (args : Arguments) : Outcome :=
  match world.loadConfig args.config with
  | .error e => ⟨"", [], args.logJson, some e⟩
  | .ok config =>
    let filter := LogFilter.ofConfig (config.logConfig args.logLevel)
    let result := world.work args config
    let log := result.events.filter fun e => filter.enables e.phase.target e.level
    match result.value with
    | .error e => ⟨"", log, args.logJson, some e⟩
    | .ok output => ⟨output, log, args.logJson, none⟩

end Highlighting
