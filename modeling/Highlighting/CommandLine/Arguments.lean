import Highlighting.Log.Level
import Highlighting.OutputFormat

/-!
The arguments of the command line. They are read from left to right, and the value of an option is
judged when the next argument that is known, or the end, is reached.
-/

namespace Highlighting

structure Arguments where
  file : Option String := none
  language : Option String := none
  format : Option OutputFormat := none
  config : Option String := none
  logLevel : Option Level := none
  logJson : Bool := false
  list : Bool := false
  deriving DecidableEq, Repr

inductive Request where
  | run (args : Arguments)
  | help
  | version
  deriving DecidableEq, Repr

inductive UsageError where
  | missingValue (option : String)
  | repeated (option : String)
  | invalidFormat (value : String)
  | invalidLevel (value : String)
  | unexpectedArgument (argument : String)
  | unexpectedValue (value option : String)
  deriving DecidableEq, Repr

namespace UsageError

def message : UsageError → String
  | missingValue option =>
    "error: a value is required for '" ++ option ++ "' but none was supplied"
  | repeated option => "error: the argument '" ++ option ++ "' cannot be used multiple times"
  | invalidFormat value => "error: invalid value '" ++ value ++ "' for '--format <FORMAT>'"
  | invalidLevel value =>
    "error: invalid value '" ++ value ++ "' for '--log-level <LEVEL>': unknown log level '" ++
      value ++ "'"
  | unexpectedArgument argument => "error: unexpected argument '" ++ argument ++ "' found"
  | unexpectedValue value option =>
    "error: unexpected value '" ++ value ++ "' for '" ++ option ++
      "' found; no more were expected"

end UsageError

namespace Arguments

inductive Valued where
  | file
  | language
  | format
  | config
  | logLevel
  deriving DecidableEq, Repr

inductive Flag where
  | logJson
  | list
  | help
  | version
  deriving DecidableEq, Repr

def Valued.display : Valued → String
  | file => "[FILE]"
  | language => "--lang <ALIAS>"
  | format => "--format <FORMAT>"
  | config => "--config <CONFIG>"
  | logLevel => "--log-level <LEVEL>"

def Flag.display : Flag → String
  | logJson => "--log-json"
  | list => "--list"
  | help => "--help"
  | version => "--version"

def longOption? (name : String) : Option (Valued ⊕ Flag) :=
  match name with
  | "lang" => some (.inl .language)
  | "format" => some (.inl .format)
  | "config" => some (.inl .config)
  | "log-level" => some (.inl .logLevel)
  | "log-json" => some (.inr .logJson)
  | "list" => some (.inr .list)
  | "help" => some (.inr .help)
  | "version" => some (.inr .version)
  | _ => none

def shortOption? (c : Char) : Option (Valued ⊕ Flag) :=
  match c with
  | 'l' => some (.inl .language)
  | 'f' => some (.inl .format)
  | 'c' => some (.inl .config)
  | 'h' => some (.inr .help)
  | 'V' => some (.inr .version)
  | _ => none

def has (args : Arguments) : Valued → Bool
  | .file => args.file.isSome
  | .language => args.language.isSome
  | .format => args.format.isSome
  | .config => args.config.isSome
  | .logLevel => args.logLevel.isSome

def put (args : Arguments) (option : Valued) (value : String) : Except UsageError Arguments :=
  match option with
  | .language => .ok { args with language := some value }
  | .logLevel =>
    match Level.parse? value with
    | some level => .ok { args with logLevel := some level }
    | none => .error (.invalidLevel value)
  | .file =>
    if value.isEmpty then .error (.missingValue option.display)
    else .ok { args with file := some value }
  | .config =>
    if value.isEmpty then .error (.missingValue option.display)
    else .ok { args with config := some value }
  | .format =>
    if value.isEmpty then .error (.missingValue option.display)
    else
      match OutputFormat.ofName? value with
      | some format => .ok { args with format := some format }
      | none => .error (.invalidFormat value)

def accept (args : Arguments) (option : Valued) (value : Option String) :
    Except UsageError Arguments :=
  match value with
  | none => .error (.missingValue option.display)
  | some value =>
    if args.has option then .error (.repeated option.display) else args.put option value

structure State where
  args : Arguments := {}
  pending : Option (Valued × Option String) := none
  hasFile : Bool := false

namespace State

def settle (s : State) : Except UsageError State :=
  match s.pending with
  | none => .ok s
  | some (option, value) => do
    return { s with args := ← s.args.accept option value, pending := none }

def raise (s : State) (flag : Flag) : Except UsageError (State ⊕ Request) := do
  let s ← s.settle
  match flag with
  | .help => return .inr .help
  | .version => return .inr .version
  | .list =>
    if s.args.list then .error (.repeated flag.display)
    else return .inl { s with args := { s.args with list := true } }
  | .logJson =>
    if s.args.logJson then .error (.repeated flag.display)
    else return .inl { s with args := { s.args with logJson := true } }

def option (s : State) (option : Valued) (value : Option String) :
    Except UsageError (State ⊕ Request) := do
  let s ← s.settle
  match value with
  | some value => return .inl { s with args := ← s.args.accept option (some value) }
  | none => return .inl { s with pending := some (option, none) }

def long (s : State) (text : List Char) : Except UsageError (State ⊕ Request) :=
  let name := String.ofList (text.takeWhile (· != '='))
  let value :=
    match text.dropWhile (· != '=') with
    | _ :: value => some (String.ofList value)
    | [] => none
  match longOption? name with
  | some (.inl opt) => s.option opt value
  | some (.inr flag) =>
    match value with
    | none => s.raise flag
    | some value => .error (.unexpectedValue value flag.display)
  | none => .error (.unexpectedArgument ("--" ++ name))

def short (s : State) : List Char → Except UsageError (State ⊕ Request)
  | [] => .ok (.inl s)
  | c :: cs =>
    match shortOption? c with
    | some (.inl opt) =>
      match cs with
      | [] => s.option opt none
      | '=' :: value => s.option opt (some (String.ofList value))
      | value => s.option opt (some (String.ofList value))
    | some (.inr flag) => do
      match ← s.raise flag with
      | .inl s => s.short cs
      | .inr request => return .inr request
    | none => .error (.unexpectedArgument (String.ofList ['-', c]))

def positional (s : State) (text : String) : Except UsageError (State ⊕ Request) :=
  if s.hasFile then .error (.unexpectedArgument text)
  else do
    let s ← s.settle
    return .inl { s with pending := some (.file, some text), hasFile := true }

def plain (s : State) (text : String) : Except UsageError (State ⊕ Request) :=
  match s.pending with
  | some (opt, none) => .ok (.inl { s with pending := some (opt, some text) })
  | _ => s.positional text

def read (s : State) (onlyFiles : Bool) (text : String) : Except UsageError (State ⊕ Request) :=
  if onlyFiles then s.positional text
  else
    match text.toList with
    | '-' :: '-' :: cs => s.long cs
    | '-' :: c :: cs => s.short (c :: cs)
    | _ => s.plain text

def finish (s : State) : Except UsageError Request := do
  return .run (← s.settle).args

def readAll (s : State) (onlyFiles : Bool) : List String → Except UsageError Request
  | [] => s.finish
  | text :: texts =>
    if text = "--" ∧ ¬onlyFiles then readAll s true texts
    else do
      match ← s.read onlyFiles text with
      | .inl s => readAll s onlyFiles texts
      | .inr request => return request

end State

def parse (texts : List String) : Except UsageError Request :=
  State.readAll {} false texts

end Arguments

end Highlighting
