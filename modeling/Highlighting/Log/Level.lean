namespace Highlighting

inductive Level where
  | error
  | warn
  | info
  | debug
  | trace
  deriving DecidableEq, Repr

namespace Level

instance : Inhabited Level := ⟨info⟩

def all : List Level :=
  [error, warn, info, debug, trace]

def verbosity : Level → Nat
  | error => 0
  | warn => 1
  | info => 2
  | debug => 3
  | trace => 4

instance : LE Level := ⟨fun a b => a.verbosity ≤ b.verbosity⟩

instance (a b : Level) : Decidable (a ≤ b) :=
  inferInstanceAs (Decidable (a.verbosity ≤ b.verbosity))

def name : Level → String
  | error => "error"
  | warn => "warn"
  | info => "info"
  | debug => "debug"
  | trace => "trace"

def label : Level → String
  | error => "ERROR"
  | warn => "WARN"
  | info => "INFO"
  | debug => "DEBUG"
  | trace => "TRACE"

def ofName? (name : String) : Option Level :=
  if name = "silent" then some error else all.find? (·.name == name)

/-- Reads a name in letters of any case. All names are ASCII, and no other character has a letter
of theirs as its lower case. -/
def parse? (text : String) : Option Level :=
  ofName? (String.ofList (text.toList.map Char.toLower))

end Level

inductive Phase where
  | lexer
  | registry
  | highlight
  | cli
  deriving DecidableEq, Repr

namespace Phase

def all : List Phase :=
  [lexer, registry, highlight, cli]

def name : Phase → String
  | lexer => "lexer"
  | registry => "registry"
  | highlight => "highlight"
  | cli => "cli"

def ofName? (name : String) : Option Phase :=
  all.find? (·.name == name)

def target (p : Phase) : String :=
  "hilite::" ++ p.name

end Phase

end Highlighting
