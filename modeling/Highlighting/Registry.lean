import Highlighting.Lexer

namespace Highlighting

structure Handler where
  name : String
  tokenize : String → Logged (List Token)

namespace Handler

def decorate (handler : Handler) (source : String) : Logged (List Decoration) := do
  return Decoration.ofTokens true (← handler.tokenize source)

end Handler

def Lexer.handler (lexer : Lexer) : Handler :=
  ⟨lexer.name, lexer.tokenize⟩

inductive RegistryError where
  | noAliases (handler : String)
  | invalidAlias (name : String)
  | unknownLanguage (name : String)
  deriving DecidableEq, Repr

namespace RegistryError

def message : RegistryError → String
  | noAliases handler => "handler '" ++ handler ++ "' registered without any alias"
  | invalidAlias name => "invalid language alias: " ++ quote name
  | unknownLanguage name => "no language handler registered for '" ++ name ++ "'"

end RegistryError

structure Registry where
  bindings : List (String × Handler)

namespace Registry

def empty : Registry :=
  ⟨[]⟩

def get? (registry : Registry) (name : String) : Option Handler :=
  registry.bindings.lookup name

def contains (registry : Registry) (name : String) : Bool :=
  (registry.get? name).isSome

def size (registry : Registry) : Nat :=
  registry.bindings.length

def isEmpty (registry : Registry) : Bool :=
  registry.bindings.isEmpty

def names (registry : Registry) : List String :=
  (registry.bindings.map Prod.fst).mergeSort fun a b => decide (a ≤ b)

def isValidName (name : String) : Bool :=
  !name.toList.isEmpty && !name.toList.any Property.isWhiteSpace

def bind (registry : Registry) (name : String) (handler : Handler) : Registry :=
  ⟨registry.bindings ++ [(name, handler)]⟩

theorem get?_bind {registry : Registry} {name : String} {handler : Handler} (other : String)
    (h : registry.get? name = none) :
    (registry.bind name handler).get? other =
      if other = name then some handler else registry.get? other := by
  unfold get? bind at *
  by_cases ho : other = name
  · subst ho
    simp [List.lookup_append, h]
  · have hb : (other == name) = false := by simpa using ho
    simp [List.lookup_append, List.lookup_cons, ho, hb]

def bindFree (registry : Registry) (handler : Handler) : List String → Logged (Registry × Nat)
  | [] => pure (registry, 0)
  | name :: names =>
    match registry.get? name with
    | some existing => do
      .emit (.overriding name existing.name handler.name)
      bindFree registry handler names
    | none => do
      let (registry, bound) ← bindFree (registry.bind name handler) handler names
      return (registry, bound + 1)

/-- Binds `handler` to the free ones among `names`, and says how many there were. The registry comes
back as the call leaves it, also where the call fails: that it is then as before is due to the names
being looked through before the first is bound. -/
def register (registry : Registry) (handler : Handler) (names : List String) :
    Logged (Registry × Except RegistryError Nat) :=
  if names.isEmpty then pure (registry, .error (.noAliases handler.name))
  else
    match names.find? fun name => !isValidName name with
    | some name => pure (registry, .error (.invalidAlias name))
    | none => do
      let (registry, bound) ← registry.bindFree handler names
      .emit (.registered handler.name bound names.length)
      return (registry, .ok bound)

def resolve (registry : Registry) (name : String) (fallback : Option String) :
    Logged (Except RegistryError Handler) :=
  match registry.get? name with
  | some handler => pure (.ok handler)
  | none =>
    match fallback.bind registry.get? with
    | some handler => do
      .emit (.fellBack name handler.name)
      return .ok handler
    | none => pure (.error (.unknownLanguage name))

def describe (registry : Registry) : String :=
  "LanguageRegistry \x7b aliases: [" ++ ", ".intercalate (registry.names.map quote) ++ "] \x7d"

end Registry

end Highlighting
