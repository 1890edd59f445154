import Highlighting.Log.Event
import Highlighting.Rule

/-!
Lexers made of two ordered lists of rules. Shortcut rules come before fallthrough rules, and in
each list the first rule that matches wins. A character can be a shortcut to a rule, which is then
tried before all others. Where no rule matches, one character is taken as plain text.
-/

namespace Highlighting

structure Lexer where
  name : String
  shortcutRules : List Rule
  fallthroughRules : List Rule
  shortcuts : List (Char × Rule)
  deriving DecidableEq, Repr

namespace Lexer

def withoutRules (name : String) : Lexer :=
  ⟨name, [], [], []⟩

def shortcutFor (lexer : Lexer) (c : Char) : Option Rule :=
  lexer.shortcuts.lookup c

def addShortcuts (rule : Rule) (shortcuts : List (Char × Rule)) (chars : List Char) :
    List (Char × Rule) :=
  chars.foldl
    (fun shortcuts c =>
      if (shortcuts.lookup c).isSome then shortcuts else shortcuts ++ [(c, rule)])
    shortcuts

def addShortcutRule (lexer : Lexer) (spec : RuleSpec) : Except RuleError Lexer := do
  let rule ← Rule.compile spec
  return { lexer with
    shortcutRules := lexer.shortcutRules ++ [rule]
    shortcuts := addShortcuts rule lexer.shortcuts (spec.shortcuts.getD "").toList }

def addFallthroughRule (lexer : Lexer) (spec : RuleSpec) : Except RuleError Lexer :=
  if spec.shortcuts.isSome then .error (.shortcutOnFallthrough spec.category spec.pattern)
  else do
    let rule ← Rule.compile spec
    return { lexer with fallthroughRules := lexer.fallthroughRules ++ [rule] }

def ofRules (name : String) (shortcutRules fallthroughRules : List RuleSpec) :
    Except RuleError Lexer := do
  let lexer ← shortcutRules.foldlM addShortcutRule (withoutRules name)
  fallthroughRules.foldlM addFallthroughRule lexer

def compile (name : String) (shortcutRules fallthroughRules : List RuleSpec) :
    Logged (Except RuleError Lexer) :=
  match ofRules name shortcutRules fallthroughRules with
  | .error e => pure (.error e)
  | .ok lexer => do
    .emit (.compiled lexer.name lexer.shortcutRules.length lexer.fallthroughRules.length
      lexer.shortcuts.length)
    return .ok lexer

def rules (lexer : Lexer) : List Rule :=
  lexer.shortcutRules ++ lexer.fallthroughRules

def scan (rules : List Rule) (rest : List Char) : Option (Category × Nat) :=
  rules.findSome? fun rule => (rule.extent rest).map (rule.category, ·)

def classify (lexer : Lexer) (rest : List Char) : Option (Category × Nat) :=
  match rest with
  | [] => none
  | c :: _ =>
    match scan (lexer.shortcutFor c).toList rest with
    | some found => some found
    | none => some ((scan lexer.rules rest).getD (.plain, 1))

def classifyBytes (lexer : Lexer) (text : String) : Option (Category × Nat) :=
  (lexer.classify text.toList).map fun (category, n) =>
    (category, utf8Length (text.toList.take n))

def describe (lexer : Lexer) : String :=
  "SimpleLexer \x7b name: " ++ quote lexer.name ++
    ", shortcut_rules: " ++ toString lexer.shortcutRules.length ++
    ", fallthrough_rules: " ++ toString lexer.fallthroughRules.length ++
    ", shortcut_chars: " ++ toString lexer.shortcuts.length ++ " \x7d"

theorem scan_pos {rules : List Rule} {rest : List Char} {category : Category} {n : Nat}
    (h : scan rules rest = some (category, n)) : 0 < n := by
  obtain ⟨rule, _, hm⟩ := List.exists_of_findSome?_eq_some h
  obtain ⟨m, hm, he⟩ := Option.map_eq_some_iff.1 hm
  cases he
  exact Rule.extent_pos hm

theorem classify_pos {lexer : Lexer} {rest : List Char} {category : Category} {n : Nat}
    (h : lexer.classify rest = some (category, n)) : 0 < n := by
  unfold classify at h
  split at h
  · simp at h
  · split at h
    next hs =>
      cases h
      exact scan_pos hs
    next =>
      simp only [Option.some.injEq] at h
      cases hs : scan lexer.rules _ with
      | none =>
        rw [hs] at h
        cases h
        exact Nat.one_pos
      | some found =>
        rw [hs] at h
        cases h
        exact scan_pos hs

theorem classify_nil (lexer : Lexer) : lexer.classify [] = none :=
  rfl

end Lexer

structure Tokens where
  lexer : Lexer
  rest : List Char
  position : Position

namespace Tokens

def start (lexer : Lexer) (source : List Char) : Tokens :=
  ⟨lexer, source, .start⟩

def next (tokens : Tokens) : Logged (Option Token × Tokens) :=
  match tokens.lexer.classify tokens.rest with
  | none => pure (none, tokens)
  | some (category, n) => do
    let token := Token.startingAt tokens.position category (tokens.rest.take n)
    .emit (.produced token)
    return (some token, ⟨tokens.lexer, tokens.rest.drop n, token.span.stop⟩)

theorem length_rest_of_next {tokens next : Tokens} {token : Token} {events : List Event}
    (h : tokens.next = ⟨(some token, next), events⟩) : next.rest.length < tokens.rest.length := by
  unfold Tokens.next at h
  split at h
  · simp [pure] at h
  next category n hc =>
    have hr : next.rest = tokens.rest.drop n := by
      simp only [bind, pure, Logged.mk.injEq, Prod.mk.injEq] at h
      rw [← h.1.2]
    have hn := Lexer.classify_pos hc
    have hl : tokens.rest ≠ [] := by
      intro hl
      rw [hl, Lexer.classify_nil] at hc
      simp at hc
    have := List.length_pos_iff.2 hl
    rw [hr, List.length_drop]
    omega

def collect (tokens : Tokens) : Logged (List Token) :=
  match _h : tokens.next with
  | ⟨(none, _), events⟩ => ⟨[], events⟩
  | ⟨(some token, tokens), events⟩ =>
    let later := tokens.collect
    ⟨token :: later.value, events ++ later.events⟩
termination_by tokens.rest.length
decreasing_by exact length_rest_of_next _h

end Tokens

namespace Lexer

def tokens (lexer : Lexer) (source : String) : Logged Tokens := do
  .emit (.tokenizing lexer.name (utf8Length source.toList))
  return .start lexer source.toList

def tokenize (lexer : Lexer) (source : String) : Logged (List Token) := do
  (← lexer.tokens source).collect

def decorate (lexer : Lexer) (source : String) : Logged (List Decoration) := do
  return Decoration.ofTokens true (← lexer.tokenize source)

end Lexer

end Highlighting
