import Highlighting.Category
import Highlighting.Pattern.Parser
import Highlighting.Pattern.Search
import Highlighting.Position

namespace Highlighting

structure RuleSpec where
  category : Category
  pattern : String
  ignoreCase : Option Bool := none
  shortcuts : Option String := none
  deriving DecidableEq, Repr

inductive RuleError where
  | invalidPattern (category : Category) (pattern : String)
  | shortcutOnFallthrough (category : Category) (pattern : String)
  deriving DecidableEq, Repr

namespace RuleError

def message : RuleError → String
  | invalidPattern category pattern =>
    "invalid pattern for " ++ category.className ++ " rule `" ++ pattern ++ "`"
  | shortcutOnFallthrough category pattern =>
    "shortcut characters are only allowed on shortcut rules (" ++ category.className ++
      " rule `" ++ pattern ++ "`)"

end RuleError

structure Rule where
  category : Category
  pattern : String
  regex : Regex
  deriving DecidableEq, Repr

namespace Rule

/-- The pattern tied to the front of the text. It is wrapped as plain text, so a pattern may close
the group and open another. -/
def wrap (pattern : List Char) : List Char :=
  "^(?:".toList ++ pattern ++ [')']

def compile (spec : RuleSpec) : Except RuleError Rule :=
  match Regex.ofPattern? (spec.ignoreCase.getD false) (wrap spec.pattern.toList) with
  | some regex => .ok ⟨spec.category, spec.pattern, regex⟩
  | none => .error (.invalidPattern spec.category spec.pattern)

def extent (rule : Rule) (text : List Char) : Option Nat :=
  match rule.regex.find? text with
  | some (first, last) =>
    if first.offset = 0 ∧ 0 < last.offset then some last.offset else none
  | none => none

def matchLength (rule : Rule) (text : String) : Option Nat :=
  (rule.extent text.toList).map fun n => utf8Length (text.toList.take n)

theorem extent_pos {rule : Rule} {text : List Char} {n : Nat} (h : rule.extent text = some n) :
    0 < n := by
  unfold extent at h
  split at h
  · split at h
    next hm =>
      cases h
      exact hm.2
    next => simp at h
  · simp at h

end Rule

end Highlighting
