import Highlighting.Lexer
import Mathlib.Tactic.Lemma

namespace Highlighting

def RuleSpec.shortcutChars (spec : RuleSpec) : List Char :=
  (spec.shortcuts.getD "").toList

def Rule.compileFallthrough (spec : RuleSpec) : Except RuleError Rule :=
  if spec.shortcuts.isSome then .error (.shortcutOnFallthrough spec.category spec.pattern)
  else Rule.compile spec

lemma Rule.compileFallthrough_eq_ok_iff (spec : RuleSpec) (rule : Rule) :
    compileFallthrough spec = .ok rule ↔ spec.shortcuts = none ∧ compile spec = .ok rule := by
  unfold compileFallthrough
  cases spec.shortcuts with
  | none => exact (and_iff_right rfl).symm
  | some chars => exact ⟨nofun, fun h => nomatch h.1⟩

lemma mapM_eq_ok_iff {α β ε : Type} (f : α → Except ε β) (xs : List α) (ys : List β) :
    xs.mapM f = .ok ys ↔ xs.map f = ys.map .ok := by
  induction xs generalizing ys with
  | nil =>
    rw [List.map_nil, eq_comm (a := []), List.map_eq_nil_iff]
    exact ⟨fun h => (Except.ok.inj h).symm, fun h => congrArg Except.ok h.symm⟩
  | cons x xs ih =>
    rw [List.mapM_cons, List.map_cons]
    constructor
    · intro h
      cases hx : f x with
      | error e =>
        rw [hx] at h
        exact nomatch h
      | ok y =>
        cases hxs : xs.mapM f with
        | error e =>
          rw [hx, hxs] at h
          exact nomatch h
        | ok zs =>
          rw [hx, hxs] at h
          cases h
          rw [List.map_cons, (ih zs).mp hxs]
    · intro h
      cases ys with
      | nil => exact nomatch h
      | cons y ys =>
        obtain ⟨hx, hxs⟩ := List.cons.inj h
        rw [hx, (ih ys).mpr hxs]
        rfl

lemma mapM_compileFallthrough_eq_ok_iff (specs : List RuleSpec) (rules : List Rule) :
    specs.mapM Rule.compileFallthrough = .ok rules ↔
      (∀ spec ∈ specs, spec.shortcuts = none) ∧ specs.mapM Rule.compile = .ok rules := by
  have hsame : (∀ spec ∈ specs, spec.shortcuts = none) →
      specs.map Rule.compileFallthrough = specs.map Rule.compile := fun h =>
    List.map_congr_left fun spec hspec => by rw [Rule.compileFallthrough, h spec hspec]; rfl
  rw [mapM_eq_ok_iff, mapM_eq_ok_iff]
  constructor
  · intro h
    have hnone : ∀ spec ∈ specs, spec.shortcuts = none := by
      intro spec hspec
      have hm := List.mem_map_of_mem (f := Rule.compileFallthrough) hspec
      rw [h] at hm
      obtain ⟨rule, -, hrule⟩ := List.mem_map.mp hm
      exact ((Rule.compileFallthrough_eq_ok_iff spec rule).mp hrule.symm).1
    exact ⟨hnone, (hsame hnone).symm.trans h⟩
  · rintro ⟨hnone, h⟩
    exact (hsame hnone).trans h

namespace Lexer

section Dispatch

lemma lookup_addShortcuts (rule : Rule) (shortcuts : List (Char × Rule)) (chars : List Char)
    (c : Char) :
    (addShortcuts rule shortcuts chars).lookup c =
      (shortcuts.lookup c).or (if c ∈ chars then some rule else none) := by
  induction chars generalizing shortcuts with
  | nil => exact Option.or_none.symm
  | cons x chars ih =>
    have hstep : addShortcuts rule shortcuts (x :: chars) = addShortcuts rule
        (if (shortcuts.lookup x).isSome then shortcuts else shortcuts ++ [(x, rule)]) chars := rfl
    rw [hstep, ih]
    by_cases hc : c = x
    · subst hc
      rw [if_pos List.mem_cons_self]
      cases hfound : shortcuts.lookup c with
      | some found => simp [hfound]
      | none => simp [hfound, List.lookup_append]
    · have hne : (c == x) = false := by simpa using hc
      simp only [List.mem_cons, hc, false_or]
      split
      · rfl
      · simp [List.lookup_append, List.lookup_cons, hne]

def dispatch (shortcuts : List (Char × Rule)) (entries : List (RuleSpec × Rule)) :
    List (Char × Rule) :=
  entries.foldl (fun shortcuts entry => addShortcuts entry.2 shortcuts entry.1.shortcutChars)
    shortcuts

lemma lookup_dispatch (shortcuts : List (Char × Rule)) (entries : List (RuleSpec × Rule))
    (c : Char) :
    (dispatch shortcuts entries).lookup c = (shortcuts.lookup c).or
      ((entries.find? fun entry => decide (c ∈ entry.1.shortcutChars)).map Prod.snd) := by
  induction entries generalizing shortcuts with
  | nil => exact Option.or_none.symm
  | cons entry entries ih =>
    have hstep : dispatch shortcuts (entry :: entries) =
        dispatch (addShortcuts entry.2 shortcuts entry.1.shortcutChars) entries := rfl
    rw [hstep, ih, lookup_addShortcuts, Option.or_assoc]
    congr 1
    by_cases hc : c ∈ entry.1.shortcutChars
    · rw [if_pos hc, List.find?_cons_of_pos (by simpa using hc)]
      rfl
    · rw [if_neg hc, List.find?_cons_of_neg (by simpa using hc), Option.none_or]

end Dispatch

section Fold

def placeShortcutRule (lexer : Lexer) (entry : RuleSpec × Rule) : Lexer :=
  { lexer with
    shortcutRules := lexer.shortcutRules ++ [entry.2]
    shortcuts := addShortcuts entry.2 lexer.shortcuts entry.1.shortcutChars }

def placeFallthroughRule (lexer : Lexer) (entry : RuleSpec × Rule) : Lexer :=
  { lexer with fallthroughRules := lexer.fallthroughRules ++ [entry.2] }

lemma addShortcutRule_eq (lexer : Lexer) (spec : RuleSpec) :
    lexer.addShortcutRule spec =
      (Rule.compile spec).map fun rule => lexer.placeShortcutRule (spec, rule) := by
  unfold addShortcutRule
  cases Rule.compile spec <;> rfl

lemma addFallthroughRule_eq (lexer : Lexer) (spec : RuleSpec) :
    lexer.addFallthroughRule spec =
      (Rule.compileFallthrough spec).map fun rule => lexer.placeFallthroughRule (spec, rule) := by
  unfold addFallthroughRule Rule.compileFallthrough
  split
  · rfl
  · cases Rule.compile spec <;> rfl

lemma foldl_placeShortcutRule (lexer : Lexer) (entries : List (RuleSpec × Rule)) :
    entries.foldl placeShortcutRule lexer =
      { lexer with
        shortcutRules := lexer.shortcutRules ++ entries.map Prod.snd
        shortcuts := dispatch lexer.shortcuts entries } := by
  induction entries generalizing lexer with
  | nil =>
    rw [List.map_nil, List.append_nil]
    rfl
  | cons entry entries ih =>
    rw [List.foldl_cons, ih, List.map_cons, placeShortcutRule, List.append_assoc]
    rfl

lemma foldl_placeFallthroughRule (lexer : Lexer) (entries : List (RuleSpec × Rule)) :
    entries.foldl placeFallthroughRule lexer =
      { lexer with fallthroughRules := lexer.fallthroughRules ++ entries.map Prod.snd } := by
  induction entries generalizing lexer with
  | nil =>
    rw [List.map_nil, List.append_nil]
    rfl
  | cons entry entries ih =>
    rw [List.foldl_cons, ih, List.map_cons, placeFallthroughRule, List.append_assoc]
    rfl

lemma foldlM_eq_map {add : Lexer → RuleSpec → Except RuleError Lexer}
    {compile : RuleSpec → Except RuleError Rule} {place : Lexer → RuleSpec × Rule → Lexer}
    (hadd : ∀ lexer spec, add lexer spec = (compile spec).map fun rule => place lexer (spec, rule))
    (specs : List RuleSpec) (lexer : Lexer) :
    specs.foldlM add lexer =
      (specs.mapM compile).map fun rules => (specs.zip rules).foldl place lexer := by
  induction specs generalizing lexer with
  | nil => rfl
  | cons spec specs ih =>
    rw [List.foldlM_cons, List.mapM_cons, hadd]
    cases compile spec with
    | error e => rfl
    | ok rule =>
      refine (ih (place lexer (spec, rule))).trans ?_
      cases specs.mapM compile <;> rfl

end Fold

lemma ofRules_eq (name : String) (shortcut fallthrough : List RuleSpec) :
    ofRules name shortcut fallthrough = do
      let rules ← shortcut.mapM Rule.compile
      let rules' ← fallthrough.mapM Rule.compileFallthrough
      return ⟨name, rules, rules', dispatch [] (shortcut.zip rules)⟩ := by
  have hzip : ∀ {specs : List RuleSpec} {compile : RuleSpec → Except RuleError Rule}
      {rules : List Rule}, specs.mapM compile = .ok rules →
        (specs.zip rules).map Prod.snd = rules := by
    intro specs compile rules h
    have hlength := congrArg List.length ((mapM_eq_ok_iff compile specs rules).mp h)
    rw [List.length_map, List.length_map] at hlength
    exact List.map_snd_zip (Nat.le_of_eq hlength.symm)
  rw [ofRules, foldlM_eq_map addShortcutRule_eq]
  cases hrules : shortcut.mapM Rule.compile with
  | error e => rfl
  | ok rules =>
    refine (foldlM_eq_map addFallthroughRule_eq fallthrough _).trans ?_
    cases hrules' : fallthrough.mapM Rule.compileFallthrough with
    | error e => rfl
    | ok rules' =>
      refine congrArg Except.ok ?_
      simp only [foldl_placeShortcutRule, foldl_placeFallthroughRule, hzip hrules, hzip hrules']
      rfl

lemma ofRules_eq_ok_iff (name : String) (shortcut fallthrough : List RuleSpec) (lexer : Lexer) :
    ofRules name shortcut fallthrough = .ok lexer ↔
      (∀ spec ∈ fallthrough, spec.shortcuts = none) ∧ ∃ rules rules',
        shortcut.mapM Rule.compile = .ok rules ∧ fallthrough.mapM Rule.compile = .ok rules' ∧
          lexer = ⟨name, rules, rules', dispatch [] (shortcut.zip rules)⟩ := by
  rw [ofRules_eq]
  constructor
  · intro h
    cases hrules : shortcut.mapM Rule.compile with
    | error e =>
      rw [hrules] at h
      exact nomatch h
    | ok rules =>
      cases hrules' : fallthrough.mapM Rule.compileFallthrough with
      | error e =>
        rw [hrules, hrules'] at h
        exact nomatch h
      | ok rules' =>
        rw [hrules, hrules'] at h
        obtain ⟨hnone, hcompile⟩ := (mapM_compileFallthrough_eq_ok_iff _ _).mp hrules'
        exact ⟨hnone, rules, rules', rfl, hcompile, (Except.ok.inj h).symm⟩
  · rintro ⟨hnone, rules, rules', hrules, hrules', rfl⟩
    rw [hrules, (mapM_compileFallthrough_eq_ok_iff _ _).mpr ⟨hnone, hrules'⟩]
    rfl

lemma compile_value (name : String) (shortcut fallthrough : List RuleSpec) :
    (compile name shortcut fallthrough).value = ofRules name shortcut fallthrough := by
  unfold compile
  cases ofRules name shortcut fallthrough <;> rfl

lemma mem_of_lookup_dispatch {specs : List RuleSpec} {rules : List Rule} {c : Char} {rule : Rule}
    (h : (dispatch [] (specs.zip rules)).lookup c = some rule) : rule ∈ rules := by
  rw [lookup_dispatch, List.lookup_nil, Option.none_or, Option.map_eq_some_iff] at h
  obtain ⟨entry, hentry, rfl⟩ := h
  exact (List.of_mem_zip (List.mem_of_find?_eq_some hentry)).2

end Lexer

end Highlighting
