import Highlighting.Proofs.Lexer.Shortcuts
import Highlighting.Proofs.Lookup.Keys
import Mathlib.Data.Finset.Card
import Mathlib.Order.Bounds.Basic

namespace Highlighting

section Fault

variable {α β ε : Type}

def FaultOf (fault : Option ε) (outcome : Except ε α) : Prop :=
  ∀ e, fault = some e ↔ outcome = .error e

lemma FaultOf.ok (a : α) : FaultOf (none : Option ε) (.ok a) :=
  fun _ => ⟨nofun, nofun⟩

lemma FaultOf.error (e : ε) : FaultOf (some e) (.error e : Except ε α) :=
  fun _ => ⟨fun h => congrArg _ (Option.some.inj h), fun h => congrArg _ (Except.error.inj h)⟩

lemma FaultOf.eq_none_iff {fault : Option ε} {outcome : Except ε α} (h : FaultOf fault outcome) :
    fault = none ↔ ∃ a, outcome = .ok a := by
  cases outcome with
  | error e =>
    rw [(h e).mpr rfl]
    exact ⟨nofun, nofun⟩
  | ok a =>
    refine iff_of_true (Option.eq_none_iff_forall_ne_some.mpr fun e he => ?_) ⟨a, rfl⟩
    exact nomatch (h e).mp he

lemma FaultOf.bind {fault fault' : Option ε} {outcome : Except ε α} {next : α → Except ε β}
    (h : FaultOf fault outcome) (hnext : ∀ a, FaultOf fault' (next a)) :
    FaultOf (fault.or fault') (outcome >>= next) := by
  cases outcome with
  | error e =>
    rw [(h e).mpr rfl]
    exact FaultOf.error e
  | ok a =>
    rw [h.eq_none_iff.mpr ⟨a, rfl⟩, Option.none_or]
    exact hnext a

lemma FaultOf.mapM {f : α → Except ε β} {fault? : α → Option ε}
    (h : ∀ x, FaultOf (fault? x) (f x)) (xs : List α) :
    FaultOf (xs.findSome? fault?) (xs.mapM f) := by
  induction xs with
  | nil => exact FaultOf.ok []
  | cons x xs ih =>
    have hfirst : (x :: xs).findSome? fault? = (fault? x).or ((xs.findSome? fault?).or none) := by
      rw [List.findSome?_cons, Option.or_none]
      cases fault? x <;> rfl
    rw [List.mapM_cons, hfirst]
    exact (h x).bind fun y => ih.bind fun ys => FaultOf.ok (y :: ys)

end Fault

namespace RuleSpec

def regex? (spec : RuleSpec) : Option Regex :=
  Regex.ofPattern? (spec.ignoreCase.getD false) (Rule.wrap spec.pattern.toList)

def patternFault? (spec : RuleSpec) : Option RuleError :=
  if spec.regex?.isSome then none else some (.invalidPattern spec.category spec.pattern)

def fallthroughFault? (spec : RuleSpec) : Option RuleError :=
  if spec.shortcuts.isSome then some (.shortcutOnFallthrough spec.category spec.pattern)
  else spec.patternFault?

lemma faultOf_compile (spec : RuleSpec) : FaultOf spec.patternFault? (Rule.compile spec) := by
  rw [patternFault?, regex?, Rule.compile]
  cases Regex.ofPattern? (spec.ignoreCase.getD false) (Rule.wrap spec.pattern.toList) with
  | some regex => exact FaultOf.ok _
  | none => exact FaultOf.error _

lemma faultOf_compileFallthrough (spec : RuleSpec) :
    FaultOf spec.fallthroughFault? (Rule.compileFallthrough spec) := by
  rw [fallthroughFault?, Rule.compileFallthrough]
  cases spec.shortcuts with
  | some chars => exact FaultOf.error _
  | none => exact spec.faultOf_compile

lemma patternFault?_eq_none_iff (spec : RuleSpec) :
    spec.patternFault? = none ↔ spec.regex?.isSome := by
  cases h : spec.regex? <;> simp [patternFault?, h]

lemma fallthroughFault?_eq_none_iff (spec : RuleSpec) :
    spec.fallthroughFault? = none ↔ spec.shortcuts = none ∧ spec.regex?.isSome := by
  cases h : spec.shortcuts <;> simp [fallthroughFault?, h, patternFault?_eq_none_iff]

end RuleSpec

namespace Lexer

def fault? (shortcut fallthrough : List RuleSpec) : Option RuleError :=
  (shortcut.findSome? RuleSpec.patternFault?).or
    (fallthrough.findSome? RuleSpec.fallthroughFault?)

lemma faultOf_ofRules (name : String) (shortcut fallthrough : List RuleSpec) :
    FaultOf (fault? shortcut fallthrough) (ofRules name shortcut fallthrough) := by
  rw [ofRules_eq, fault?, ← Option.or_none (o := fallthrough.findSome? _)]
  apply (FaultOf.mapM RuleSpec.faultOf_compile shortcut).bind
  intro rules
  apply (FaultOf.mapM RuleSpec.faultOf_compileFallthrough fallthrough).bind
  exact fun rules' => FaultOf.ok _

lemma fault?_eq_none_iff (shortcut fallthrough : List RuleSpec) :
    fault? shortcut fallthrough = none ↔
      (∀ spec ∈ shortcut ++ fallthrough, spec.regex?.isSome) ∧
        ∀ spec ∈ fallthrough, spec.shortcuts = none := by
  simp only [fault?, Option.or_eq_none_iff, List.findSome?_eq_none_iff,
    RuleSpec.patternFault?_eq_none_iff, RuleSpec.fallthroughFault?_eq_none_iff,
    List.forall_mem_append]
  constructor
  · rintro ⟨hshortcut, hfallthrough⟩
    exact ⟨⟨hshortcut, fun spec hspec => (hfallthrough spec hspec).2⟩,
      fun spec hspec => (hfallthrough spec hspec).1⟩
  · rintro ⟨⟨hshortcut, hpatterns⟩, hnone⟩
    exact ⟨hshortcut, fun spec hspec => ⟨hnone spec hspec, hpatterns spec hspec⟩⟩

section Dispatch

lemma nodup_addShortcuts (rule : Rule) {shortcuts : List (Char × Rule)} (chars : List Char)
    (h : (shortcuts.map Prod.fst).Nodup) :
    ((addShortcuts rule shortcuts chars).map Prod.fst).Nodup := by
  induction chars generalizing shortcuts with
  | nil => exact h
  | cons c chars ih =>
    apply ih
    dsimp only
    split
    · exact h
    next hfree => exact nodup_map_fst_concat h (Option.not_isSome_iff_eq_none.mp hfree) rule

lemma nodup_dispatch {shortcuts : List (Char × Rule)} (entries : List (RuleSpec × Rule))
    (h : (shortcuts.map Prod.fst).Nodup) :
    ((dispatch shortcuts entries).map Prod.fst).Nodup := by
  induction entries generalizing shortcuts with
  | nil => exact h
  | cons entry entries ih => exact ih (nodup_addShortcuts entry.2 entry.1.shortcutChars h)

def shortcutPlaces (specs : List RuleSpec) (c : Char) : Set ℕ :=
  {i | ∃ spec, specs[i]? = some spec ∧ c ∈ spec.shortcutChars}

lemma shortcutIndex?_eq_some_iff (specs : List RuleSpec) (c : Char) (i : ℕ) :
    shortcutIndex? specs c = some i ↔ IsLeast (shortcutPlaces specs c) i := by
  rw [shortcutIndex?, List.findIdx?_eq_some_iff_getElem]
  simp only [decide_eq_true_eq]
  constructor
  · rintro ⟨hi, hc, hbefore⟩
    refine ⟨⟨specs[i], List.getElem?_eq_getElem hi, hc⟩, ?_⟩
    rintro j ⟨spec, hspec, hc'⟩
    by_contra hlt
    obtain ⟨hj, rfl⟩ := List.getElem?_eq_some_iff.mp hspec
    exact hbefore j (Nat.lt_of_not_le hlt) hc'
  · rintro ⟨⟨spec, hspec, hc⟩, hleast⟩
    obtain ⟨hi, rfl⟩ := List.getElem?_eq_some_iff.mp hspec
    refine ⟨hi, hc, fun j hj hc' => ?_⟩
    have hle : i ≤ j := hleast ⟨specs[j], List.getElem?_eq_getElem (hj.trans hi), hc'⟩
    omega

lemma shortcutIndex?_eq_none_iff (specs : List RuleSpec) (c : Char) :
    shortcutIndex? specs c = none ↔ ∀ spec ∈ specs, c ∉ spec.shortcutChars := by
  simp only [shortcutIndex?, List.findIdx?_eq_none_iff, decide_eq_false_iff_not]

end Dispatch

section Compiled

variable {name : String} {shortcut fallthrough : List RuleSpec} {lexer : Lexer}

lemma map_compile_of_ofRules (h : ofRules name shortcut fallthrough = .ok lexer) :
    shortcut.map Rule.compile = lexer.shortcutRules.map .ok ∧
      fallthrough.map Rule.compile = lexer.fallthroughRules.map .ok := by
  obtain ⟨-, rules, rules', hrules, hrules', rfl⟩ := (ofRules_eq_ok_iff _ _ _ _).mp h
  exact ⟨(mapM_eq_ok_iff _ _ _).mp hrules, (mapM_eq_ok_iff _ _ _).mp hrules'⟩

lemma length_of_map_compile {specs : List RuleSpec} {rules : List Rule}
    (h : specs.map Rule.compile = rules.map .ok) : specs.length = rules.length := by
  simpa using congrArg List.length h

lemma shortcutFor_eq_bind_shortcutRules (h : ofRules name shortcut fallthrough = .ok lexer)
    (c : Char) :
    lexer.shortcutFor c = (shortcutIndex? shortcut c).bind (lexer.shortcutRules[·]?) := by
  have hlength := length_of_map_compile (map_compile_of_ofRules h).1
  rw [shortcutFor_eq h]
  cases hindex : shortcutIndex? shortcut c with
  | none => rfl
  | some i =>
    obtain ⟨hi, -⟩ := List.findIdx?_eq_some_iff_getElem.mp hindex
    exact List.getElem?_append_left (hlength ▸ hi)

lemma shortcutFor_eq_some_iff (h : ofRules name shortcut fallthrough = .ok lexer) (c : Char)
    (rule : Rule) : lexer.shortcutFor c = some rule ↔
      ∃ i, IsLeast (shortcutPlaces shortcut c) i ∧ lexer.shortcutRules[i]? = some rule := by
  simp only [shortcutFor_eq_bind_shortcutRules h, Option.bind_eq_some_iff,
    shortcutIndex?_eq_some_iff]

lemma shortcutFor_eq_none_iff (h : ofRules name shortcut fallthrough = .ok lexer) (c : Char) :
    lexer.shortcutFor c = none ↔ ∀ spec ∈ shortcut, c ∉ spec.shortcutChars := by
  have hlength := length_of_map_compile (map_compile_of_ofRules h).1
  rw [shortcutFor_eq_bind_shortcutRules h, ← shortcutIndex?_eq_none_iff]
  cases hindex : shortcutIndex? shortcut c with
  | none => exact iff_of_true rfl rfl
  | some i =>
    obtain ⟨hi, -⟩ := List.findIdx?_eq_some_iff_getElem.mp hindex
    rw [hlength] at hi
    exact iff_of_false (by simpa using hi) nofun

lemma length_shortcuts (h : ofRules name shortcut fallthrough = .ok lexer) :
    lexer.shortcuts.length = (shortcut.flatMap RuleSpec.shortcutChars).toFinset.card := by
  have hnodup : (lexer.shortcuts.map Prod.fst).Nodup := by
    obtain ⟨-, rules, rules', -, -, rfl⟩ := (ofRules_eq_ok_iff _ _ _ _).mp h
    exact nodup_dispatch (shortcut.zip rules) List.nodup_nil
  have hchars : (lexer.shortcuts.map Prod.fst).toFinset =
      (shortcut.flatMap RuleSpec.shortcutChars).toFinset := by
    ext c
    have hlookup : (lexer.shortcuts.lookup c).isSome ↔ ¬lexer.shortcutFor c = none :=
      Option.isSome_iff_ne_none
    rw [List.mem_toFinset, List.mem_toFinset, mem_map_fst_iff_lookup, List.mem_flatMap, hlookup,
      shortcutFor_eq_none_iff h]
    simp only [not_forall, not_not, exists_prop]
  rw [← hchars, List.toFinset_card_of_nodup hnodup, List.length_map]

end Compiled

structure CompiledFrom (name : String) (shortcut fallthrough : List RuleSpec) (lexer : Lexer) :
    Prop where
  name_eq : lexer.name = name
  shortcutRules_eq : shortcut.map Rule.compile = lexer.shortcutRules.map .ok
  fallthroughRules_eq : fallthrough.map Rule.compile = lexer.fallthroughRules.map .ok
  shortcutFor_eq_some_iff : ∀ c rule, lexer.shortcutFor c = some rule ↔
    ∃ i, IsLeast (shortcutPlaces shortcut c) i ∧ lexer.shortcutRules[i]? = some rule
  shortcutFor_eq_none_iff : ∀ c,
    lexer.shortcutFor c = none ↔ ∀ spec ∈ shortcut, c ∉ spec.shortcutChars
  length_shortcuts :
    lexer.shortcuts.length = (shortcut.flatMap RuleSpec.shortcutChars).toFinset.card

lemma compiledFrom_of_ofRules {name : String} {shortcut fallthrough : List RuleSpec} {lexer : Lexer}
    (h : ofRules name shortcut fallthrough = .ok lexer) :
    CompiledFrom name shortcut fallthrough lexer := by
  obtain ⟨hrules, hrules'⟩ := map_compile_of_ofRules h
  refine ⟨?_, hrules, hrules', shortcutFor_eq_some_iff h, shortcutFor_eq_none_iff h,
    length_shortcuts h⟩
  obtain ⟨-, rules, rules', -, -, rfl⟩ := (ofRules_eq_ok_iff _ _ _ _).mp h
  rfl

theorem compile_fault_or_lexer (name : String) (shortcut fallthrough : List RuleSpec) :
    ((∃ lexer, (compile name shortcut fallthrough).value = .ok lexer) ↔
      (∀ spec ∈ shortcut ++ fallthrough, spec.regex?.isSome) ∧
        ∀ spec ∈ fallthrough, spec.shortcuts = none) ∧
    ((∃ e, fault? shortcut fallthrough = some e ∧
        compile name shortcut fallthrough = ⟨.error e, []⟩) ∨
      ∃ lexer, CompiledFrom name shortcut fallthrough lexer ∧
        compile name shortcut fallthrough = ⟨.ok lexer,
          [.compiled name shortcut.length fallthrough.length lexer.shortcuts.length]⟩) := by
  have hfault := faultOf_ofRules name shortcut fallthrough
  constructor
  · rw [compile_value, ← hfault.eq_none_iff, fault?_eq_none_iff]
  · cases h : ofRules name shortcut fallthrough with
    | error e =>
      refine Or.inl ⟨e, (hfault e).mpr h, ?_⟩
      rw [compile, h]
      rfl
    | ok lexer =>
      have hlexer := compiledFrom_of_ofRules h
      refine Or.inr ⟨lexer, hlexer, ?_⟩
      rw [compile, h, length_of_map_compile hlexer.shortcutRules_eq,
        length_of_map_compile hlexer.fallthroughRules_eq, ← hlexer.name_eq]
      rfl

end Lexer

end Highlighting
