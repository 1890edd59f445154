import Highlighting.Proofs.Assembly.Classification
import Highlighting.Proofs.Lexer.Construction
import Highlighting.Proofs.Lexer.Run
import Mathlib.Data.List.Perm.Basic

/-! No two rules of assembly language match the same text, so it does not matter in which order and
by which shortcuts they are tried. -/

namespace Highlighting

lemma Rule.compile_congr {spec spec' : RuleSpec} (hcategory : spec.category = spec'.category)
    (hpattern : spec.pattern = spec'.pattern)
    (hcase : spec.ignoreCase.getD false = spec'.ignoreCase.getD false) :
    compile spec = compile spec' := by
  rw [compile, compile, hcategory, hpattern, hcase]

namespace Assembly

open Taking

section Exclusive

lemma scan_of_extent {rule : Rule} (hrule : rule ∈ table.rules) {text : List Char} {n : Nat}
    (hn : rule.extent text = some n) : (scan text).map Prod.fst = some rule.category := by
  rw [rules_table, List.mem_map] at hrule
  obtain ⟨⟨_, f⟩, hform, rfl⟩ := hrule
  rw [(takes_of_mem hform).extent_eq, Option.map_eq_some_iff] at hn
  obtain ⟨taken, htaken, -⟩ := hn
  rw [scan_of_mem hform htaken]
  rfl

lemma blank_or_sigil (text : List Char) :
    blankRule.extent text = none ∨ sigilRule.extent text = none := by
  rw [takes_blankRule.extent_eq, takes_sigilRule.extent_eq, Option.map_eq_none_iff,
    Option.map_eq_none_iff]
  cases text with
  | nil => exact Or.inl rfl
  | cons c cs =>
    cases hc : isBlank c with
    | false => exact Or.inl (by simp [headed?, hc])
    | true =>
      have hsigil : isSigil c = false := decide_eq_false (not_mem_of_class hc rfl)
      exact Or.inr (by simp [sigil?, first, hsigil])

lemma rules_exclusive (text : List Char) :
    table.rules.Pairwise fun rule rule' =>
      rule.extent text = none ∨ rule'.extent text = none := by
  have hcategories : table.rules.Pairwise fun rule rule' =>
      rule.category ≠ rule'.category ∨ rule = blankRule ∧ rule' = sigilRule := by decide
  refine hcategories.imp_of_mem fun {rule rule'} hrule hrule' hdiffer => ?_
  rcases hdiffer with hdiffer | ⟨rfl, rfl⟩
  · by_contra hboth
    rw [not_or] at hboth
    obtain ⟨n, hn⟩ := Option.ne_none_iff_exists'.mp hboth.1
    obtain ⟨n', hn'⟩ := Option.ne_none_iff_exists'.mp hboth.2
    exact hdiffer
      (Option.some.inj ((scan_of_extent hrule hn).symm.trans (scan_of_extent hrule' hn')))
  · exact blank_or_sigil text

lemma countP_le_one {α : Type} {p : α → Bool} {xs : List α}
    (h : xs.Pairwise fun x y => p x = false ∨ p y = false) : xs.countP p ≤ 1 := by
  induction xs with
  | nil => exact Nat.zero_le 1
  | cons x xs ih =>
    obtain ⟨hx, hxs⟩ := List.pairwise_cons.mp h
    cases hp : p x with
    | false =>
      rw [List.countP_cons_of_neg (by simp [hp])]
      exact ih hxs
    | true =>
      have hnone : xs.countP p = 0 := List.countP_eq_zero.mpr fun y hy => by
        have hy := (hx y hy).resolve_left (by simp [hp])
        simp [hy]
      rw [List.countP_cons_of_pos hp, hnone]

end Exclusive

structure SameRules (shortcut fallthrough : List RuleSpec) : Prop where
  perm : ((shortcut ++ fallthrough).map fun spec => (spec.category, spec.pattern)).Perm
    ((shortcutRules ++ fallthroughRules).map fun spec => (spec.category, spec.pattern))
  case_counts : ∀ spec ∈ shortcut ++ fallthrough, spec.ignoreCase.getD false = false

lemma map_compile_rules : (shortcutRules ++ fallthroughRules).map Rule.compile =
    table.rules.map .ok := by
  have htable : Lexer.ofRules name shortcutRules fallthroughRules = .ok table := by
    rw [← Lexer.compile_value]
    exact lexer_eq_table
  obtain ⟨-, rules, rules', hrules, hrules', heq⟩ := (Lexer.ofRules_eq_ok_iff _ _ _ _).mp htable
  rw [heq, List.map_append, (mapM_eq_ok_iff _ _ _).mp hrules, (mapM_eq_ok_iff _ _ _).mp hrules',
    ← List.map_append]
  rfl

lemma map_compile_of_case_counts {specs : List RuleSpec}
    (hcase : ∀ spec ∈ specs, spec.ignoreCase.getD false = false) :
    specs.map Rule.compile = (specs.map fun spec => (spec.category, spec.pattern)).map
      fun pair => Rule.compile ⟨pair.1, pair.2, none, none⟩ := by
  rw [List.map_map]
  exact List.map_congr_left fun spec hspec => Rule.compile_congr rfl rfl (hcase spec hspec)

lemma SameRules.compiles {shortcut fallthrough : List RuleSpec}
    (h : SameRules shortcut fallthrough) : ∃ rules rules',
      shortcut.mapM Rule.compile = .ok rules ∧ fallthrough.mapM Rule.compile = .ok rules' ∧
        (rules ++ rules').Perm table.rules := by
  have hcase : ∀ spec ∈ shortcutRules ++ fallthroughRules,
      spec.ignoreCase.getD false = false := by decide
  have hcompiled : ((shortcut ++ fallthrough).map Rule.compile).Perm (table.rules.map .ok) := by
    rw [← map_compile_rules, map_compile_of_case_counts h.case_counts,
      map_compile_of_case_counts hcase]
    exact h.perm.map _
  obtain ⟨both, hboth, hperm⟩ := (congrFun₂ (List.eq_map_comp_perm Except.ok) _ _).mpr hcompiled
  rw [List.map_append, List.append_eq_map_iff] at hboth
  obtain ⟨rules, rules', rfl, hrules, hrules'⟩ := hboth
  exact ⟨rules, rules', (mapM_eq_ok_iff _ _ _).mpr hrules.symm,
    (mapM_eq_ok_iff _ _ _).mpr hrules'.symm, hperm⟩

theorem tokenize_of_sameRules : ∃ lexer, Assembly.lexer = .ok lexer ∧
    (∀ rest : String, lexer.rules.countP (fun rule => (rule.matchLength rest).isSome) ≤ 1) ∧
    ∀ name shortcut fallthrough, SameRules shortcut fallthrough →
      ((∃ other, (Lexer.compile name shortcut fallthrough).value = .ok other) ↔
        ∀ spec ∈ fallthrough, spec.shortcuts = none) ∧
      ∀ other, (Lexer.compile name shortcut fallthrough).value = .ok other →
        ∀ source, (other.tokenize source).value = (lexer.tokenize source).value := by
  refine ⟨table, lexer_eq_table, fun rest => countP_le_one ?_,
    fun name shortcut fallthrough hsame => ?_⟩
  · refine (rules_exclusive rest.toList).imp fun hnone => ?_
    simpa only [Rule.matchLength, Option.isSome_map, Option.isSome_eq_false_iff,
      Option.isNone_iff_eq_none] using hnone
  · obtain ⟨rules, rules', hrules, hrules', hperm⟩ := hsame.compiles
    rw [Lexer.compile_value]
    constructor
    · constructor
      · rintro ⟨other, hother⟩
        exact ((Lexer.ofRules_eq_ok_iff _ _ _ _).mp hother).1
      · exact fun hnone => ⟨_, (Lexer.ofRules_eq_ok_iff _ _ _ _).mpr
          ⟨hnone, rules, rules', hrules, hrules', rfl⟩⟩
    · intro other hother
      obtain ⟨-, first, second, hfirst, hsecond, rfl⟩ :=
        (Lexer.ofRules_eq_ok_iff _ _ _ _).mp hother
      obtain rfl := Except.ok.inj (hrules.symm.trans hfirst)
      obtain rfl := Except.ok.inj (hrules'.symm.trans hsecond)
      refine fun source => Lexer.tokenize_congr (fun text => ?_) source
      rw [classify_table]
      refine classify_of_rules ⟨name, rules, rules', _⟩ (fun _ => hperm.mem_iff)
        (fun c rule hc => ?_) text
      exact List.mem_append_left _ (Lexer.mem_of_lookup_dispatch hc)

theorem tokenize_of_sameRules_exchanged : ∃ lexer, Assembly.lexer = .ok lexer ∧
    SameRules (fallthroughRules.map fun spec => { spec with shortcuts := some "!\"#" })
      (shortcutRules.map fun spec => { spec with shortcuts := none }) ∧
    ∃ other, (Lexer.compile "exchanged"
        (fallthroughRules.map fun spec => { spec with shortcuts := some "!\"#" })
        (shortcutRules.map fun spec => { spec with shortcuts := none })).value = .ok other ∧
      (other.tokenize "!\"a\" # b").value = (lexer.tokenize "!\"a\" # b").value := by
  obtain ⟨lexer, hlexer, -, hsame⟩ := tokenize_of_sameRules
  have hperm : ((fallthroughRules ++ shortcutRules).map fun spec =>
      (spec.category, spec.pattern)).Perm
        ((shortcutRules ++ fallthroughRules).map fun spec => (spec.category, spec.pattern)) :=
    List.perm_append_comm.map _
  have hexchanged : SameRules
      (fallthroughRules.map fun spec => { spec with shortcuts := some "!\"#" })
      (shortcutRules.map fun spec => { spec with shortcuts := none }) := ⟨hperm, by decide⟩
  obtain ⟨hexists, htokens⟩ := hsame "exchanged" _ _ hexchanged
  obtain ⟨other, hother⟩ := hexists.mpr (by decide)
  exact ⟨lexer, hlexer, hexchanged, other, hother, htokens other hother _⟩

end Assembly

end Highlighting
