import Highlighting.Proofs.Assembly.Rules
import Highlighting.Proofs.Lexer.Construction
import Highlighting.Proofs.Lexer.Run

namespace Highlighting

def RuleSpec.withoutShortcuts (spec : RuleSpec) : RuleSpec :=
  { spec with shortcuts := none }

lemma Rule.matchLength_eq_none_iff (rule : Rule) (text : String) :
    rule.matchLength text = none ↔ rule.extent text.toList = none :=
  Option.map_eq_none_iff

namespace Lexer

def shortcutIndex? (specs : List RuleSpec) (c : Char) : Option Nat :=
  specs.findIdx? fun spec => decide (c ∈ spec.shortcutChars)

def orderedScan (rules : List Rule) (text : String) : Option (Category × Nat) :=
  text.toList.head?.map fun c =>
    (rules.findSome? fun rule => (rule.matchLength text).map (rule.category, ·)).getD
      (.plain, c.utf8Size)

def ShortcutsComeFirst (specs : List RuleSpec) (rules : List Rule) : Prop :=
  ∀ c i, shortcutIndex? specs c = some i → ∀ rule ∈ rules.take i, ∀ text : String,
    text.toList.head? = some c → rule.matchLength text = none

section Dispatch

lemma map_find?_zip {α β : Type} (p : α → Bool) {xs : List α} {ys : List β}
    (h : xs.length = ys.length) :
    ((xs.zip ys).find? fun entry => p entry.1).map Prod.snd = (xs.findIdx? p).bind (ys[·]?) := by
  induction xs generalizing ys with
  | nil => rfl
  | cons x xs ih =>
    cases ys with
    | nil => cases h
    | cons y ys =>
      rw [List.zip_cons_cons, List.findIdx?_cons]
      cases hx : p x with
      | true => simp [hx]
      | false =>
        have hbind : ((xs.findIdx? p).map (· + 1)).bind ((y :: ys)[·]?) =
            (xs.findIdx? p).bind (ys[·]?) := Option.bind_map
        rw [if_neg Bool.false_ne_true, hbind, List.find?_cons_of_neg (by simp [hx]),
          ih (Nat.succ.inj h)]

variable {name : String} {shortcut fallthrough : List RuleSpec} {lexer : Lexer}

lemma shortcutFor_eq (h : ofRules name shortcut fallthrough = .ok lexer) (c : Char) :
    lexer.shortcutFor c = (shortcutIndex? shortcut c).bind (lexer.rules[·]?) := by
  obtain ⟨-, first, second, hfirst, -, rfl⟩ := (ofRules_eq_ok_iff _ _ _ _).mp h
  have hlength : shortcut.length = first.length := by
    simpa using congrArg List.length ((mapM_eq_ok_iff _ _ _).mp hfirst)
  have hdispatch : (dispatch [] (shortcut.zip first)).lookup c =
      (shortcutIndex? shortcut c).bind (first[·]?) := by
    rw [lookup_dispatch, List.lookup_nil, Option.none_or,
      map_find?_zip (fun spec : RuleSpec => decide (c ∈ spec.shortcutChars)) hlength]
    rfl
  refine hdispatch.trans ?_
  cases hindex : shortcutIndex? shortcut c with
  | none => rfl
  | some i =>
    obtain ⟨hi, -⟩ := List.findIdx?_eq_some_iff_getElem.mp hindex
    exact (List.getElem?_append_left (hlength ▸ hi)).symm

lemma exists_withoutShortcuts (h : ofRules name shortcut fallthrough = .ok lexer) :
    ∃ plain, ofRules name (shortcut.map RuleSpec.withoutShortcuts) fallthrough = .ok plain ∧
      plain.rules = lexer.rules ∧ ∀ c, plain.shortcutFor c = none := by
  obtain ⟨hnone, first, second, hfirst, hsecond, rfl⟩ := (ofRules_eq_ok_iff _ _ _ _).mp h
  have hplain : (shortcut.map RuleSpec.withoutShortcuts).mapM Rule.compile = .ok first := by
    rw [mapM_eq_ok_iff] at hfirst ⊢
    rw [List.map_map, ← hfirst]
    rfl
  have hok := (ofRules_eq_ok_iff name _ _ _).mpr
    ⟨hnone, first, second, hplain, hsecond, rfl⟩
  refine ⟨_, hok, rfl, fun c => ?_⟩
  have hindex : shortcutIndex? (shortcut.map RuleSpec.withoutShortcuts) c = none := by
    apply List.findIdx?_eq_none_iff.mpr
    intro spec hspec
    obtain ⟨spec, -, rfl⟩ := List.mem_map.mp hspec
    simp [RuleSpec.withoutShortcuts, RuleSpec.shortcutChars]
  rw [shortcutFor_eq hok, hindex, Option.bind_none]

end Dispatch

section Classify

variable {lexer : Lexer} {c : Char} {cs : List Char} {rule : Rule} {n : Nat}

lemma scan_singleton (rule : Rule) (text : List Char) :
    scan [rule] text = (rule.extent text).map (rule.category, ·) := by
  rw [scan, List.findSome?_singleton]

lemma scan_of_first {before after : List Rule} {text : List Char}
    (hbefore : ∀ earlier ∈ before, earlier.extent text = none) (h : rule.extent text = some n) :
    scan (before ++ rule :: after) text = some (rule.category, n) := by
  have hnone : scan before text = none := scan_eq_none_iff.mpr hbefore
  unfold scan at hnone ⊢
  rw [List.findSome?_append, hnone, List.findSome?_cons, h]
  rfl

lemma classify_of_extent (hshortcut : lexer.shortcutFor c = some rule)
    (h : rule.extent (c :: cs) = some n) :
    lexer.classify (c :: cs) = some (rule.category, n) := by
  rw [classify_cons, hshortcut, Option.toList_some, scan_singleton, h]
  rfl

lemma classify_of_missed
    (h : ∀ rule, lexer.shortcutFor c = some rule → rule.extent (c :: cs) = none) :
    lexer.classify (c :: cs) = some ((scan lexer.rules (c :: cs)).getD (.plain, 1)) := by
  have hnone : scan (lexer.shortcutFor c).toList (c :: cs) = none :=
    scan_eq_none_iff.mpr fun rule hrule => h rule (Option.mem_toList.mp hrule)
  rw [classify_cons, hnone, Option.none_or]

lemma classifyBytes_of_matchLength {text : String} (hc : text.toList.head? = some c)
    (hshortcut : lexer.shortcutFor c = some rule) (h : rule.matchLength text = some n) :
    lexer.classifyBytes text = some (rule.category, n) := by
  obtain ⟨cs, htext⟩ := List.head?_eq_some_iff.mp hc
  obtain ⟨m, hm, rfl⟩ := Option.map_eq_some_iff.mp h
  rw [htext] at hm
  rw [classifyBytes, htext, classify_of_extent hshortcut hm, Option.map_some]

lemma classifyBytes_of_missed {text : String}
    (h : ∀ c rule, text.toList.head? = some c → lexer.shortcutFor c = some rule →
      rule.matchLength text = none) :
    lexer.classifyBytes text = orderedScan lexer.rules text := by
  cases htext : text.toList with
  | nil => rw [classifyBytes, orderedScan, htext]; rfl
  | cons c cs =>
    have hmissed : ∀ rule, lexer.shortcutFor c = some rule → rule.extent (c :: cs) = none := by
      intro rule hrule
      rw [← htext]
      exact (rule.matchLength_eq_none_iff text).mp (h c rule (by rw [htext]; rfl) hrule)
    have hscan :
        (lexer.rules.findSome? fun rule => (rule.matchLength text).map (rule.category, ·)) =
        (scan lexer.rules (c :: cs)).map
          fun found => (found.1, utf8Length ((c :: cs).take found.2)) := by
      rw [scan, List.map_findSome?]
      congr 1
      funext rule
      rw [Rule.matchLength, htext, Option.map_map, Function.comp_apply, Option.map_map]
      rfl
    rw [classifyBytes, htext, classify_of_missed hmissed, orderedScan, hscan, htext]
    cases scan lexer.rules (c :: cs) <;> rfl

end Classify

lemma classify_eq_of_shortcutsComeFirst {specs : List RuleSpec} {lexer plain : Lexer}
    (hindex : ∀ c, lexer.shortcutFor c = (shortcutIndex? specs c).bind (lexer.rules[·]?))
    (hrules : plain.rules = lexer.rules) (hplain : ∀ c, plain.shortcutFor c = none)
    (h : ShortcutsComeFirst specs lexer.rules) (text : List Char) :
    lexer.classify text = plain.classify text := by
  cases text with
  | nil => rfl
  | cons c cs =>
    have hordered : plain.classify (c :: cs) =
        some ((scan lexer.rules (c :: cs)).getD (.plain, 1)) := by
      rw [classify_of_missed (fun rule hrule => nomatch (hplain c).symm.trans hrule), hrules]
    rw [hordered]
    by_cases hhit : ∃ rule n, lexer.shortcutFor c = some rule ∧ rule.extent (c :: cs) = some n
    · obtain ⟨rule, n, hshortcut, hn⟩ := hhit
      have hplace := hshortcut
      rw [hindex, Option.bind_eq_some_iff] at hplace
      obtain ⟨i, hi, hrule⟩ := hplace
      obtain ⟨hlength, rfl⟩ := List.getElem?_eq_some_iff.mp hrule
      have hbefore : ∀ earlier ∈ lexer.rules.take i, earlier.extent (c :: cs) = none := by
        intro earlier hearlier
        have hnone := h c i hi earlier hearlier (String.ofList (c :: cs)) (by simp)
        simpa [Rule.matchLength_eq_none_iff] using hnone
      have hscan : scan (lexer.rules.take i ++ lexer.rules[i] :: lexer.rules.drop (i + 1))
          (c :: cs) = some (lexer.rules[i].category, n) := scan_of_first hbefore hn
      rw [← List.drop_eq_getElem_cons, List.take_append_drop] at hscan
      rw [classify_of_extent hshortcut hn, hscan, Option.getD_some]
    · apply classify_of_missed
      intro rule hrule
      apply Option.eq_none_iff_forall_ne_some.mpr
      exact fun n hn => hhit ⟨rule, n, hrule, hn⟩

theorem tokenize_withoutShortcuts (name : String) (shortcut fallthrough : List RuleSpec)
    (lexer : Lexer) (h : (compile name shortcut fallthrough).value = .ok lexer) :
    (∀ c, lexer.shortcutFor c = (shortcutIndex? shortcut c).bind (lexer.rules[·]?)) ∧
    (∃ plain, (compile name (shortcut.map RuleSpec.withoutShortcuts) fallthrough).value =
        .ok plain ∧
      (∀ text, plain.classifyBytes text = orderedScan lexer.rules text) ∧
      (ShortcutsComeFirst shortcut lexer.rules →
        ∀ source, (lexer.tokenize source).value = (plain.tokenize source).value)) ∧
    (∀ text c rule n, text.toList.head? = some c → lexer.shortcutFor c = some rule →
      rule.matchLength text = some n → lexer.classifyBytes text = some (rule.category, n)) ∧
    ∀ text, (∀ c rule, text.toList.head? = some c → lexer.shortcutFor c = some rule →
        rule.matchLength text = none) →
      lexer.classifyBytes text = orderedScan lexer.rules text := by
  rw [compile_value] at h
  refine ⟨shortcutFor_eq h, ?_, fun text c rule n => classifyBytes_of_matchLength,
    fun text => classifyBytes_of_missed⟩
  obtain ⟨plain, hok, hrules, hnone⟩ := exists_withoutShortcuts h
  refine ⟨plain, by rw [compile_value, hok], fun text => ?_, fun hfirst => ?_⟩
  · rw [← hrules]
    apply classifyBytes_of_missed
    exact fun c rule _ hrule => nomatch (hnone c).symm.trans hrule
  · apply tokenize_congr
    exact classify_eq_of_shortcutsComeFirst (shortcutFor_eq h) hrules hnone hfirst

lemma shortcutsComeFirst_assembly :
    ShortcutsComeFirst Assembly.shortcutRules Assembly.table.rules := by
  intro c i hi rule hrule text hc
  obtain ⟨cs, htext⟩ := List.head?_eq_some_iff.mp hc
  rw [Rule.matchLength_eq_none_iff, htext]
  have hblank : Assembly.isBlank c = false → Assembly.blankRule.extent (c :: cs) = none := by
    intro hblank
    rw [Assembly.takes_blankRule.extent_eq]
    simp [Assembly.headed?, hblank]
  obtain ⟨hlength, hmem, -⟩ := List.findIdx?_eq_some_iff_getElem.mp hi
  have hthree : i = 0 ∨ i = 1 ∨ i = 2 := by
    have : i < 3 := hlength
    omega
  rcases hthree with rfl | rfl | rfl
  · exact absurd hrule List.not_mem_nil
  · obtain rfl : c = '"' := by simpa [Assembly.shortcutRules, RuleSpec.shortcutChars] using hmem
    obtain rfl : rule = Assembly.blankRule := List.mem_singleton.mp hrule
    exact hblank rfl
  · obtain rfl : c = '#' := by simpa [Assembly.shortcutRules, RuleSpec.shortcutChars] using hmem
    rcases List.mem_pair.mp hrule with rfl | rfl
    · exact hblank rfl
    · rw [Assembly.takes_stringRule.extent_eq]
      rfl

theorem tokenize_withoutShortcuts_assembly :
    (compile Assembly.name Assembly.shortcutRules Assembly.fallthroughRules).value =
        .ok Assembly.table ∧
      ShortcutsComeFirst Assembly.shortcutRules Assembly.table.rules ∧
      (∃ plain, (compile Assembly.name
          (Assembly.shortcutRules.map RuleSpec.withoutShortcuts)
          Assembly.fallthroughRules).value = .ok plain ∧
        ∀ source, (Assembly.table.tokenize source).value = (plain.tokenize source).value) ∧
      ("#a".toList.head? = some '#' ∧
        Assembly.table.shortcutFor '#' = some Assembly.commentRule ∧
        Assembly.commentRule.matchLength "#a" = some 2 ∧
        Assembly.table.classifyBytes "#a" = some (.comment, 2)) ∧
      (∀ c rule, "\"\\".toList.head? = some c → Assembly.table.shortcutFor c = some rule →
        rule.matchLength "\"\\" = none) ∧
      Assembly.table.classifyBytes "\"\\" = orderedScan Assembly.table.rules "\"\\" := by
  have hok : (compile Assembly.name Assembly.shortcutRules Assembly.fallthroughRules).value =
      .ok Assembly.table := by
    rw [← Assembly.lexer_eq_table, Assembly.lexer, Assembly.compile]
  obtain ⟨-, ⟨plain, hplain, -, htokens⟩, hmatch, hmissed⟩ := tokenize_withoutShortcuts _ _ _ _ hok
  have hcomment : Assembly.commentRule.matchLength "#a" = some 2 := by
    rw [Rule.matchLength, Assembly.takes_commentRule.extent_eq]
    rfl
  have hstring : ∀ c rule, "\"\\".toList.head? = some c →
      Assembly.table.shortcutFor c = some rule → rule.matchLength "\"\\" = none := by
    intro c rule hc hrule
    obtain rfl : '"' = c := Option.some.inj hc
    obtain rfl : Assembly.stringRule = rule := Option.some.inj hrule
    rw [Rule.matchLength, Assembly.takes_stringRule.extent_eq]
    rfl
  exact ⟨hok, shortcutsComeFirst_assembly, ⟨plain, hplain, htokens shortcutsComeFirst_assembly⟩,
    ⟨rfl, rfl, hcomment, hmatch "#a" '#' _ 2 rfl rfl hcomment⟩, hstring, hmissed _ hstring⟩

end Lexer

end Highlighting
