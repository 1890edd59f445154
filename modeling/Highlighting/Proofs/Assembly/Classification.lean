import Highlighting.Proofs.Assembly.Rules
import Highlighting.Proofs.Lexer.Run

namespace Highlighting.Assembly

open Taking

lemma not_mem_of_class {p : Char → Bool} {cs : List Char} {c : Char} (hc : p c = true)
    (hcs : cs.any p = false) : c ∉ cs := by
  intro hm
  have hany := List.any_eq_true.mpr ⟨c, hm, hc⟩
  rw [hcs] at hany
  cases hany

lemma isAlpha_eq_false_of_isDigit {c : Char} (hc : c.isDigit = true) : c.isAlpha = false := by
  have hnine : c ≤ '9' := of_decide_eq_true (Bool.and_eq_true_iff.mp hc).2
  rw [Bool.eq_false_iff]
  intro halpha
  rcases Bool.or_eq_true_iff.mp halpha with hupper | hlower
  · have hle : 'A' ≤ c := (of_decide_eq_true hupper).1
    exact absurd (Char.le_trans hle hnine) (by decide)
  · have hle : 'a' ≤ c := of_decide_eq_true (Bool.and_eq_true_iff.mp hlower).1
    exact absurd (Char.le_trans hle hnine) (by decide)

lemma scan_blank {text taken : List Char} (h : headed? isBlank isBlank text = some taken) :
    scan text = some (.plain, taken) := by
  cases text with
  | nil => cases h
  | cons c cs =>
    simp only [headed?, Option.ite_none_right_eq_some, Option.some.injEq] at h
    obtain ⟨hc, rfl⟩ := h
    simp [scan, hc]

lemma scan_string {text taken : List Char} (h : string? text = some taken) :
    scan text = some (.string, taken) := by
  cases text with
  | nil => cases h
  | cons c cs =>
    have hc : c = '"' ∨ c = '!' ∧ cs.head? = some '"' := by
      unfold string? at h
      split at h
      next he => exact Or.inl (List.cons.inj he).1
      next he =>
        obtain ⟨rfl, rfl⟩ := List.cons.inj he
        exact Or.inr ⟨rfl, rfl⟩
      next => cases h
    have hb : isBlank c = false := by
      rcases hc with rfl | ⟨rfl, _⟩ <;> rfl
    simp [scan, hb, hc, h]

lemma scan_comment {text taken : List Char}
    (h : headed? (· == '#') (!endsLine ·) text = some taken) :
    scan text = some (.comment, taken) := by
  cases text with
  | nil => cases h
  | cons c cs =>
    simp only [headed?, Option.ite_none_right_eq_some, Option.some.injEq, beq_iff_eq] at h
    obtain ⟨rfl, rfl⟩ := h
    simp [scan, isBlank]

lemma scan_sigil {text taken : List Char} (h : sigil? text = some taken) :
    scan text = some (.plain, taken) := by
  cases text with
  | nil => cases h
  | cons c cs =>
    simp only [sigil?, first, Option.ite_none_right_eq_some, Option.map_eq_some_iff] at h
    obtain ⟨hc, tail, ht, rfl⟩ := h
    have hb : isBlank c = false := decide_eq_false (not_mem_of_class hc rfl)
    have hq : c ∉ ['"', '#'] := not_mem_of_class hc rfl
    simp only [List.mem_cons, List.not_mem_nil, or_false, not_or] at hq
    cases cs with
    | nil => cases ht
    | cons d ds =>
      have hd : d ≠ '"' := by
        rintro rfl
        cases ht
      by_cases hs : isSymbolStart d = true
      · simp only [either, headed?, hs, if_true, Option.some_or, Option.some.injEq] at ht
        have hp : isSymbolPart d = true := by simp [isSymbolPart, hs]
        simp [scan, hb, hq, hc, hd, hs, hp, ← ht]
      · simp only [either, headed?, hs, Bool.false_eq_true, if_false, Option.none_or,
          Option.ite_none_right_eq_some, Option.some.injEq] at ht
        simp [scan, hb, hq, hc, hd, hs, ht.1, ← ht.2]

lemma scan_name {text taken : List Char} (h : headed? isNameStart isNamePart text = some taken) :
    scan text = some (.keyword, taken) := by
  cases text with
  | nil => cases h
  | cons c cs =>
    simp only [headed?, Option.ite_none_right_eq_some, Option.some.injEq] at h
    obtain ⟨hc, rfl⟩ := h
    have hn : c ∉ ['\t', '\n', '\r', ' ', '\xA0', '"', '!', '#', '%', '@'] :=
      not_mem_of_class hc rfl
    simp only [List.mem_cons, List.not_mem_nil, or_false, not_or] at hn
    simp [scan, isBlank, isSigil, hn, hc]

lemma isDigit_of_digits? {c : Char} {cs taken : List Char} (h : digits? (c :: cs) = some taken) :
    c.isDigit = true := by
  unfold digits? at h
  rcases Option.or_eq_some_iff.mp h with h | ⟨_, h⟩
  · unfold hexadecimal? at h
    split at h
    next he =>
      rw [(List.cons.inj he).1]
      rfl
    next => cases h
  · simp only [headed?, Option.ite_none_right_eq_some] at h
    exact h.1

lemma scan_number {text taken : List Char} (h : number? text = some taken) :
    scan text = some (.literal, taken) := by
  cases text with
  | nil => cases h
  | cons c cs =>
    by_cases hc : c = '$'
    · subst hc
      simp [scan, isBlank, isSigil, isNameStart, h]
    · have hdigits : number? (c :: cs) = digits? (c :: cs) := by simp [number?, hc]
      have hd : c.isDigit = true := isDigit_of_digits? (hdigits.symm.trans h)
      have hn : c ∉ ['\t', '\n', '\r', ' ', '\xA0', '"', '!', '#', '%', '@', '_'] :=
        not_mem_of_class hd rfl
      simp only [List.mem_cons, List.not_mem_nil, or_false, not_or] at hn
      simp [scan, isBlank, isSigil, isNameStart, hn, isAlpha_eq_false_of_isDigit hd, hd, h]

lemma ellipsis_eq_some {text taken : List Char}
    (h : first (· == '.') (first (· == '.') (first (· == '.') ending)) text = some taken) :
    text = ['.', '.', '.'] ∧ taken = ['.', '.', '.'] := by
  match text with
  | [] => cases h
  | [_] => simp [first] at h
  | [_, _] => simp [first] at h
  | [_, _, _] =>
    simp only [first, ending, beq_iff_eq, Option.ite_none_right_eq_some, Option.map_eq_some_iff,
      Option.some.injEq] at h
    obtain ⟨rfl, _, ⟨rfl, _, ⟨rfl, _, rfl, rfl⟩, rfl⟩, rfl⟩ := h
    exact ⟨rfl, rfl⟩
  | _ :: _ :: _ :: _ :: _ => simp [first, ending] at h

lemma scan_punctuation {text taken : List Char} (h : punctuation? text = some taken) :
    scan text = some (.punctuation, taken) := by
  rcases Option.or_eq_some_iff.mp h with h | ⟨_, h⟩
  · cases text with
    | nil => cases h
    | cons c cs =>
      simp only [first, nothing, Option.map_some, Option.ite_none_right_eq_some,
        Option.some.injEq] at h
      obtain ⟨hc, rfl⟩ := h
      have hn : c ∉ ['\t', '\n', '\r', ' ', '\xA0', '"', '!', '#', '%', '@', '$', '_'] :=
        not_mem_of_class hc rfl
      simp only [List.mem_cons, List.not_mem_nil, or_false, not_or] at hn
      have ha : c.isAlpha = false :=
        Bool.eq_false_iff.mpr fun ha => not_mem_of_class ha rfl (of_decide_eq_true hc)
      have hd : c.isDigit = false :=
        Bool.eq_false_iff.mpr fun hd => not_mem_of_class hd rfl (of_decide_eq_true hc)
      simp [scan, isBlank, isSigil, isNameStart, hn, ha, hd, hc]
  · obtain ⟨rfl, rfl⟩ := ellipsis_eq_some h
    rfl

lemma scan_of_mem {rule : Rule} {f : List Char → Option (List Char)} (h : (rule, f) ∈ forms)
    {text taken : List Char} (hf : f text = some taken) :
    scan text = some (rule.category, taken) := by
  simp only [forms, List.mem_cons, Prod.mk.injEq, List.not_mem_nil, or_false] at h
  rcases h with ⟨rfl, rfl⟩ | ⟨rfl, rfl⟩ | ⟨rfl, rfl⟩ | ⟨rfl, rfl⟩ | ⟨rfl, rfl⟩ | ⟨rfl, rfl⟩ |
    ⟨rfl, rfl⟩
  · exact scan_blank hf
  · exact scan_string hf
  · exact scan_comment hf
  · exact scan_sigil hf
  · exact scan_name hf
  · exact scan_number hf
  · exact scan_punctuation hf

lemma scan_of_none {c : Char} {cs : List Char} (h : ∀ form ∈ forms, form.2 (c :: cs) = none) :
    scan (c :: cs) = some (.plain, [c]) := by
  simp only [forms, List.forall_mem_cons] at h
  obtain ⟨hblank, hstring, hcomment, hsigil, hname, hnumber, hpunctuation, -⟩ := h
  simp only [headed?, ite_eq_right_iff, reduceCtorEq, imp_false] at hblank hcomment hname
  have hsymbol : ¬(isSigil c = true ∧ cs.head?.any isSymbolStart = true) := by
    rintro ⟨hc, hd⟩
    cases cs with
    | nil => cases hd
    | cons d ds =>
      have hd : isSymbolStart d = true := hd
      simp [sigil?, first, either, headed?, hc, hd] at hsigil
  have hdigit : ¬(isSigil c = true ∧ cs.head?.any Char.isDigit = true) := by
    rintro ⟨hc, hd⟩
    cases cs with
    | nil => cases hd
    | cons d ds =>
      have hd : d.isDigit = true := hd
      simp [sigil?, first, either, headed?, hc, hd] at hsigil
  have hmark : isPunctuation c = false := by
    rw [Bool.eq_false_iff]
    intro hc
    simp [punctuation?, either, first, nothing, hc] at hpunctuation
  have hdots : c :: cs ≠ ['.', '.', '.'] := by
    intro he
    rw [he] at hpunctuation
    cases hpunctuation
  have hhash : c ≠ '#' := by simpa using hcomment
  rw [scan, hstring, hnumber]
  simp [hblank, hhash, hsymbol, hdigit, hname, hmark, hdots]

lemma scan_cases (c : Char) (cs : List Char) :
    (∃ form ∈ forms, ∃ taken, form.2 (c :: cs) = some taken ∧
        scan (c :: cs) = some (form.1.category, taken)) ∨
      (∀ form ∈ forms, form.2 (c :: cs) = none) ∧ scan (c :: cs) = some (.plain, [c]) := by
  by_cases hsome : ∃ form ∈ forms, ∃ taken, form.2 (c :: cs) = some taken
  · obtain ⟨form, hm, taken, hf⟩ := hsome
    exact Or.inl ⟨form, hm, taken, hf, scan_of_mem hm hf⟩
  · have hnone : ∀ form ∈ forms, form.2 (c :: cs) = none := by
      intro form hm
      apply Option.eq_none_iff_forall_ne_some.mpr
      exact fun taken hf => hsome ⟨form, hm, taken, hf⟩
    exact Or.inr ⟨hnone, scan_of_none hnone⟩

lemma isPrefix_of_scan {text taken : List Char} {category : Category}
    (h : scan text = some (category, taken)) : taken <+: text := by
  cases text with
  | nil => cases h
  | cons c cs =>
    rcases scan_cases c cs with ⟨form, hm, found, hf, hscan⟩ | ⟨-, hscan⟩
    · rw [hscan, Option.some.injEq, Prod.mk.injEq] at h
      rw [← h.2]
      exact (takes_of_mem hm).front _ _ hf
    · rw [hscan, Option.some.injEq, Prod.mk.injEq] at h
      rw [← h.2]
      exact List.cons_prefix_cons.mpr ⟨rfl, List.nil_prefix⟩

lemma classify_of_rules (lexer : Lexer) (hrules : ∀ rule, rule ∈ lexer.rules ↔ rule ∈ table.rules)
    (hs : ∀ c rule, lexer.shortcutFor c = some rule → rule ∈ lexer.rules) (text : List Char) :
    lexer.classify text = (scan text).map fun found => (found.1, found.2.length) := by
  cases text with
  | nil => rfl
  | cons c cs =>
    rcases lexer.classify_cons_cases c cs (hs c) with ⟨rule, hr, n, hn, hc⟩ | ⟨hnone, hc⟩
    · rw [hrules, rules_table, List.mem_map] at hr
      obtain ⟨⟨_, f⟩, hm, rfl⟩ := hr
      rw [(takes_of_mem hm).extent_eq, Option.map_eq_some_iff] at hn
      obtain ⟨taken, ht, rfl⟩ := hn
      rw [hc, scan_of_mem hm ht]
      rfl
    · rw [hc, scan_of_none]
      · rfl
      · rintro ⟨rule, f⟩ hm
        have hr : rule ∈ lexer.rules := by
          rw [hrules, rules_table]
          exact List.mem_map_of_mem hm
        have hn := hnone rule hr
        rwa [(takes_of_mem hm).extent_eq, Option.map_eq_none_iff] at hn

lemma shortcutFor_table {c : Char} {rule : Rule} (h : table.shortcutFor c = some rule) :
    rule ∈ table.rules := by
  obtain ⟨before, behind, he, _⟩ := List.lookup_eq_some_iff.mp h
  have hm : (c, rule) ∈ table.shortcuts := by
    rw [he]
    exact List.mem_append_right _ List.mem_cons_self
  simp only [table, List.mem_cons, Prod.mk.injEq, List.not_mem_nil, or_false] at hm
  rw [rules_table]
  rcases hm with ⟨_, rfl⟩ | ⟨_, rfl⟩ | ⟨_, rfl⟩ | ⟨_, rfl⟩ | ⟨_, rfl⟩ | ⟨_, rfl⟩ | ⟨_, rfl⟩ <;>
    simp [forms]

lemma classify_table (text : List Char) :
    table.classify text = (scan text).map fun found => (found.1, found.2.length) :=
  classify_of_rules table (fun _ => Iff.rfl) (fun _ _ => shortcutFor_table) text

lemma classify_table_eq_some_iff (category : Category) (taken rest : List Char) :
    table.classify (taken ++ rest) = some (category, taken.length) ↔
      scan (taken ++ rest) = some (category, taken) := by
  rw [classify_table, Option.map_eq_some_iff]
  constructor
  · rintro ⟨⟨found, text⟩, hscan, hfound⟩
    obtain ⟨hcategory, hlength⟩ := Prod.mk.inj hfound
    have htext : text = taken := by
      rw [List.prefix_iff_eq_take.mp (isPrefix_of_scan hscan), hlength, List.take_left]
    rw [hscan, htext, ← hcategory]
  · exact fun hscan => ⟨(category, taken), hscan, rfl⟩

lemma ne_nil_of_scan {category : Category} {taken rest : List Char}
    (h : scan (taken ++ rest) = some (category, taken)) : taken ≠ [] :=
  Lexer.ne_nil_of_classify ((classify_table_eq_some_iff category taken rest).mpr h)

lemma run_step {p : Position} {taken rest : List Char} {category : Category} {tokens : List Token}
    (hscan : scan (taken ++ rest) = some (category, taken))
    (hrun : table.Run (p.advanceBy taken) rest tokens) :
    table.Run p (taken ++ rest) (Token.startingAt p category taken :: tokens) :=
  Lexer.Run.step ((classify_table_eq_some_iff category taken rest).mpr hscan) hrun

lemma scan_of_run {p : Position} {text : List Char} {t : Token} {tokens : List Token}
    (h : table.Run p text (t :: tokens)) : ∃ category taken rest,
      text = taken ++ rest ∧ scan (taken ++ rest) = some (category, taken) ∧
        t = Token.startingAt p category taken ∧ table.Run (p.advanceBy taken) rest tokens := by
  cases h with
  | step hclass hrun =>
    exact ⟨_, _, _, rfl, (classify_table_eq_some_iff _ _ _).mp hclass, rfl, hrun⟩

theorem classifyBytes_eq_scan : ∃ lexer, Assembly.lexer = .ok lexer ∧ ∀ text : String,
    lexer.classifyBytes text =
      (scan text.toList).map fun found => (found.1, utf8Length found.2) := by
  refine ⟨table, lexer_eq_table, fun text => ?_⟩
  rw [Lexer.classifyBytes, classify_table, Option.map_map]
  cases hs : scan text.toList with
  | none => rfl
  | some found =>
    have hp := List.prefix_iff_eq_take.mp (isPrefix_of_scan hs)
    simp only [Option.map_some, Function.comp_apply, ← hp]

end Highlighting.Assembly
