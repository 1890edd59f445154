import Highlighting.Proofs.Assembly.Quotes
import Highlighting.Proofs.Lexer.Resumption

/-! Changing the text behind a token boundary leaves the tokens before it alone, provided that the
boundary stands before one of the characters that no word goes on with. -/

namespace Highlighting

namespace Taking

/-- What `f` takes from `w ++ c :: t` goes beyond `w`, or else it stays the same with `t'` in the
place of `t`. -/
def SettledBefore (c : Char) (t t' w : List Char) (f : List Char → Option (List Char)) : Prop :=
  (∃ taken, f (w ++ c :: t) = some taken ∧ w.length < taken.length) ∨
    f (w ++ c :: t') = f (w ++ c :: t)

namespace SettledBefore

variable {c : Char} {t t' w : List Char} {f g : List Char → Option (List Char)}

lemma nothing : SettledBefore c t t' w nothing :=
  Or.inr rfl

lemma ending : SettledBefore c t t' w ending := by
  cases w <;> exact Or.inr rfl

lemma run (q : Char → Bool) : SettledBefore c t t' w (run q) := by
  by_cases hall : (w.takeWhile q).length = w.length ∧ q c = true
  · refine Or.inl ⟨_, rfl, ?_⟩
    rw [List.takeWhile_append, if_pos hall.1, List.takeWhile_cons_of_pos hall.2,
      List.length_append, List.length_cons]
    omega
  · refine Or.inr (congrArg some ?_)
    rw [List.takeWhile_append, List.takeWhile_append]
    split
    next hw =>
      have hc : ¬q c = true := fun hc => hall ⟨hw, hc⟩
      rw [List.takeWhile_cons_of_neg hc, List.takeWhile_cons_of_neg hc]
    next => rfl

lemma cons {p : Char → Bool} {x : Char} (hf : p x = true → SettledBefore c t t' w f) :
    SettledBefore c t t' (x :: w) (first p f) := by
  by_cases hx : p x = true
  · rcases hf hx with ⟨taken, htaken, hlength⟩ | heq
    · refine Or.inl ⟨x :: taken, ?_, Nat.succ_lt_succ hlength⟩
      simp only [List.cons_append, Taking.first, hx, if_true, htaken, Option.map_some]
    · right
      simp only [List.cons_append, Taking.first, heq]
  · right
    simp only [List.cons_append, Taking.first, hx, Bool.false_eq_true, if_false]

lemma first {p : Char → Bool} (hc : p c = false) (hf : ∀ w, SettledBefore c t t' w f) :
    SettledBefore c t t' w (first p f) := by
  cases w with
  | nil =>
    right
    simp only [List.nil_append, Taking.first, hc, Bool.false_eq_true, if_false]
  | cons x w => exact cons fun _ => hf w

lemma either (hf : SettledBefore c t t' w f) (hg : SettledBefore c t t' w g) :
    SettledBefore c t t' w (either f g) := by
  rcases hf with ⟨taken, htaken, hlength⟩ | heq
  · exact Or.inl ⟨taken, Option.or_eq_some_iff.mpr (Or.inl htaken), hlength⟩
  · cases hfirst : f (w ++ c :: t) with
    | some taken =>
      right
      rw [Taking.either, Taking.either, heq, hfirst, Option.some_or, Option.some_or]
    | none =>
      rw [hfirst] at heq
      rcases hg with ⟨taken, htaken, hlength⟩ | hsecond
      · exact Or.inl ⟨taken, Option.or_eq_some_iff.mpr (Or.inr ⟨hfirst, htaken⟩), hlength⟩
      · right
        rw [Taking.either, Taking.either, heq, hfirst, hsecond]

lemma eq_some (h : SettledBefore c t t' w f) {taken : List Char}
    (htaken : f (w ++ c :: t) = some taken) (hlength : taken.length ≤ w.length) :
    f (w ++ c :: t') = some taken := by
  rcases h with ⟨longer, hlonger, hbeyond⟩ | heq
  · obtain rfl := Option.some.inj (hlonger.symm.trans htaken)
    omega
  · rw [heq, htaken]

lemma eq_none (h : SettledBefore c t t' w f) (hnone : f (w ++ c :: t) = none) :
    f (w ++ c :: t') = none := by
  rcases h with ⟨taken, htaken, -⟩ | heq
  · exact nomatch hnone.symm.trans htaken
  · rw [heq, hnone]

end SettledBefore

end Taking

namespace Assembly

open Taking

def separators : List Char :=
  ['\t', '\n', '\r', ' ', '\xA0', '#', '(', ')', '[', ']', '\x7b', '\x7d', ',', '=', '*', '<', '>',
    ':']

section Settled

variable {c : Char} {t t' w : List Char}

lemma eq_false_of_mem_separators {p : Char → Bool} (hp : separators.any p = false)
    (hc : c ∈ separators) : p c = false :=
  Bool.eq_false_iff.mpr (List.any_eq_false.mp hp c hc)

lemma settledBefore_headed (p q : Char → Bool) (hp : separators.any p = false)
    (hc : c ∈ separators) : SettledBefore c t t' w (headed? p q) := by
  rw [headed?_eq]
  exact SettledBefore.first (eq_false_of_mem_separators hp hc) fun _ => SettledBefore.run q

lemma settledBefore_headed_cons (p q : Char → Bool) (x : Char) :
    SettledBefore c t t' (x :: w) (headed? p q) := by
  rw [headed?_eq]
  exact SettledBefore.cons fun _ => SettledBefore.run q

lemma settledBefore_sigil (hc : c ∈ separators) : SettledBefore c t t' w sigil? :=
  SettledBefore.first (eq_false_of_mem_separators rfl hc) fun _ =>
    (settledBefore_headed _ _ rfl hc).either (settledBefore_headed _ _ rfl hc)

lemma settledBefore_digits (hc : c ∈ separators) : SettledBefore c t t' w digits? := by
  refine SettledBefore.either ?_ (settledBefore_headed _ _ rfl hc)
  rw [hexadecimal?_eq]
  have hzero := eq_false_of_mem_separators (p := (· == '0')) rfl hc
  have hmark := eq_false_of_mem_separators (p := fun x => x ∈ ['x', 'X']) rfl hc
  refine SettledBefore.first hzero fun _ => SettledBefore.first hmark fun _ => ?_
  exact SettledBefore.first (eq_false_of_mem_separators rfl hc) fun _ => SettledBefore.run _

lemma settledBefore_number (hc : c ∈ separators) : SettledBefore c t t' w number? := by
  have hdollar := eq_false_of_mem_separators (p := (· == '$')) rfl hc
  rw [number?_eq]
  refine SettledBefore.either ?_ (settledBefore_digits hc)
  exact SettledBefore.first hdollar fun _ => settledBefore_digits hc

lemma settledBefore_punctuation (hc : c ∈ separators) (x : Char) :
    SettledBefore c t t' (x :: w) punctuation? := by
  have hdot := eq_false_of_mem_separators (p := (· == '.')) rfl hc
  refine SettledBefore.either (SettledBefore.cons fun _ => SettledBefore.nothing) ?_
  refine SettledBefore.first hdot fun _ => SettledBefore.first hdot fun _ => ?_
  exact SettledBefore.first hdot fun _ => SettledBefore.ending

lemma settledBefore_throughQuote (h : throughQuote? (w ++ c :: t) ≠ none) :
    SettledBefore c t t' w throughQuote? := by
  obtain ⟨taken, htaken⟩ := Option.ne_none_iff_exists'.mp h
  rcases Nat.lt_or_ge w.length taken.length with hbeyond | hwithin
  · exact Or.inl ⟨taken, htaken, hbeyond⟩
  · obtain ⟨rest, rfl⟩ := List.prefix_of_prefix_length_le (takesFront_throughQuote _ _ htaken)
      (List.prefix_append w (c :: t)) hwithin
    have hclosed : taken ≠ taken ++ rest ++ c :: t := by
      intro hwhole
      have hlength := congrArg List.length hwhole
      simp only [List.length_append, List.length_cons] at hlength
      omega
    right
    rw [htaken, List.append_assoc, throughQuote?_of_closed htaken hclosed]

def Opens (w rest : List Char) : Prop :=
  ∀ body, w = '"' :: body ∨ w = '!' :: '"' :: body → throughQuote? (body ++ rest) ≠ none

lemma settledBefore_string (hc : c ∈ separators) (x : Char) (h : Opens (x :: w) (c :: t)) :
    SettledBefore c t t' (x :: w) string? := by
  rw [string?_eq]
  refine SettledBefore.either (SettledBefore.cons fun hx => ?_) (SettledBefore.cons fun hx => ?_)
  · cases w with
    | nil => exact Or.inr (by simp [first, eq_false_of_mem_separators (p := (· == '"')) rfl hc])
    | cons y w =>
      refine SettledBefore.cons fun hy => settledBefore_throughQuote (h w (Or.inr ?_))
      rw [eq_of_beq hx, eq_of_beq hy]
  · refine settledBefore_throughQuote (h w (Or.inl ?_))
    rw [eq_of_beq hx]

lemma settledBefore_of_mem (hc : c ∈ separators) (x : Char) (h : Opens (x :: w) (c :: t)) :
    ∀ form ∈ forms, SettledBefore c t t' (x :: w) form.2 := by
  simp only [forms, List.forall_mem_cons]
  exact ⟨settledBefore_headed_cons _ _ x, settledBefore_string hc x h,
    settledBefore_headed_cons _ _ x, settledBefore_sigil hc, settledBefore_headed_cons _ _ x,
    settledBefore_number hc, settledBefore_punctuation hc x,
    fun form hform => absurd hform List.not_mem_nil⟩

lemma scan_before_separator (hc : c ∈ separators) {taken rest : List Char}
    (h : Opens (taken ++ rest) (c :: t)) {category : Category}
    (hscan : scan (taken ++ (rest ++ c :: t)) = some (category, taken)) :
    scan (taken ++ (rest ++ c :: t')) = some (category, taken) := by
  obtain ⟨x, xs, rfl⟩ := List.exists_cons_of_ne_nil (ne_nil_of_scan hscan)
  have hlength : (x :: xs).length ≤ (x :: (xs ++ rest)).length := by simp
  have hsettled : ∀ form ∈ forms, SettledBefore c t t' (x :: (xs ++ rest)) form.2 :=
    settledBefore_of_mem hc x h
  rw [← List.append_assoc] at hscan ⊢
  rcases scan_cases x (xs ++ rest ++ c :: t) with
    ⟨form, hform, found, hfound, hcase⟩ | ⟨hnone, hcase⟩
  · obtain ⟨rfl, rfl⟩ := Prod.mk.inj (Option.some.inj (hcase.symm.trans hscan))
    exact scan_of_mem hform ((hsettled form hform).eq_some hfound hlength)
  · rw [← hscan]
    refine Eq.trans (scan_of_none ?_) hcase.symm
    exact fun form hform => (hsettled form hform).eq_none (hnone form hform)

end Settled

lemma opens_of_run {p : Position} {rest : List Char} {before after : List Token}
    (h : table.Run p ((Token.concatText before).toList ++ rest) (before ++ after))
    (hquote : ∀ t ∈ before, ¬t.IsLoneQuote) : Opens (Token.concatText before).toList rest := by
  have hopen : ∀ {p before body}, (Token.concatText before).toList = '"' :: body →
      table.Run p ('"' :: body ++ rest) (before ++ after) →
      (∀ t ∈ before, ¬t.IsLoneQuote) → throughQuote? (body ++ rest) ≠ none := by
    intro p before body hbody hrun hquote hnone
    cases before with
    | nil => exact nomatch hbody
    | cons t before =>
      obtain ⟨category, taken, text, htext, hscan, rfl, -⟩ := scan_of_run hrun
      rw [← htext, List.cons_append, scan_quote_eq_plain_iff.mpr ⟨hnone, rfl⟩] at hscan
      obtain ⟨rfl, rfl⟩ := Prod.mk.inj (Option.some.inj hscan)
      exact hquote _ List.mem_cons_self ⟨rfl, rfl⟩
  rintro body (hbody | hbody) hnone
  · rw [hbody] at h
    exact hopen hbody h hquote hnone
  · -- The exclamation mark is then a token of its own, and the lone quote is the next one.
    cases before with
    | nil => exact nomatch hbody
    | cons t before =>
      rw [hbody] at h
      obtain ⟨category, taken, text, htext, hscan, rfl, hrun⟩ := scan_of_run h
      rw [← htext, List.cons_append, List.cons_append, scan_bang_of_open hnone] at hscan
      obtain ⟨rfl, rfl⟩ := Prod.mk.inj (Option.some.inj hscan)
      obtain ⟨-, rfl⟩ := List.cons.inj htext
      rw [Token.toList_concatText_cons, Token.toList_text_startingAt] at hbody
      exact hopen (List.cons.inj hbody).2 hrun (fun t ht => hquote t (List.mem_cons_of_mem _ ht))
        hnone

lemma run_before_separator {c : Char} (hc : c ∈ separators) (t t' : List Char) {p : Position}
    {before after : List Token}
    (h : table.Run p ((Token.concatText before).toList ++ c :: t) (before ++ after))
    (hquote : ∀ token ∈ before, ¬token.IsLoneQuote) :
    ∃ after', table.Run p ((Token.concatText before).toList ++ c :: t') (before ++ after') := by
  induction before generalizing p with
  | nil => exact Lexer.Run.exists table p (c :: t')
  | cons token before ih =>
    have hopens := opens_of_run h hquote
    obtain ⟨category, taken, rest, htext, hscan, rfl, hrun⟩ := scan_of_run h
    rw [Token.toList_concatText_cons, Token.toList_text_startingAt] at htext hopens ⊢
    rw [List.append_assoc, List.append_cancel_left_eq] at htext
    subst htext
    obtain ⟨after', hafter⟩ := ih hrun (fun token ht => hquote token (List.mem_cons_of_mem _ ht))
    refine ⟨after', ?_⟩
    rw [List.append_assoc]
    exact run_step (scan_before_separator hc hopens hscan) hafter

theorem tokenize_before_separator : ∃ lexer, Assembly.lexer = .ok lexer ∧
    ∀ (a b b' : String) (c : Char) (k : Nat), c ∈ separators →
      b.toList.head? = some c → b'.toList.head? = some c →
      Token.boundary (lexer.tokenize (a ++ b)).value k = Position.start.advancedBy a →
      (∀ t ∈ (lexer.tokenize (a ++ b)).value.take k, ¬t.IsLoneQuote) →
      Token.boundary (lexer.tokenize (a ++ b')).value k = Position.start.advancedBy a ∧
        (lexer.tokenize (a ++ b')).value.take k = (lexer.tokenize (a ++ b)).value.take k := by
  refine ⟨table, lexer_eq_table, fun a b b' c k hc hb hb' hboundary hquote => ?_⟩
  obtain ⟨t, hb⟩ := List.head?_eq_some_iff.mp hb
  obtain ⟨t', hb'⟩ := List.head?_eq_some_iff.mp hb'
  have hrun := table.run_tokenize (a ++ b)
  rw [String.toList_append, hb] at hrun
  have hbefore := hrun.concatText_take_of_boundary hboundary
  have hk : k ≤ (table.tokenize (a ++ b)).value.length := by
    by_contra hbeyond
    rw [List.take_of_length_le (by omega), hrun.concatText_eq, String.toList_ofList,
      List.append_right_eq_self] at hbefore
    exact nomatch hbefore
  rw [← List.take_append_drop k (table.tokenize (a ++ b)).value, ← hbefore] at hrun
  obtain ⟨after, hrun'⟩ := run_before_separator hc t t' hrun hquote
  rw [hbefore, ← hb', ← String.toList_append] at hrun'
  have htake : (table.tokenize (a ++ b')).value.take k =
      (table.tokenize (a ++ b)).value.take k := by
    rw [hrun'.tokenize_eq]
    exact List.take_left' (List.length_take_of_le hk)
  refine ⟨?_, htake⟩
  rw [← hboundary, Token.boundary, htake]
  rfl

theorem tokenize_before_separator_comment : ∃ lexer, Assembly.lexer = .ok lexer ∧
    '#' ∈ separators ∧ "# a".toList.head? = some '#' ∧ "# \"".toList.head? = some '#' ∧
      Token.boundary (lexer.tokenize ("ret" ++ "# a")).value 1 = Position.start.advancedBy "ret" ∧
      (∀ t ∈ (lexer.tokenize ("ret" ++ "# a")).value.take 1, ¬t.IsLoneQuote) ∧
      Token.boundary (lexer.tokenize ("ret" ++ "# \"")).value 1 = Position.start.advancedBy "ret" ∧
      (lexer.tokenize ("ret" ++ "# \"")).value.take 1 =
        (lexer.tokenize ("ret" ++ "# a")).value.take 1 := by
  obtain ⟨lexer, hlexer, hedit⟩ := tokenize_before_separator
  have htable : lexer = table := eq_table_of_lexer_eq hlexer
  have hname : scan (['r', 'e', 't'] ++ ['#', ' ', 'a']) = some (.keyword, ['r', 'e', 't']) := by
    decide
  have hcomment : scan (['#', ' ', 'a'] ++ []) = some (.comment, ['#', ' ', 'a']) := by decide
  have htokens : (lexer.tokenize ("ret" ++ "# a")).value =
      [Token.startingAt .start .keyword ['r', 'e', 't'],
        Token.startingAt ⟨1, 4, 3, 3⟩ .comment ['#', ' ', 'a']] := by
    rw [htable]
    exact Lexer.Run.tokenize_eq (run_step hname (run_step hcomment (Lexer.Run.stop _)))
  have hboundary : Token.boundary (lexer.tokenize ("ret" ++ "# a")).value 1 =
      Position.start.advancedBy "ret" := by
    rw [htokens]
    rfl
  have hquote : ∀ t ∈ (lexer.tokenize ("ret" ++ "# a")).value.take 1, ¬t.IsLoneQuote := by
    rw [htokens]
    decide
  exact ⟨lexer, hlexer, by decide, rfl, rfl, hboundary, hquote,
    hedit "ret" "# a" "# \"" '#' 1 (by decide) rfl rfl hboundary hquote⟩

end Assembly

end Highlighting
