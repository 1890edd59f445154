import Highlighting.Proofs.Assembly.Quotes

/-! Assembly language can be tokenized in blocks of lines: a line feed outside strings and before
something that is not blank keeps what stands behind it from what stands before it. -/

namespace Highlighting

namespace Taking

/-- What `f` takes from a text that has a line feed is settled before that line feed. -/
def SettledByLine (f : List Char → Option (List Char)) : Prop :=
  ∀ w t, f (w ++ '\n' :: t) = f (w ++ ['\n'])

namespace SettledByLine

lemma nothing : SettledByLine nothing :=
  fun _ _ => rfl

lemma ending : SettledByLine ending := by
  intro w t
  cases w <;> rfl

lemma run {q : Char → Bool} (hq : q '\n' = false) : SettledByLine (run q) := by
  intro w t
  have hstop : ∀ u, (w ++ '\n' :: u).takeWhile q = w.takeWhile q := by
    intro u
    exact takeWhile_append_of_stop w (List.takeWhile_cons_of_neg (by simp [hq]))
  rw [Taking.run, Taking.run, hstop t, hstop []]

lemma first {p : Char → Bool} {f : List Char → Option (List Char)} (hp : p '\n' = false)
    (hf : SettledByLine f) : SettledByLine (first p f) := by
  intro w t
  cases w with
  | nil => simp only [List.nil_append, Taking.first, hp, Bool.false_eq_true, if_false]
  | cons c w => simp only [List.cons_append, Taking.first, hf w t]

lemma either {f g : List Char → Option (List Char)} (hf : SettledByLine f)
    (hg : SettledByLine g) : SettledByLine (either f g) := by
  intro w t
  rw [Taking.either, Taking.either, hf w t, hg w t]

end SettledByLine

end Taking

namespace Assembly

open Taking

lemma settled_headed {p q : Char → Bool} (hp : p '\n' = false) (hq : q '\n' = false) :
    SettledByLine (headed? p q) := by
  rw [headed?_eq]
  exact (SettledByLine.run hq).first hp

lemma settled_sigil : SettledByLine sigil? :=
  SettledByLine.first rfl ((settled_headed rfl rfl).either (settled_headed rfl rfl))

lemma settled_digits : SettledByLine digits? := by
  have hhex : SettledByLine hexadecimal? := by
    rw [hexadecimal?_eq]
    exact SettledByLine.first rfl (SettledByLine.first rfl ((SettledByLine.run rfl).first rfl))
  exact hhex.either (settled_headed rfl rfl)

lemma settled_number : SettledByLine number? := by
  rw [number?_eq]
  exact (settled_digits.first rfl).either settled_digits

lemma settled_punctuation : SettledByLine punctuation? :=
  (SettledByLine.nothing.first rfl).either
    (((SettledByLine.ending.first rfl).first rfl).first rfl)

lemma blank_append {text t : List Char} (htext : text ≠ [])
    (ht : ∀ c, t.head? = some c → isBlank c = false) :
    headed? isBlank isBlank (text ++ t) = headed? isBlank isBlank text := by
  have hrun : t.takeWhile isBlank = [] := by
    cases t with
    | nil => rfl
    | cons c t => exact List.takeWhile_cons_of_neg (by simp [ht c rfl])
  cases text with
  | nil => exact absurd rfl htext
  | cons c cs =>
    have hcs : (cs ++ t).takeWhile isBlank = cs.takeWhile isBlank :=
      takeWhile_append_of_stop cs hrun
    simp only [List.cons_append, headed?, hcs]

lemma throughQuote?_append {text : List Char} (t : List Char) (hend : text.getLast? ≠ some '\\')
    (hopen : throughQuote? text ≠ some text) :
    throughQuote? (text ++ t) = throughQuote? text := by
  cases h : throughQuote? text with
  | none => exact absurd (getLast?_of_trailingBackslashes (odd_trailingBackslashes h)) hend
  | some taken =>
    have hclosed : taken ≠ text := fun hwhole => hopen (by rw [h, hwhole])
    obtain ⟨rest, rfl⟩ := takesFront_throughQuote text taken h
    rw [List.append_assoc, throughQuote?_of_closed h hclosed]

lemma string?_append {text : List Char} (t : List Char) (hend : text.getLast? = some '\n')
    (hopen : string? text ≠ some text) : string? (text ++ t) = string? text := by
  have hinside : ∀ before cs, text = before ++ cs → throughQuote? cs ≠ some cs →
      throughQuote? (cs ++ t) = throughQuote? cs := by
    rintro before cs rfl
    apply throughQuote?_append
    intro hlast
    rw [List.getLast?_append, hlast] at hend
    exact absurd (Option.some.inj hend) (by decide)
  cases text with
  | nil => exact nomatch hend
  | cons c cs =>
    by_cases hquote : c = '"'
    · subst hquote
      have hcs := hinside ['"'] cs rfl (fun h => hopen (by rw [string?, h]; rfl))
      rw [List.cons_append, string?, string?, hcs]
    · by_cases hbang : c = '!'
      · subst hbang
        cases cs with
        | nil => exact absurd (Option.some.inj hend) (by decide)
        | cons d ds =>
          by_cases hd : d = '"'
          · subst hd
            have hds := hinside ['!', '"'] ds rfl (fun h => hopen (by rw [string?, h]; rfl))
            rw [List.cons_append, List.cons_append, string?, string?, hds]
          · simp [string?, hd]
      · simp [string?, hquote, hbang]

lemma form_append {text t : List Char} (hend : text.getLast? = some '\n')
    (hopen : string? text ≠ some text) (ht : ∀ c, t.head? = some c → isBlank c = false) :
    ∀ form ∈ forms, form.2 (text ++ t) = form.2 text := by
  have hsettled : ∀ f, SettledByLine f → f (text ++ t) = f text := by
    obtain ⟨w, rfl⟩ := List.getLast?_eq_some_iff.mp hend
    intro f hf
    rw [List.append_assoc]
    exact hf w t
  simp only [forms, List.forall_mem_cons]
  refine ⟨?_, string?_append t hend hopen, hsettled _ (settled_headed rfl rfl),
    hsettled _ settled_sigil, hsettled _ (settled_headed rfl rfl), hsettled _ settled_number,
    hsettled _ settled_punctuation, fun form hm => absurd hm List.not_mem_nil⟩
  apply blank_append ?_ ht
  rintro rfl
  cases hend

lemma scan_append {text t : List Char} (hend : text.getLast? = some '\n')
    (hopen : string? text ≠ some text) (ht : ∀ c, t.head? = some c → isBlank c = false) :
    scan (text ++ t) = scan text := by
  have hforms := form_append hend hopen ht
  cases text with
  | nil => exact nomatch hend
  | cons c cs =>
    rcases scan_cases c cs with ⟨form, hm, taken, hf, hscan⟩ | ⟨hnone, hscan⟩
    · have hf' : form.2 (c :: cs ++ t) = some taken := (hforms form hm).trans hf
      rw [hscan, scan_of_mem hm hf']
    · have hnone' : ∀ form ∈ forms, form.2 (c :: (cs ++ t)) = none := fun form hm =>
        (hforms form hm).trans (hnone form hm)
      rw [hscan, List.cons_append, scan_of_none hnone']

lemma run_append_lines {p : Position} {s t : List Char} {tokens tokens' : List Token}
    (h : table.Run p s tokens) (hend : ∀ c, s.getLast? = some c → c = '\n')
    (hlast : ∀ token, tokens.getLast? = some token → token.category ≠ .string)
    (ht : ∀ c, t.head? = some c → isBlank c = false)
    (h' : table.Run (p.advanceBy s) t tokens') : table.Run p (s ++ t) (tokens ++ tokens') := by
  induction h with
  | stop p => exact h'
  | @step p taken rest category tokens hclass hrun ih =>
    have htaken := Lexer.ne_nil_of_classify hclass
    have hscan := (classify_table_eq_some_iff category taken rest).mp hclass
    have hfeed : (taken ++ rest).getLast? = some '\n' := by
      cases hc : (taken ++ rest).getLast? with
      | none => exact absurd (List.append_eq_nil_iff.mp (List.getLast?_eq_none_iff.mp hc)).1 htaken
      | some c => rw [hend c hc]
    -- A string over the whole text would be the last token.
    have hopen : string? (taken ++ rest) ≠ some (taken ++ rest) := by
      intro hstring
      have hwhole := (scan_string hstring).symm.trans hscan
      obtain ⟨rfl, hrest⟩ := Prod.mk.inj (Option.some.inj hwhole)
      rw [List.append_right_eq_self] at hrest
      subst hrest
      rw [hrun.tokens_eq_nil] at hlast
      exact hlast _ rfl rfl
    have hseam : scan (taken ++ (rest ++ t)) = some (category, taken) := by
      rw [← List.append_assoc, scan_append hfeed hopen ht, hscan]
    rw [List.append_assoc, List.cons_append]
    refine run_step hseam (ih ?_ ?_ ?_)
    · intro c hc
      refine hend c ?_
      rw [List.getLast?_append, hc]
      rfl
    · exact fun token htoken => hlast token (by rw [List.getLast?_cons, htoken, Option.getD_some])
    · rwa [← Position.advanceBy_append]

theorem tokenize_append_lines : ∃ lexer, Assembly.lexer = .ok lexer ∧
    ∀ s t : String, s.toList.getLast? = some '\n' →
      (∀ token, (lexer.tokenize s).value.getLast? = some token → token.category ≠ .string) →
      (∀ c, t.toList.head? = some c → c ∉ ['\t', '\n', '\r', ' ', '\xA0']) →
      (lexer.tokenize (s ++ t)).value = (lexer.tokenize s).value ++
        (lexer.tokenize t).value.map (Token.movedBy (Position.start.advancedBy s)) := by
  refine ⟨table, lexer_eq_table, fun s t hs hlast ht => Lexer.Run.tokenize_eq ?_⟩
  rw [String.toList_append]
  refine run_append_lines (table.run_tokenize s) (fun c hc => ?_) hlast
    (fun c hc => decide_eq_false (ht c hc)) ?_
  · rw [hs] at hc
    exact (Option.some.inj hc).symm
  · have hmoved := (table.run_tokenize t).movedBy Position.FromOne.start
      (Position.start.advancedBy s)
    rwa [Position.followedBy_start] at hmoved

theorem tokenize_append_lines_ret_nop : ∃ lexer, Assembly.lexer = .ok lexer ∧
    "ret\n".toList.getLast? = some '\n' ∧
      (∀ token, (lexer.tokenize "ret\n").value.getLast? = some token →
        token.category ≠ .string) ∧
      (∀ c, "nop".toList.head? = some c → c ∉ ['\t', '\n', '\r', ' ', '\xA0']) ∧
      (lexer.tokenize ("ret\n" ++ "nop")).value = (lexer.tokenize "ret\n").value ++
        (lexer.tokenize "nop").value.map
          (Token.movedBy (Position.start.advancedBy "ret\n")) := by
  obtain ⟨lexer, hlexer, happend⟩ := tokenize_append_lines
  have htable : lexer = table := eq_table_of_lexer_eq hlexer
  have hname : table.classify (['r', 'e', 't'] ++ ['\n']) = some (.keyword, 3) :=
    (classify_table_eq_some_iff .keyword ['r', 'e', 't'] ['\n']).mpr (by decide)
  have hfeed : table.classify (['\n'] ++ []) = some (.plain, 1) :=
    (classify_table_eq_some_iff .plain ['\n'] []).mpr (by decide)
  have htokens : (lexer.tokenize "ret\n").value =
      [Token.startingAt .start .keyword ['r', 'e', 't'],
        Token.startingAt ⟨1, 4, 3, 3⟩ .plain ['\n']] := by
    rw [htable]
    exact Lexer.Run.tokenize_eq (Lexer.Run.step hname (Lexer.Run.step hfeed (Lexer.Run.stop _)))
  have hlast : ∀ token, (lexer.tokenize "ret\n").value.getLast? = some token →
      token.category ≠ .string := by
    intro token htoken
    rw [htokens] at htoken
    cases htoken
    decide
  have hnop : ∀ c, "nop".toList.head? = some c → c ∉ ['\t', '\n', '\r', ' ', '\xA0'] := by
    intro c hc
    cases hc
    decide
  exact ⟨lexer, hlexer, by decide, hlast, hnop, happend "ret\n" "nop" (by decide) hlast hnop⟩

end Assembly

end Highlighting
