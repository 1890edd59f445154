import Highlighting.Proofs.Assembly.Quotes
import Highlighting.Proofs.Lexer.Partition

/-! Tokens of assembly language stand for themselves: cut out of its source, a token is still one
token of the same category, unless it is a quote that opens no string. -/

namespace Highlighting

namespace Taking

def Idempotent (f : List Char → Option (List Char)) : Prop :=
  ∀ text taken, f text = some taken → f taken = some taken

def Persistent (f : List Char → Option (List Char)) : Prop :=
  ∀ text more, f (text ++ more) = none → f text = none

namespace Persistent

lemma nothing : Persistent nothing :=
  fun _ _ h => nomatch h

lemma run (q : Char → Bool) : Persistent (run q) :=
  fun _ _ h => nomatch h

lemma first {f : List Char → Option (List Char)} (p : Char → Bool) (hf : Persistent f) :
    Persistent (first p f) := by
  intro text more h
  cases text with
  | nil => rfl
  | cons c text =>
    simp only [List.cons_append, Taking.first, ite_eq_right_iff, Option.map_eq_none_iff] at h ⊢
    exact fun hc => hf text more (h hc)

lemma either {f g : List Char → Option (List Char)} (hf : Persistent f) (hg : Persistent g) :
    Persistent (either f g) := by
  intro text more h
  obtain ⟨hnone, hnone'⟩ := Option.or_eq_none_iff.mp h
  exact Option.or_eq_none_iff.mpr ⟨hf text more hnone, hg text more hnone'⟩

end Persistent

namespace Idempotent

lemma nothing : Idempotent nothing :=
  fun _ _ h => h

lemma ending : Idempotent ending := by
  intro text taken h
  cases text with
  | nil =>
    obtain rfl := Option.some.inj h
    rfl
  | cons c text => cases h

lemma run (q : Char → Bool) : Idempotent (run q) := by
  intro text taken h
  obtain rfl := Option.some.inj h
  rw [Taking.run, List.takeWhile_idem]

lemma first {f : List Char → Option (List Char)} (p : Char → Bool) (hf : Idempotent f) :
    Idempotent (first p f) := by
  intro text taken h
  cases text with
  | nil => cases h
  | cons c text =>
    simp only [Taking.first, Option.ite_none_right_eq_some, Option.map_eq_some_iff] at h
    obtain ⟨hc, tail, htail, rfl⟩ := h
    simp only [Taking.first, hc, if_true, hf text tail htail, Option.map_some]

lemma either {f g : List Char → Option (List Char)} (hf : Idempotent f) (hg : Idempotent g)
    (hfront : TakesFront g) (hpersistent : Persistent f) : Idempotent (either f g) := by
  intro text taken h
  rcases Option.or_eq_some_iff.mp h with htaken | ⟨hnone, htaken⟩
  · exact Option.or_eq_some_iff.mpr (Or.inl (hf text taken htaken))
  · obtain ⟨rest, rfl⟩ := hfront text taken htaken
    exact Option.or_eq_some_iff.mpr
      (Or.inr ⟨hpersistent taken rest hnone, hg _ taken htaken⟩)

end Idempotent

end Taking

namespace Assembly

open Taking

lemma persistent_headed (p q : Char → Bool) : Persistent (headed? p q) := by
  rw [headed?_eq]
  exact (Persistent.run q).first p

lemma persistent_hexadecimal : Persistent hexadecimal? := by
  rw [hexadecimal?_eq]
  exact (((Persistent.run _).first _).first _).first _

lemma persistent_sigil : Persistent sigil? :=
  ((persistent_headed _ _).either (persistent_headed _ _)).first _

lemma persistent_digits : Persistent digits? :=
  persistent_hexadecimal.either (persistent_headed _ _)

lemma persistent_number : Persistent number? := by
  rw [number?_eq]
  exact (persistent_digits.first _).either persistent_digits

lemma idempotent_headed (p q : Char → Bool) : Idempotent (headed? p q) := by
  rw [headed?_eq]
  exact (Idempotent.run q).first p

lemma idempotent_throughQuote : Idempotent throughQuote? := by
  intro text taken h
  by_cases hwhole : taken = text
  · rwa [hwhole] at h ⊢
  · have hclosed := throughQuote?_of_closed h hwhole []
    rwa [List.append_nil] at hclosed

lemma idempotent_string : Idempotent string? := by
  rw [string?_eq]
  intro text taken h
  rcases Option.or_eq_some_iff.mp h with htaken | ⟨-, htaken⟩
  · have hbang := ((idempotent_throughQuote.first (· == '"')).first (· == '!')) text taken htaken
    exact Option.or_eq_some_iff.mpr (Or.inl hbang)
  · have hquote := (idempotent_throughQuote.first (· == '"')) text taken htaken
    refine Option.or_eq_some_iff.mpr (Or.inr ⟨?_, hquote⟩)
    cases taken with
    | nil => rfl
    | cons c cs =>
      have hc : c = '"' := by
        simp only [first, Option.ite_none_right_eq_some, beq_iff_eq] at hquote
        exact hquote.1
      simp [first, hc]

lemma idempotent_sigil : Idempotent sigil? :=
  ((idempotent_headed _ _).either (idempotent_headed _ _) (takesFront_headed _ _)
    (persistent_headed _ _)).first _

lemma idempotent_digits : Idempotent digits? := by
  have hhex : Idempotent hexadecimal? := by
    rw [hexadecimal?_eq]
    exact (((Idempotent.run _).first _).first _).first _
  exact hhex.either (idempotent_headed _ _) (takesFront_headed _ _) persistent_hexadecimal

lemma idempotent_number : Idempotent number? := by
  rw [number?_eq]
  exact (idempotent_digits.first _).either idempotent_digits takesFront_digits
    (persistent_digits.first _)

lemma idempotent_punctuation : Idempotent punctuation? :=
  (Idempotent.nothing.first _).either (((Idempotent.ending.first _).first _).first _)
    (((TakesFront.ending.first _).first _).first _) (Persistent.nothing.first _)

lemma idempotent_of_mem : ∀ form ∈ forms, Idempotent form.2 := by
  simp only [forms, List.forall_mem_cons]
  exact ⟨idempotent_headed _ _, idempotent_string, idempotent_headed _ _, idempotent_sigil,
    idempotent_headed _ _, idempotent_number, idempotent_punctuation,
    fun form hform => absurd hform List.not_mem_nil⟩

lemma forms_singleton {c : Char} {cs : List Char} (hquote : c ≠ '"')
    (h : ∀ form ∈ forms, form.2 (c :: cs) = none) : ∀ form ∈ forms, form.2 [c] = none := by
  simp only [forms, List.forall_mem_cons] at h ⊢
  obtain ⟨hblank, -, hcomment, hsigil, hname, hnumber, hpunctuation, -⟩ := h
  have hmark := (Option.or_eq_none_iff.mp hpunctuation).1
  refine ⟨persistent_headed _ _ [c] cs hblank, ?_, persistent_headed _ _ [c] cs hcomment,
    persistent_sigil [c] cs hsigil, persistent_headed _ _ [c] cs hname,
    persistent_number [c] cs hnumber, ?_, fun form hform => absurd hform List.not_mem_nil⟩
  · simp [string?, hquote]
  · refine Option.or_eq_none_iff.mpr ⟨(Persistent.nothing.first _) [c] cs hmark, ?_⟩
    simp [first]

lemma scan_taken {text taken : List Char} {category : Category}
    (h : scan text = some (category, taken)) (hquote : ¬(category = .plain ∧ taken = ['"'])) :
    scan taken = some (category, taken) := by
  cases text with
  | nil => cases h
  | cons c cs =>
    rcases scan_cases c cs with ⟨form, hform, found, hfound, hscan⟩ | ⟨hnone, hscan⟩
    · obtain ⟨rfl, rfl⟩ := Prod.mk.inj (Option.some.inj (hscan.symm.trans h))
      exact scan_of_mem hform (idempotent_of_mem form hform _ _ hfound)
    · obtain ⟨rfl, rfl⟩ := Prod.mk.inj (Option.some.inj (hscan.symm.trans h))
      have hc : c ≠ '"' := fun hc => hquote ⟨rfl, by rw [hc]⟩
      exact scan_of_none (forms_singleton hc hnone)

lemma tokenize_of_scan {text : String} {category : Category}
    (h : scan text.toList = some (category, text.toList)) :
    (table.tokenize text).value = [Token.startingAt .start category text.toList] := by
  have hrun : table.Run .start (text.toList ++ [])
      [Token.startingAt .start category text.toList] :=
    run_step (by rwa [List.append_nil]) (Lexer.Run.stop _)
  rw [List.append_nil] at hrun
  exact hrun.tokenize_eq

lemma exists_scan_of_mem {source : String} {t : Token}
    (ht : t ∈ (table.tokenize source).value) : ∃ before rest,
      source.toList = before ++ (t.text.toList ++ rest) ∧
        scan (t.text.toList ++ rest) = some (t.category, t.text.toList) := by
  obtain ⟨before, after, htokens⟩ := List.append_of_mem ht
  have hrun := table.run_tokenize source
  rw [htokens] at hrun
  obtain ⟨text, hsource, hbehind⟩ := hrun.behind
  obtain ⟨category, taken, rest, rfl, hscan, rfl, -⟩ := scan_of_run hbehind
  refine ⟨(Token.concatText before).toList, rest, ?_, ?_⟩
  · rw [Token.toList_text_startingAt, hsource]
  · rw [Token.toList_text_startingAt]
    exact hscan

theorem tokenize_token_text : ∃ lexer, Assembly.lexer = .ok lexer ∧
    ∀ (source : String) (t : Token), t ∈ (lexer.tokenize source).value →
      ((lexer.tokenize t.text).value = [Token.startingAt .start t.category t.text.toList] ↔
        ¬t.IsLoneQuote) ∧
      (t.IsLoneQuote → source.toList.getLast? = some '\\' ∧
        Odd (trailingBackslashes source.toList)) := by
  refine ⟨table, lexer_eq_table, fun source t ht => ?_⟩
  obtain ⟨before, rest, hsource, hscan⟩ := exists_scan_of_mem ht
  refine ⟨⟨?_, ?_⟩, ?_⟩
  · rintro hone ⟨hcategory, htext⟩
    have hquote : (table.tokenize "\"").value = [Token.startingAt .start .string ['"']] :=
      tokenize_of_scan (by decide)
    rw [htext, hquote, hcategory] at hone
    exact absurd hone (by decide)
  · intro hquote
    refine tokenize_of_scan (scan_taken hscan ?_)
    rintro ⟨hcategory, htext⟩
    exact hquote ⟨hcategory, String.toList_injective htext⟩
  · rintro ⟨hcategory, htext⟩
    rw [hcategory, htext] at hscan
    have hodd : Odd (trailingBackslashes rest) :=
      odd_trailingBackslashes (scan_quote_eq_plain_iff.mp hscan).1
    have htrailing : trailingBackslashes source.toList = trailingBackslashes rest := by
      rw [hsource, htext]
      exact trailingBackslashes_append_cons before (by decide) rest
    rw [← htrailing] at hodd
    exact ⟨getLast?_of_trailingBackslashes hodd, hodd⟩

theorem tokenize_token_text_ret_quote : ∃ lexer, Assembly.lexer = .ok lexer ∧
    Token.startingAt .start .keyword ['r', 'e', 't'] ∈ (lexer.tokenize "ret\"\\").value ∧
      (lexer.tokenize "ret").value = [Token.startingAt .start .keyword ['r', 'e', 't']] ∧
    Token.startingAt ⟨1, 4, 3, 3⟩ .plain ['"'] ∈ (lexer.tokenize "ret\"\\").value ∧
      (Token.startingAt ⟨1, 4, 3, 3⟩ .plain ['"']).IsLoneQuote ∧
      "ret\"\\".toList.getLast? = some '\\' ∧ Odd (trailingBackslashes "ret\"\\".toList) := by
  obtain ⟨lexer, hlexer, htext⟩ := tokenize_token_text
  have htable : lexer = table := eq_table_of_lexer_eq hlexer
  have hname : scan (['r', 'e', 't'] ++ ['"', '\\']) = some (.keyword, ['r', 'e', 't']) := by decide
  have hquote : scan (['"'] ++ ['\\']) = some (.plain, ['"']) := by decide
  have hbackslash : scan (['\\'] ++ []) = some (.plain, ['\\']) := by decide
  have htokens : (lexer.tokenize "ret\"\\").value =
      [Token.startingAt .start .keyword ['r', 'e', 't'], Token.startingAt ⟨1, 4, 3, 3⟩ .plain ['"'],
        Token.startingAt ⟨1, 5, 4, 4⟩ .plain ['\\']] := by
    rw [htable]
    exact Lexer.Run.tokenize_eq
      (run_step hname (run_step hquote (run_step hbackslash (Lexer.Run.stop _))))
  have hret : Token.startingAt .start .keyword ['r', 'e', 't'] ∈
      (lexer.tokenize "ret\"\\").value := by
    rw [htokens]
    exact List.mem_cons_self
  have hlone : Token.startingAt ⟨1, 4, 3, 3⟩ .plain ['"'] ∈ (lexer.tokenize "ret\"\\").value := by
    rw [htokens]
    exact List.mem_cons_of_mem _ List.mem_cons_self
  refine ⟨lexer, hlexer, hret, ?_, hlone, ⟨rfl, rfl⟩, (htext _ _ hlone).2 ⟨rfl, rfl⟩⟩
  exact (htext _ _ hret).1.mpr (fun hplain => Category.noConfusion hplain.1)

end Assembly

end Highlighting
