import Highlighting.Proofs.Lexer.Partition

namespace Highlighting

lemma map_getElem?_range {α : Type} (xs : List α) (n : ℕ) :
    (List.range n).map (xs[·]?) =
      (xs.take n).map some ++ List.replicate (n - xs.length) none := by
  induction xs generalizing n with
  | nil => simp
  | cons x xs ih =>
    cases n with
    | zero => simp
    | succ n => simpa [List.range_succ_eq_map, Function.comp_def] using ih n

lemma Lexer.Run.length_le {lexer : Lexer} {p : Position} {text : List Char} {tokens : List Token}
    (h : Run lexer p text tokens) : tokens.length ≤ text.length := by
  induction h with
  | stop p => exact Nat.le_refl 0
  | step hclass _ ih =>
    have htaken := List.length_pos_iff.mpr (ne_nil_of_classify hclass)
    simp only [List.length_cons, List.length_append]
    omega

namespace Tokens

def answers (tokens : Tokens) (n : ℕ) : List (Option Token) :=
  (List.range n).map fun k => (tokens.after k).next.value.1

lemma answers_eq (tokens : Tokens) (n : ℕ) :
    tokens.answers n = (tokens.collect.value.take n).map some ++
      List.replicate (n - tokens.collect.value.length) none := by
  simp only [answers, next_after, map_getElem?_range]

lemma countP_isSome_answers (tokens : Tokens) (n : ℕ) :
    (tokens.answers n).countP Option.isSome ≤ tokens.collect.value.length := by
  have hfront := List.countP_le_length (p := Option.isSome)
    (l := (tokens.collect.value.take n).map some)
  rw [List.length_map, List.length_take] at hfront
  rw [answers_eq, List.countP_append, List.countP_replicate]
  simp only [Option.isSome_none, Bool.false_eq_true, if_false]
  omega

lemma next_of_rest_eq_nil {tokens : Tokens} (h : tokens.rest = []) :
    tokens.next = pure (none, tokens) := by
  obtain ⟨lexer, rest, p⟩ := tokens
  cases h
  exact next_nil lexer p

lemma next_eq_some {tokens : Tokens} {t : Token} (h : tokens.next.value.1 = some t) :
    t.text ≠ "" ∧ tokens.rest = t.text.toList ++ tokens.next.value.2.rest ∧
      t.span = ⟨tokens.position, tokens.next.value.2.position⟩ := by
  rcases tokens.next_cases with ⟨-, hnext⟩ | ⟨category, taken, rest, hrest, hclass, hnext⟩
  · rw [hnext] at h
    exact nomatch h
  · rw [hnext] at h ⊢
    cases h
    have htext := Token.toList_text_startingAt tokens.position category taken
    refine ⟨fun hempty => ?_, ?_, rfl⟩
    · rw [hempty] at htext
      exact Lexer.ne_nil_of_classify hclass htext.symm
    · rw [hrest, htext]

lemma next_eq_none_iff (tokens : Tokens) : tokens.next.value.1 = none ↔ tokens.rest = [] := by
  refine ⟨fun h => ?_, fun h => by rw [next_of_rest_eq_nil h]; rfl⟩
  rcases tokens.next_cases with ⟨hrest, -⟩ | ⟨category, taken, rest, -, -, hnext⟩
  · exact hrest
  · rw [hnext] at h
    exact nomatch h

section Within

variable {source : String} {tokens : Tokens}

lemma Within.byteOffset_eq_iff (h : tokens.Within source.toList) :
    tokens.position.byteOffset = source.utf8ByteSize ↔ tokens.rest = [] := by
  obtain ⟨before, hsource, hposition⟩ := h.exists_before
  have hbytes : source.utf8ByteSize = utf8Length before + utf8Length tokens.rest := by
    rw [← utf8Length_append, ← hsource, ← utf8ByteSize_ofList, String.ofList_toList]
  rw [hposition, Position.byteOffset_start_advanceBy, hbytes]
  constructor
  · intro hoffset
    by_contra hrest
    have := utf8Length_pos hrest
    omega
  · intro hrest
    rw [hrest]
    rfl

lemma Within.position_eq (h : tokens.Within source.toList) (hrest : tokens.rest = []) :
    tokens.position = Position.start.advancedBy source := by
  obtain ⟨before, hsource, hposition⟩ := h.exists_before
  rw [hrest, List.append_nil] at hsource
  rw [hposition, Position.advancedBy, hsource]

end Within

structure Serves (source : String) (tokens : List Token) (calls : Tokens) : Prop where
  answers_eq : ∀ n, calls.answers n =
    (tokens.take n).map some ++ List.replicate (n - tokens.length) none
  position_start : calls.position = Position.start
  position_around : ∀ k (t : Token), tokens[k]? = some t →
    t.span = ⟨(calls.after k).position, (calls.after (k + 1)).position⟩
  position_end : ∀ n, tokens.length ≤ n →
    (calls.after n).position = Position.start.advancedBy source
  unchanged : ∀ n, tokens.length ≤ n → (calls.after n).next = pure (none, calls.after n)
  consumes : ∀ n (t : Token), (calls.after n).next.value.1 = some t →
    t.text ≠ "" ∧ (calls.after n).rest = t.text.toList ++ (calls.after (n + 1)).rest
  successes_le : ∀ n, (calls.answers n).countP Option.isSome ≤ source.length
  ended_iff : ∀ n, (calls.after n).position.byteOffset = source.utf8ByteSize ↔
    (calls.after n).next.value.1 = none

theorem serves_tokens (lexer : Lexer) (source : String) :
    Serves source (lexer.tokenize source).value (lexer.tokens source).value := by
  have hanswers := (lexer.tokens source).value.answers_eq
  have hwithin : ∀ n, ((lexer.tokens source).value.after n).Within source.toList :=
    (Within.start lexer source.toList).after
  have hnext : ∀ n, ((lexer.tokens source).value.after n).next.value.1 =
      (lexer.tokenize source).value[n]? := (lexer.tokens source).value.next_after
  have hend : ∀ n, (lexer.tokenize source).value.length ≤ n →
      ((lexer.tokens source).value.after n).rest = [] := by
    intro n hn
    rw [← next_eq_none_iff, hnext, List.getElem?_eq_none hn]
  refine ⟨hanswers, rfl, ?_, ?_, ?_, ?_, ?_, ?_⟩
  · intro k t ht
    exact (next_eq_some ((hnext k).trans ht)).2.2
  · exact fun n hn => (hwithin n).position_eq (hend n hn)
  · exact fun n hn => next_of_rest_eq_nil (hend n hn)
  · intro n t ht
    obtain ⟨hne, hrest, -⟩ := next_eq_some ht
    exact ⟨hne, hrest⟩
  · intro n
    have hlength := (lexer.run_tokenize source).length_le
    rw [String.length_toList] at hlength
    exact (countP_isSome_answers _ n).trans hlength
  · intro n
    rw [(hwithin n).byteOffset_eq_iff, next_eq_none_iff]

end Tokens

end Highlighting
