import Highlighting.Proofs.Lexer.Scanning
import Highlighting.Proofs.Position.Advance

namespace Highlighting

lemma Rule.extent_le {rule : Rule} {text : List Char} {n : Nat} (h : rule.extent text = some n) :
    n ≤ text.length := by
  unfold Rule.extent at h
  split at h
  next first last _ =>
    split at h
    · cases h
      exact last.offset_le
    · exact nomatch h
  next => exact nomatch h

namespace Lexer

lemma scan_le {rules : List Rule} {rest : List Char} {category : Category} {n : Nat}
    (h : scan rules rest = some (category, n)) : n ≤ rest.length := by
  obtain ⟨rule, -, -, hn⟩ := exists_of_scan_eq_some h
  exact Rule.extent_le hn

lemma classify_le {lexer : Lexer} {rest : List Char} {category : Category} {n : Nat}
    (h : lexer.classify rest = some (category, n)) : n ≤ rest.length := by
  cases rest with
  | nil => exact nomatch h
  | cons c cs =>
    rw [classify_cons] at h
    cases hs : (scan (lexer.shortcutFor c).toList (c :: cs)).or (scan lexer.rules (c :: cs)) with
    | none =>
      rw [hs] at h
      cases h
      exact Nat.le_add_left 1 cs.length
    | some found =>
      rw [hs] at h
      cases h
      rcases Option.or_eq_some_iff.mp hs with hshort | ⟨-, hrules⟩
      · exact scan_le hshort
      · exact scan_le hrules

lemma exists_classify_append (lexer : Lexer) {text : List Char} (h : text ≠ []) :
    ∃ category taken rest, text = taken ++ rest ∧ taken ≠ [] ∧
      lexer.classify text = some (category, taken.length) := by
  obtain ⟨c, cs, rfl⟩ := List.exists_cons_of_ne_nil h
  obtain ⟨⟨category, n⟩, hfound⟩ : ∃ found, lexer.classify (c :: cs) = some found :=
    ⟨_, classify_cons lexer c cs⟩
  have hlength : ((c :: cs).take n).length = n := by
    rw [List.length_take, Nat.min_eq_left (classify_le hfound)]
  refine ⟨category, (c :: cs).take n, (c :: cs).drop n, (List.take_append_drop n _).symm, ?_, ?_⟩
  · intro htaken
    have hpos := classify_pos hfound
    rw [htaken, List.length_nil] at hlength
    omega
  · rw [hlength, hfound]

inductive Run (lexer : Lexer) : Position → List Char → List Token → Prop
  | stop (p : Position) : Run lexer p [] []
  | step {p : Position} {taken rest : List Char} {category : Category} {tokens : List Token}
      (hclass : lexer.classify (taken ++ rest) = some (category, taken.length))
      (hrun : Run lexer (p.advanceBy taken) rest tokens) :
      Run lexer p (taken ++ rest) (Token.startingAt p category taken :: tokens)

lemma ne_nil_of_classify {lexer : Lexer} {taken rest : List Char} {category : Category}
    (h : lexer.classify (taken ++ rest) = some (category, taken.length)) : taken ≠ [] :=
  List.ne_nil_of_length_pos (classify_pos h)

lemma Run.exists (lexer : Lexer) (p : Position) (text : List Char) :
    ∃ tokens, Run lexer p text tokens := by
  induction hn : text.length using Nat.strong_induction_on generalizing p text with
  | _ n ih =>
    subst hn
    by_cases htext : text = []
    · subst htext
      exact ⟨[], Run.stop p⟩
    · obtain ⟨category, taken, rest, rfl, htaken, hclass⟩ := lexer.exists_classify_append htext
      have hshorter : rest.length < (taken ++ rest).length := by
        have hpos := List.length_pos_iff.mpr htaken
        rw [List.length_append]
        omega
      obtain ⟨tokens, hrun⟩ := ih rest.length hshorter (p.advanceBy taken) rest rfl
      exact ⟨_, Run.step hclass hrun⟩

end Lexer

namespace Tokens

lemma next_nil (lexer : Lexer) (p : Position) :
    (Tokens.mk lexer [] p).next = ⟨(none, ⟨lexer, [], p⟩), []⟩ :=
  rfl

lemma next_append {lexer : Lexer} {taken rest : List Char} {category : Category} (p : Position)
    (h : lexer.classify (taken ++ rest) = some (category, taken.length)) :
    (Tokens.mk lexer (taken ++ rest) p).next =
      ⟨(some (Token.startingAt p category taken), ⟨lexer, rest, p.advanceBy taken⟩),
        [.produced (Token.startingAt p category taken)]⟩ := by
  simp only [Tokens.next, h, List.take_left, List.drop_left]
  rfl

lemma collect_nil (lexer : Lexer) (p : Position) : (Tokens.mk lexer [] p).collect.value = [] := by
  rw [collect]
  rfl

lemma collect_append {lexer : Lexer} {taken rest : List Char} {category : Category} (p : Position)
    (h : lexer.classify (taken ++ rest) = some (category, taken.length)) :
    (Tokens.mk lexer (taken ++ rest) p).collect.value =
      Token.startingAt p category taken ::
        (Tokens.mk lexer rest (p.advanceBy taken)).collect.value := by
  rw [collect]
  split
  next hnext =>
    rw [next_append p h] at hnext
    cases hnext
  next hnext =>
    rw [next_append p h] at hnext
    cases hnext
    rfl

end Tokens

namespace Lexer

lemma Run.collect_eq {lexer : Lexer} {p : Position} {text : List Char} {tokens : List Token}
    (h : Run lexer p text tokens) : (Tokens.mk lexer text p).collect.value = tokens := by
  induction h with
  | stop p => rw [Tokens.collect_nil]
  | step hclass _ ih => rw [Tokens.collect_append _ hclass, ih]

lemma Run.unique {lexer : Lexer} {p : Position} {text : List Char}
    {tokens tokens' : List Token} (h : Run lexer p text tokens)
    (h' : Run lexer p text tokens') : tokens = tokens' :=
  h.collect_eq.symm.trans h'.collect_eq

lemma Run.tokens_eq_nil {lexer : Lexer} {p : Position} {tokens : List Token}
    (h : Run lexer p [] tokens) : tokens = [] := by
  rw [← h.collect_eq, Tokens.collect_nil]

lemma run_tokenize (lexer : Lexer) (source : String) :
    Run lexer .start source.toList (lexer.tokenize source).value := by
  obtain ⟨tokens, hrun⟩ := Run.exists lexer .start source.toList
  have heq : (lexer.tokenize source).value = tokens := hrun.collect_eq
  rw [heq]
  exact hrun

lemma Run.congr {lexer lexer' : Lexer}
    (hclassify : ∀ text, lexer.classify text = lexer'.classify text) {p : Position}
    {text : List Char} {tokens : List Token} (h : Run lexer p text tokens) :
    Run lexer' p text tokens := by
  induction h with
  | stop p => exact Run.stop p
  | step hclass _ ih => exact Run.step ((hclassify _).symm.trans hclass) ih

lemma Run.tokenize_eq {lexer : Lexer} {source : String} {tokens : List Token}
    (h : Run lexer .start source.toList tokens) : (lexer.tokenize source).value = tokens :=
  h.collect_eq

lemma tokenize_congr {lexer lexer' : Lexer}
    (hclassify : ∀ text, lexer.classify text = lexer'.classify text) (source : String) :
    (lexer.tokenize source).value = (lexer'.tokenize source).value :=
  ((lexer'.run_tokenize source).congr fun text => (hclassify text).symm).tokenize_eq

end Lexer

def Token.movedBy (p : Position) (t : Token) : Token :=
  { t with span := ⟨p.followedBy t.span.start, p.followedBy t.span.stop⟩ }

lemma Lexer.Run.movedBy {lexer : Lexer} {q : Position} {text : List Char} {tokens : List Token}
    (h : Run lexer q text tokens) (hq : q.FromOne) (p : Position) :
    Run lexer (p.followedBy q) text (tokens.map (Token.movedBy p)) := by
  induction h with
  | stop q => exact Run.stop _
  | @step q taken rest category tokens hclass _ ih =>
      have hrun := ih (hq.advanceBy taken)
      rw [Position.followedBy_advanceBy p hq] at hrun
      have htoken : Token.movedBy p (Token.startingAt q category taken) =
          Token.startingAt (p.followedBy q) category taken := by
        simp only [Token.movedBy, Token.startingAt, Position.followedBy_advanceBy p hq]
      rw [List.map_cons, htoken]
      exact Run.step hclass hrun

end Highlighting
