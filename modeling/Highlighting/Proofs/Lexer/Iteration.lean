import Highlighting.Proofs.Lexer.Run

namespace Highlighting.Tokens

def after (tokens : Tokens) : Nat → Tokens
  | 0 => tokens
  | n + 1 => (tokens.after n).next.value.2

lemma next_cases (tokens : Tokens) :
    (tokens.rest = [] ∧ tokens.next.value = (none, tokens)) ∨
      ∃ category taken rest, tokens.rest = taken ++ rest ∧
        tokens.lexer.classify (taken ++ rest) = some (category, taken.length) ∧
        tokens.next.value = (some (Token.startingAt tokens.position category taken),
          ⟨tokens.lexer, rest, tokens.position.advanceBy taken⟩) := by
  obtain ⟨lexer, text, p⟩ := tokens
  by_cases htext : text = []
  · subst htext
    exact Or.inl ⟨rfl, rfl⟩
  · obtain ⟨category, taken, rest, rfl, -, hclass⟩ := lexer.exists_classify_append htext
    exact Or.inr ⟨category, taken, rest, rfl, hclass, by rw [next_append p hclass]⟩

lemma next_collect (tokens : Tokens) :
    tokens.next.value.1 = tokens.collect.value.head? ∧
      tokens.next.value.2.collect.value = tokens.collect.value.tail := by
  obtain ⟨lexer, text, p⟩ := tokens
  by_cases htext : text = []
  · subst htext
    rw [next_nil, collect_nil]
    exact ⟨rfl, rfl⟩
  · obtain ⟨category, taken, rest, rfl, -, hclass⟩ := lexer.exists_classify_append htext
    rw [next_append p hclass, collect_append p hclass]
    exact ⟨rfl, rfl⟩

lemma collect_after (tokens : Tokens) (n : Nat) :
    (tokens.after n).collect.value = tokens.collect.value.drop n := by
  induction n with
  | zero => rfl
  | succ n ih => rw [after, (next_collect _).2, ih, List.tail_drop]

lemma next_after (tokens : Tokens) (n : Nat) :
    (tokens.after n).next.value.1 = tokens.collect.value[n]? := by
  rw [(next_collect _).1, collect_after, List.head?_drop]

structure Within (source : List Char) (tokens : Tokens) : Prop where
  exists_before : ∃ before, source = before ++ tokens.rest ∧
    tokens.position = Position.start.advanceBy before

lemma Within.start (lexer : Lexer) (source : List Char) :
    (Tokens.start lexer source).Within source :=
  ⟨[], rfl, rfl⟩

lemma Within.next {source : List Char} {tokens : Tokens} (h : tokens.Within source) :
    tokens.next.value.2.Within source := by
  obtain ⟨before, hsource, hposition⟩ := h.exists_before
  rcases tokens.next_cases with ⟨-, hnext⟩ | ⟨category, taken, rest, hrest, -, hnext⟩
  · rw [hnext]
    exact h
  · rw [hnext]
    refine ⟨before ++ taken, ?_, ?_⟩
    · rw [hsource, hrest, List.append_assoc]
    · rw [hposition, Position.advanceBy_append]

lemma Within.after {source : List Char} {tokens : Tokens} (h : tokens.Within source) (n : Nat) :
    (tokens.after n).Within source := by
  induction n with
  | zero => exact h
  | succ n ih => exact ih.next

/-- The two cuts of a call, the rest from `source` and the text from the rest, are both made at
character boundaries. -/
structure Sliceable (source : String) (tokens : Tokens) : Prop where
  offset_valid : String.Pos.Raw.IsValid source ⟨tokens.position.byteOffset⟩
  rest_eq : String.Pos.Raw.extract source ⟨tokens.position.byteOffset⟩ source.rawEndPos =
    String.ofList tokens.rest
  length_valid : ∀ category n,
    tokens.lexer.classifyBytes (String.ofList tokens.rest) = some (category, n) →
      String.Pos.Raw.IsValid (String.ofList tokens.rest) ⟨n⟩
  text_eq : ∀ token, tokens.next.value.1 = some token → ∃ n,
    tokens.lexer.classifyBytes (String.ofList tokens.rest) = some (token.category, n) ∧
      String.Pos.Raw.extract (String.ofList tokens.rest) 0 ⟨n⟩ = token.text

lemma classifyBytes_append {lexer : Lexer} {taken rest : List Char} {category : Category}
    (h : lexer.classify (taken ++ rest) = some (category, taken.length)) :
    lexer.classifyBytes (String.ofList (taken ++ rest)) = some (category, utf8Length taken) := by
  simp only [Lexer.classifyBytes, String.toList_ofList, h, Option.map_some, List.take_left]

lemma Within.sliceable {source : String} {tokens : Tokens} (h : tokens.Within source.toList) :
    tokens.Sliceable source := by
  obtain ⟨before, hsource, hposition⟩ := h.exists_before
  have hstring : source = String.ofList (before ++ tokens.rest) := by
    rw [← hsource, String.ofList_toList]
  have hoffset : tokens.position.byteOffset = utf8Length before := by
    rw [hposition, Position.byteOffset_start_advanceBy]
  refine ⟨?_, ?_, fun category n hn => ?_, fun token htoken => ?_⟩
  · rw [hoffset, hstring]
    exact isValid_utf8Length before tokens.rest
  · rw [hoffset, hstring]
    exact extract_to_end before tokens.rest
  · rcases tokens.next_cases with ⟨hrest, -⟩ | ⟨category', taken, rest, hrest, hclass, -⟩
    · rw [hrest] at hn
      exact nomatch hn
    · rw [hrest, classifyBytes_append hclass] at hn
      cases hn
      rw [hrest]
      exact isValid_utf8Length taken rest
  · rcases tokens.next_cases with ⟨-, hnext⟩ | ⟨category, taken, rest, hrest, hclass, hnext⟩
    · rw [hnext] at htoken
      exact nomatch htoken
    · rw [hnext] at htoken
      cases htoken
      rw [hrest]
      exact ⟨utf8Length taken, classifyBytes_append hclass, extract_utf8Length [] taken rest⟩

end Highlighting.Tokens
