import Highlighting.Proofs.Lexer.Iteration

namespace Highlighting

namespace Token

lemma concatText_cons (t : Token) (tokens : List Token) :
    concatText (t :: tokens) = t.text ++ concatText tokens :=
  String.join_cons

lemma toList_text_startingAt (p : Position) (category : Category) (taken : List Char) :
    (startingAt p category taken).text.toList = taken :=
  String.toList_ofList

lemma toList_concatText_cons (t : Token) (tokens : List Token) :
    (concatText (t :: tokens)).toList = t.text.toList ++ (concatText tokens).toList := by
  rw [concatText_cons, String.toList_append]

lemma concatText_append (before after : List Token) :
    concatText (before ++ after) = concatText before ++ concatText after := by
  rw [concatText, List.map_append, String.join_append]
  rfl

structure CutFrom (source : String) (t : Token) : Prop where
  start_valid : String.Pos.Raw.IsValid source ⟨t.span.start.byteOffset⟩
  stop_valid : String.Pos.Raw.IsValid source ⟨t.span.stop.byteOffset⟩
  start_le_stop : t.span.start.byteOffset ≤ t.span.stop.byteOffset
  extract_eq : String.Pos.Raw.extract source ⟨t.span.start.byteOffset⟩ ⟨t.span.stop.byteOffset⟩ =
    t.text
  length_pos : 0 < t.span.length
  length_eq : t.span.length = t.text.utf8ByteSize

structure Partition (source : String) (tokens : List Token) : Prop where
  text_ne : ∀ t ∈ tokens, t.text ≠ ""
  concatText_eq : concatText tokens = source
  first : ∀ t, tokens.head? = some t → t.span.start = Position.start
  adjacent : tokens.IsChain fun t t' => t.span.stop = t'.span.start
  last : ∀ t, tokens.getLast? = some t → t.span.stop = Position.start.advancedBy source
  starts : ∀ before t after, tokens = before ++ t :: after →
    t.span.start = Position.start.advancedBy (concatText before)
  cut : ∀ t ∈ tokens, t.CutFrom source

lemma CutFrom.of_append {source : String} {t : Token} {before taken after : List Char}
    (hsource : source = String.ofList (before ++ taken ++ after)) (htaken : taken ≠ [])
    (ht : t = startingAt (Position.start.advanceBy before) t.category taken) :
    t.CutFrom source := by
  have hstart : t.span.start.byteOffset = utf8Length before := by
    rw [ht]
    exact Position.byteOffset_start_advanceBy before
  have hstop : t.span.stop.byteOffset = utf8Length (before ++ taken) := by
    rw [ht]
    change ((Position.start.advanceBy before).advanceBy taken).byteOffset = _
    rw [← Position.advanceBy_append, Position.byteOffset_start_advanceBy]
  have htext : t.text = String.ofList taken := by rw [ht]; rfl
  have hlength : t.span.length = utf8Length taken := by
    rw [Span.length, hstart, hstop, utf8Length_append, Nat.add_sub_cancel_left]
  refine ⟨?_, ?_, ?_, ?_, ?_, ?_⟩
  · rw [hstart, hsource, List.append_assoc]
    exact isValid_utf8Length before (taken ++ after)
  · rw [hstop, hsource]
    exact isValid_utf8Length (before ++ taken) after
  · rw [hstart, hstop, utf8Length_append]
    exact Nat.le_add_right _ _
  · rw [hstart, hstop, hsource, htext]
    exact extract_utf8Length before taken after
  · rw [hlength]
    exact utf8Length_pos htaken
  · rw [hlength, htext, utf8ByteSize_ofList]

end Token

namespace Lexer

variable {lexer : Lexer} {p : Position} {text : List Char}

lemma Run.concatText_eq {tokens : List Token} (h : Run lexer p text tokens) :
    Token.concatText tokens = String.ofList text := by
  induction h with
  | stop p => rfl
  | step hclass _ ih =>
      rw [Token.concatText_cons, ih, String.ofList_append]
      rfl

lemma Run.start_eq {t : Token} {tokens : List Token} (h : Run lexer p text (t :: tokens)) :
    t.span.start = p := by
  cases h
  rfl

lemma Run.isChain {tokens : List Token} (h : Run lexer p text tokens) :
    tokens.IsChain fun t t' => t.span.stop = t'.span.start := by
  induction h with
  | stop p => exact List.IsChain.nil
  | @step p taken rest category tokens hclass hrun ih =>
      cases tokens with
      | nil => exact List.IsChain.singleton _
      | cons t tokens => exact List.IsChain.cons_cons hrun.start_eq.symm ih

lemma Run.behind {before after : List Token} (h : Run lexer p text (before ++ after)) :
    ∃ rest, text = (Token.concatText before).toList ++ rest ∧
      Run lexer (p.advancedBy (Token.concatText before)) rest after := by
  induction before generalizing p text with
  | nil => exact ⟨text, rfl, h⟩
  | cons t before ih =>
      rw [List.cons_append] at h
      cases h with
      | @step _ taken _ category _ _ hrun =>
          obtain ⟨rest, hrest, hafter⟩ := ih hrun
          have hbefore : (Token.concatText (Token.startingAt p category taken :: before)).toList =
              taken ++ (Token.concatText before).toList := by
            rw [Token.toList_concatText_cons, Token.toList_text_startingAt]
          refine ⟨rest, ?_, ?_⟩
          · rw [hrest, hbefore, List.append_assoc]
          · rw [Position.advancedBy, hbefore, Position.advanceBy_append]
            exact hafter

lemma Run.split {before after : List Token} {t : Token}
    (h : Run lexer p text (before ++ t :: after)) :
    ∃ taken rest, text = (Token.concatText before).toList ++ (taken ++ rest) ∧ taken ≠ [] ∧
      t = Token.startingAt (p.advancedBy (Token.concatText before)) t.category taken ∧
      Run lexer t.span.stop rest after := by
  obtain ⟨rest, htext, hrun⟩ := h.behind
  cases hrun with
  | step hclass hafter => exact ⟨_, _, htext, ne_nil_of_classify hclass, rfl, hafter⟩

lemma Run.stop_eq {t : Token} {tokens : List Token} (h : Run lexer p text tokens)
    (ht : tokens.getLast? = some t) : t.span.stop = p.advanceBy text := by
  obtain ⟨before, rfl⟩ := List.getLast?_eq_some_iff.mp ht
  obtain ⟨taken, rest, htext, -, hspan, hafter⟩ := h.split
  cases hafter
  rw [htext, List.append_nil, Position.advanceBy_append, hspan]
  rfl

lemma Run.partition {source : String} {tokens : List Token}
    (h : Run lexer .start source.toList tokens) : Token.Partition source tokens := by
  have hcut : ∀ t ∈ tokens, t.CutFrom source ∧ t.text ≠ "" := by
    intro t ht
    obtain ⟨before, after, rfl⟩ := List.append_of_mem ht
    obtain ⟨taken, rest, htext, htaken, hspan, -⟩ := h.split
    have hsource : source =
        String.ofList ((Token.concatText before).toList ++ taken ++ rest) := by
      rw [List.append_assoc, ← htext, String.ofList_toList]
    have hcut := Token.CutFrom.of_append hsource htaken hspan
    refine ⟨hcut, fun hempty => ?_⟩
    have hpos := hcut.length_pos
    rw [hcut.length_eq, hempty] at hpos
    exact Nat.lt_irrefl 0 hpos
  refine ⟨fun t ht => (hcut t ht).2, ?_, ?_, h.isChain, fun t ht => h.stop_eq ht, ?_,
    fun t ht => (hcut t ht).1⟩
  · rw [h.concatText_eq, String.ofList_toList]
  · intro t ht
    obtain ⟨tokens, rfl⟩ := List.head?_eq_some_iff.mp ht
    exact h.start_eq
  · intro before t after htokens
    subst htokens
    obtain ⟨taken, rest, -, -, hspan, -⟩ := h.split
    rw [hspan]
    rfl

theorem tokenize_partition (lexer : Lexer) (source : String) :
    Token.Partition source (lexer.tokenize source).value ∧
      (∀ n, ((lexer.tokens source).value.after n).Sliceable source ∧
        ((lexer.tokens source).value.after n).next.value.1 = (lexer.tokenize source).value[n]?) ∧
      lexer.tokenize (Token.concatText (lexer.tokenize source).value) = lexer.tokenize source := by
  have hpartition := (lexer.run_tokenize source).partition
  refine ⟨hpartition, fun n => ⟨?_, Tokens.next_after _ n⟩, ?_⟩
  · exact ((Tokens.Within.start lexer source.toList).after n).sliceable
  · rw [hpartition.concatText_eq]

end Lexer

end Highlighting
