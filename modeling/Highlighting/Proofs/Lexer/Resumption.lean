import Highlighting.Proofs.Lexer.Partition

/-! Tokens behind a token boundary are those of the text behind it: a run can be taken up again
wherever a token ends. -/

namespace Highlighting

def Token.boundary (tokens : List Token) (k : Nat) : Position :=
  (tokens.take k).getLast?.elim .start (·.span.stop)

namespace Lexer

variable {lexer : Lexer}

lemma Run.boundary_eq {text : List Char} {tokens : List Token} (h : Run lexer .start text tokens)
    (k : Nat) :
    Token.boundary tokens k = Position.start.advancedBy (Token.concatText (tokens.take k)) := by
  unfold Token.boundary
  cases hlast : (tokens.take k).getLast? with
  | none =>
    rw [List.getLast?_eq_none_iff.mp hlast]
    rfl
  | some t =>
    obtain ⟨before, hbefore⟩ := List.getLast?_eq_some_iff.mp hlast
    have htokens : tokens = before ++ t :: tokens.drop k := by
      rw [← List.singleton_append, ← List.append_assoc, ← hbefore, List.take_append_drop]
    rw [htokens] at h
    obtain ⟨taken, -, -, -, ht, -⟩ := h.split
    have htext : Token.concatText [t] = String.ofList taken := by
      rw [ht, Token.concatText_cons]
      exact String.append_empty
    rw [hbefore, Token.concatText_append, htext, Position.advancedBy, String.toList_append,
      String.toList_ofList, Position.advanceBy_append]
    exact congrArg (·.span.stop) ht

lemma Run.concatText_take_of_boundary {a rest : List Char} {tokens : List Token} {k : Nat}
    (h : Run lexer .start (a ++ rest) tokens)
    (hboundary : Token.boundary tokens k = Position.start.advanceBy a) :
    (Token.concatText (tokens.take k)).toList = a := by
  have htext : (Token.concatText (tokens.take k)).toList ++
      (Token.concatText (tokens.drop k)).toList = a ++ rest := by
    rw [← String.toList_append, ← Token.concatText_append, List.take_append_drop, h.concatText_eq,
      String.toList_ofList]
  have hoffset := congrArg Position.byteOffset ((h.boundary_eq k).symm.trans hboundary)
  rw [Position.advancedBy, Position.byteOffset_start_advanceBy,
    Position.byteOffset_start_advanceBy] at hoffset
  exact eq_of_utf8Length_eq htext hoffset

theorem tokenize_behind_boundary (lexer : Lexer) (source : String) (k : Nat) :
    let tokens := (lexer.tokenize source).value
    let cut := Token.boundary tokens k
    let suffix := String.Pos.Raw.extract source ⟨cut.byteOffset⟩ source.rawEndPos
    String.Pos.Raw.IsValid source ⟨cut.byteOffset⟩ ∧
      (lexer.tokenize suffix).value.map (Token.movedBy cut) = tokens.drop k := by
  intro tokens cut suffix
  have hrun : Run lexer .start source.toList tokens := lexer.run_tokenize source
  have hcut : cut = Position.start.advancedBy (Token.concatText (tokens.take k)) :=
    hrun.boundary_eq k
  rw [← List.take_append_drop k tokens] at hrun
  obtain ⟨rest, hsource, hbehind⟩ := hrun.behind
  rw [← hcut] at hbehind
  have hstring : source = String.ofList ((Token.concatText (tokens.take k)).toList ++ rest) := by
    rw [← hsource, String.ofList_toList]
  have hoffset : cut.byteOffset = utf8Length (Token.concatText (tokens.take k)).toList := by
    rw [hcut]
    exact Position.byteOffset_start_advanceBy _
  have hsuffix : suffix = String.ofList rest := by
    simp only [suffix, hoffset, hstring]
    exact extract_to_end _ rest
  have hagain := (lexer.run_tokenize suffix).movedBy Position.FromOne.start cut
  rw [Position.followedBy_start, hsuffix, String.toList_ofList, ← hsuffix] at hagain
  refine ⟨?_, hagain.unique hbehind⟩
  rw [hoffset, hstring]
  exact isValid_utf8Length _ rest

end Lexer

end Highlighting
