import Highlighting.Proofs.Lexer.Partition
import Mathlib.Data.List.DropRight

namespace Highlighting

lemma utf16Length_append (text text' : List Char) :
    utf16Length (text ++ text') = utf16Length text + utf16Length text' := by
  induction text with
  | nil => exact (Nat.zero_add _).symm
  | cons c text ih =>
    change utf16Size c + utf16Length (text ++ text') = utf16Size c + utf16Length text + _
    rw [ih, Nat.add_assoc]

lemma utf16Length_singleton (c : Char) : utf16Length [c] = utf16Size c :=
  rfl

def lastLine (text : List Char) : List Char :=
  text.rtakeWhile (· ≠ '\n')

lemma lastLine_concat (text : List Char) (c : Char) :
    lastLine (text ++ [c]) = if c = '\n' then [] else lastLine text ++ [c] := by
  rw [lastLine, List.rtakeWhile_concat]
  by_cases hc : c = '\n' <;> simp [hc, lastLine]

namespace Position

def behind (p : Position) (text : String) : Position where
  line := p.line + text.toList.count '\n'
  column :=
    if '\n' ∈ text.toList then 1 + (lastLine text.toList).length else p.column + text.length
  byteOffset := p.byteOffset + text.utf8ByteSize
  utf16Column :=
    if '\n' ∈ text.toList then utf16Length (lastLine text.toList)
    else p.utf16Column + utf16Length text.toList

lemma behind_empty (p : Position) : p.behind "" = p := by
  simp [behind, utf16Length]

lemma behind_concat (p : Position) (text : List Char) (c : Char) :
    p.behind (String.ofList (text ++ [c])) = (p.behind (String.ofList text)).advance c := by
  have hbytes : utf8Length [c] = c.utf8Size := Nat.add_zero _
  simp only [behind, advance, String.toList_ofList, String.length_ofList, utf8ByteSize_ofList,
    utf8Length_append, hbytes, lastLine_concat, utf16Length_append, utf16Length_singleton]
  by_cases hc : c = '\n'
  · -- A line feed begins a new last line, which is empty yet.
    subst hc
    simp [utf16Length, Nat.add_assoc]
  · -- Any other character leaves the line feeds as they are and makes the last line longer.
    have hfeed : '\n' ∈ text ++ [c] ↔ '\n' ∈ text := by simp [Ne.symm hc]
    simp only [if_neg hc, hfeed]
    by_cases htext : '\n' ∈ text <;>
      simp [htext, hc, Nat.add_assoc, utf16Length_append, utf16Length_singleton]

lemma advanceBy_eq_behind (p : Position) (text : List Char) :
    p.advanceBy text = p.behind (String.ofList text) := by
  induction text using List.reverseRecOn with
  | nil => exact p.behind_empty.symm
  | append_singleton text c ih =>
    rw [advanceBy_append, ih, behind_concat]
    rfl

lemma advancedBy_append (p : Position) (text text' : String) :
    p.advancedBy (text ++ text') = (p.advancedBy text).advancedBy text' := by
  simp only [advancedBy, String.toList_append, advanceBy_append]

end Position

lemma Lexer.Run.span_eq {lexer : Lexer} {p : Position} {text : List Char}
    {before after : List Token} {t : Token} (h : Run lexer p text (before ++ t :: after)) :
    t.span = ⟨p.advancedBy (Token.concatText before),
      p.advancedBy (Token.concatText before ++ t.text)⟩ := by
  obtain ⟨taken, -, -, -, ht, -⟩ := h.split
  rw [ht, Position.advancedBy_append]
  simp only [Token.startingAt, Position.advancedBy, String.toList_ofList]

theorem Position.advancedBy_eq_behind :
    (∀ (p : Position) (text : String), p.advancedBy text = p.behind text) ∧
      (∀ (p : Position) (text text' : String),
        p.advancedBy (text ++ text') = (p.advancedBy text).advancedBy text') ∧
      ∀ (lexer : Lexer) (source : String),
        let tokens := (lexer.tokenize source).value
        ∀ i : Fin tokens.length,
          let before := Token.concatText (tokens.take i)
          (∃ rest, source = before ++ tokens[i].text ++ rest) ∧
            tokens[i].span =
              ⟨Position.start.behind before, Position.start.behind (before ++ tokens[i].text)⟩ := by
  have hbehind : ∀ (p : Position) (text : String), p.advancedBy text = p.behind text :=
    fun p text => by rw [advancedBy, advanceBy_eq_behind, String.ofList_toList]
  refine ⟨hbehind, advancedBy_append, ?_⟩
  intro lexer source tokens i before
  have hrun : Lexer.Run lexer .start source.toList
      (tokens.take i ++ tokens[i] :: tokens.drop (i + 1)) := by
    simpa using lexer.run_tokenize source
  constructor
  · refine ⟨Token.concatText (tokens.drop (i + 1)), ?_⟩
    have hconcat := hrun.concatText_eq
    rw [Token.concatText_append, Token.concatText_cons, String.ofList_toList] at hconcat
    rw [String.append_assoc]
    exact hconcat.symm
  · rw [hrun.span_eq, hbehind, hbehind]

example : Position.start.behind "a\n😀b" = ⟨2, 3, 7, 3⟩ := by decide

end Highlighting
