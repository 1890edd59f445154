import Highlighting.Position
import Mathlib.Data.String.Basic
import Mathlib.Tactic.Lemma

namespace Highlighting

@[simp]
lemma utf8Length_cons (c : Char) (text : List Char) :
    utf8Length (c :: text) = c.utf8Size + utf8Length text :=
  rfl

@[simp]
lemma utf8Length_append (text text' : List Char) :
    utf8Length (text ++ text') = utf8Length text + utf8Length text' := by
  induction text with
  | nil => exact (Nat.zero_add _).symm
  | cons c text ih => rw [List.cons_append, utf8Length_cons, utf8Length_cons, ih, Nat.add_assoc]

lemma utf8Length_pos {text : List Char} (h : text ≠ []) : 0 < utf8Length text := by
  cases text with
  | nil => exact absurd rfl h
  | cons c text =>
      have hc := c.utf8Size_pos
      simp only [utf8Length_cons]
      omega

lemma eq_of_utf8Length_eq {before before' after after' : List Char}
    (h : before ++ after = before' ++ after') (hlength : utf8Length before = utf8Length before') :
    before = before' := by
  have hempty : ∀ more, utf8Length more = 0 → more = [] := fun more hmore => by
    by_contra hne
    exact absurd hmore (utf8Length_pos hne).ne'
  rcases List.append_eq_append_iff.mp h with ⟨more, rfl, -⟩ | ⟨more, rfl, -⟩
  · rw [utf8Length_append] at hlength
    rw [hempty more (by omega), List.append_nil]
  · rw [utf8Length_append] at hlength
    rw [hempty more (by omega), List.append_nil]

lemma utf8Len_eq_utf8Length (text : List Char) : String.utf8Len text = utf8Length text := by
  induction text with
  | nil => rfl
  | cons c text ih =>
      simp only [String.utf8Len_cons, utf8Length_cons, ih]
      omega

lemma utf8ByteSize_ofList (text : List Char) :
    (String.ofList text).utf8ByteSize = utf8Length text := by
  rw [String.utf8ByteSize_ofList, utf8Len_eq_utf8Length]

lemma isValid_utf8Length (before after : List Char) :
    String.Pos.Raw.IsValid (String.ofList (before ++ after)) ⟨utf8Length before⟩ := by
  refine String.Pos.Raw.isValid_iff_exists_append.2
    ⟨String.ofList before, String.ofList after, String.ofList_append, ?_⟩
  rw [String.rawEndPos_ofList, utf8Len_eq_utf8Length]

lemma extract_utf8Length (before middle after : List Char) :
    String.Pos.Raw.extract (String.ofList (before ++ middle ++ after)) ⟨utf8Length before⟩
      ⟨utf8Length (before ++ middle)⟩ = String.ofList middle := by
  simpa only [utf8Len_eq_utf8Length, utf8Length_append]
    using String.extract_of_valid before middle after

lemma extract_to_end (before rest : List Char) :
    String.Pos.Raw.extract (String.ofList (before ++ rest)) ⟨utf8Length before⟩
      (String.ofList (before ++ rest)).rawEndPos = String.ofList rest := by
  have hextract := extract_utf8Length before rest []
  rw [List.append_nil] at hextract
  rw [String.rawEndPos_ofList, utf8Len_eq_utf8Length, hextract]

namespace Position

@[simp]
lemma advanceBy_cons (p : Position) (c : Char) (text : List Char) :
    p.advanceBy (c :: text) = (p.advance c).advanceBy text :=
  rfl

lemma byteOffset_advance (p : Position) (c : Char) :
    (p.advance c).byteOffset = p.byteOffset + c.utf8Size := by
  unfold advance
  split <;> rfl

lemma byteOffset_advanceBy (p : Position) (text : List Char) :
    (p.advanceBy text).byteOffset = p.byteOffset + utf8Length text := by
  induction text generalizing p with
  | nil => rfl
  | cons c text ih =>
      rw [advanceBy_cons, ih, byteOffset_advance, utf8Length_cons, Nat.add_assoc]

lemma byteOffset_start_advanceBy (text : List Char) :
    (start.advanceBy text).byteOffset = utf8Length text := by
  rw [byteOffset_advanceBy]
  exact Nat.zero_add _

def followedBy (p q : Position) : Position where
  line := p.line + q.line - 1
  column := if q.line = 1 then p.column + q.column - 1 else q.column
  byteOffset := p.byteOffset + q.byteOffset
  utf16Column := if q.line = 1 then p.utf16Column + q.utf16Column else q.utf16Column

structure FromOne (q : Position) : Prop where
  line : 1 ≤ q.line
  column : 1 ≤ q.column

lemma FromOne.start : FromOne start :=
  ⟨Nat.le_refl 1, Nat.le_refl 1⟩

lemma FromOne.advance {q : Position} (h : q.FromOne) (c : Char) : (q.advance c).FromOne := by
  unfold Position.advance
  split
  · exact ⟨Nat.le_succ_of_le h.line, Nat.le_refl 1⟩
  · exact ⟨h.line, Nat.le_succ_of_le h.column⟩

lemma FromOne.advanceBy {q : Position} (h : q.FromOne) (text : List Char) :
    (q.advanceBy text).FromOne := by
  induction text generalizing q with
  | nil => exact h
  | cons c text ih => exact ih (h.advance c)

lemma followedBy_start (p : Position) : p.followedBy start = p := by
  simp [followedBy, start]

lemma followedBy_advance (p : Position) {q : Position} (h : q.FromOne) (c : Char) :
    p.followedBy (q.advance c) = (p.followedBy q).advance c := by
  have hline := h.line
  have hcolumn := h.column
  by_cases hc : c = '\n'
  · -- A line feed leaves the first line, so from here on the columns are those of `q`.
    have hnext : q.line + 1 ≠ 1 := by omega
    simp only [followedBy, advance, if_pos hc, if_neg hnext, Position.mk.injEq, and_true, true_and]
    omega
  · simp only [followedBy, advance, if_neg hc, Position.mk.injEq, true_and]
    split <;> omega

lemma followedBy_advanceBy (p : Position) {q : Position} (h : q.FromOne) (text : List Char) :
    p.followedBy (q.advanceBy text) = (p.followedBy q).advanceBy text := by
  induction text generalizing q with
  | nil => rfl
  | cons c text ih =>
      rw [advanceBy_cons, ih (h.advance c), followedBy_advance p h, advanceBy_cons]

end Position

end Highlighting
