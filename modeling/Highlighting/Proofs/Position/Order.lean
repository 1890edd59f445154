import Highlighting.Proofs.Lexer.Partition
import Mathlib.Data.Prod.Lex

namespace Highlighting

namespace Position

def place (p : Position) : ℕ ×ₗ ℕ :=
  toLex (p.line, p.column)

def utf16Place (p : Position) : ℕ ×ₗ ℕ :=
  toLex (p.line, p.utf16Column)

section Grows

variable {α : Type} [LinearOrder α]

def Grows (f : Position → α) : Prop :=
  ∀ p c, f p < f (p.advance c)

variable {f : Position → α} (hf : Grows f)
include hf

lemma Grows.le_advanceBy (p : Position) (text : List Char) : f p ≤ f (p.advanceBy text) := by
  induction text generalizing p with
  | nil => exact le_refl _
  | cons c text ih => exact (hf p c).le.trans (ih (p.advance c))

lemma Grows.lt_advanceBy (p : Position) {text : List Char} (h : text ≠ []) :
    f p < f (p.advanceBy text) := by
  obtain ⟨c, text, rfl⟩ := List.exists_cons_of_ne_nil h
  exact (hf p c).trans_le (hf.le_advanceBy (p.advance c) text)

lemma Grows.lt_of_length_lt (p : Position) {source before before' : List Char}
    (h : before <+: source) (h' : before' <+: source) (hlength : before.length < before'.length) :
    f (p.advanceBy before) < f (p.advanceBy before') := by
  obtain ⟨more, rfl⟩ := List.prefix_of_prefix_length_le h h' hlength.le
  rw [advanceBy_append]
  apply hf.lt_advanceBy
  rintro rfl
  simp at hlength

lemma Grows.lt_iff (p : Position) {source before before' : List Char}
    (h : before <+: source) (h' : before' <+: source) :
    f (p.advanceBy before) < f (p.advanceBy before') ↔ before.length < before'.length := by
  refine ⟨fun hlt => ?_, hf.lt_of_length_lt p h h'⟩
  by_contra hlength
  rcases Nat.lt_or_eq_of_le (Nat.le_of_not_lt hlength) with hlength | hlength
  · exact lt_asymm hlt (hf.lt_of_length_lt p h' h hlength)
  · -- Of two equally long beginnings of one text there is only one.
    have heq := (List.prefix_of_prefix_length_le h' h hlength.le).eq_of_length hlength
    exact hlt.ne (by rw [heq])

lemma Grows.eq_iff (p : Position) {source before before' : List Char}
    (h : before <+: source) (h' : before' <+: source) :
    f (p.advanceBy before) = f (p.advanceBy before') ↔ before = before' := by
  refine ⟨fun heq => ?_, fun heq => by rw [heq]⟩
  have hlt := (hf.lt_iff p h h').not.mp heq.not_lt
  have hgt := (hf.lt_iff p h' h).not.mp heq.not_gt
  exact (List.prefix_of_prefix_length_le h h' (by omega)).eq_of_length (by omega)

end Grows

lemma grows_byteOffset : Grows byteOffset := by
  intro p c
  have hc := c.utf8Size_pos
  rw [byteOffset_advance]
  omega

lemma grows_place : Grows place := by
  intro p c
  apply Prod.Lex.toLex_lt_toLex.mpr
  by_cases hc : c = '\n' <;> simp [advance, hc]

lemma utf16Size_pos (c : Char) : 0 < utf16Size c := by
  rw [utf16Size]
  split <;> omega

lemma grows_utf16Place : Grows utf16Place := by
  intro p c
  apply Prod.Lex.toLex_lt_toLex.mpr
  by_cases hc : c = '\n' <;> simp [advance, hc, utf16Size_pos]

def behindFirst (source : String) (n : ℕ) : Position :=
  start.advancedBy (String.ofList (source.toList.take n))

lemma behindFirst_eq (source : String) (n : ℕ) :
    behindFirst source n = start.advanceBy (source.toList.take n) := by
  rw [behindFirst, advancedBy, String.toList_ofList]

end Position

namespace Lexer

variable {α : Type} [LinearOrder α] {f : Position → α} {lexer : Lexer} {p : Position}
  {text : List Char} {tokens : List Token}

lemma Run.le_start (h : Run lexer p text tokens) (hf : Position.Grows f) :
    ∀ t ∈ tokens, f p ≤ f t.span.start := by
  induction h with
  | stop p => exact fun t ht => absurd ht List.not_mem_nil
  | @step p taken rest category tokens hclass hrun ih =>
    intro t ht
    rcases List.mem_cons.mp ht with rfl | ht
    · exact le_refl (f p)
    · exact (hf.le_advanceBy p taken).trans (ih t ht)

lemma Run.start_increasing (h : Run lexer p text tokens) (hf : Position.Grows f) :
    tokens.Pairwise fun t t' => f t.span.start < f t'.span.start := by
  induction h with
  | stop p => exact List.Pairwise.nil
  | @step p taken rest category tokens hclass hrun ih =>
    refine List.Pairwise.cons (fun t ht => ?_) ih
    exact (hf.lt_advanceBy p (ne_nil_of_classify hclass)).trans_le (hrun.le_start hf t ht)

end Lexer

theorem Position.orders_agree (source : String) :
    (∀ n n' : ℕ,
      let p := behindFirst source n
      let q := behindFirst source n'
      (p.byteOffset < q.byteOffset ↔ p.place < q.place) ∧
        (p.byteOffset < q.byteOffset ↔ p.utf16Place < q.utf16Place) ∧
        (p.byteOffset = q.byteOffset ↔ source.toList.take n = source.toList.take n') ∧
        (p.place = q.place ↔ source.toList.take n = source.toList.take n') ∧
        (p.utf16Place = q.utf16Place ↔ source.toList.take n = source.toList.take n')) ∧
      ∀ lexer : Lexer, (lexer.tokenize source).value.Pairwise fun t t' =>
        t.span.start.byteOffset < t'.span.start.byteOffset ∧
          t.span.start.place < t'.span.start.place ∧
          t.span.start.utf16Place < t'.span.start.utf16Place := by
  constructor
  · intro n n' p q
    have hn := List.take_prefix n source.toList
    have hn' := List.take_prefix n' source.toList
    simp only [p, q, behindFirst_eq]
    refine ⟨?_, ?_, grows_byteOffset.eq_iff start hn hn', grows_place.eq_iff start hn hn',
      grows_utf16Place.eq_iff start hn hn'⟩
    · rw [grows_byteOffset.lt_iff start hn hn', grows_place.lt_iff start hn hn']
    · rw [grows_byteOffset.lt_iff start hn hn', grows_utf16Place.lt_iff start hn hn']
  · intro lexer
    have hrun := lexer.run_tokenize source
    exact (hrun.start_increasing grows_byteOffset).and
      ((hrun.start_increasing grows_place).and (hrun.start_increasing grows_utf16Place))

end Highlighting
