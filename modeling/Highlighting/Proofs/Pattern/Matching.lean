import Highlighting.Pattern.Search
import Mathlib.Logic.Relation
import Mathlib.Order.Bounds.Basic

/-! From where to where an expression matches, and the search for all that repeating it reaches. -/

namespace Highlighting

open Relation (ReflTransGen TransGen)

variable {text : List Char} {β : Type}

lemma Cursor.offset_add_length_rest (c : Cursor text) : c.offset + c.rest.length = text.length := by
  have hr := congrArg List.length c.rest_eq
  have hl := c.offset_le
  rw [List.length_drop] at hr
  omega

lemma Cursor.offset_lt {c d : Cursor text} (h : d.rest.length < c.rest.length) :
    c.offset < d.offset := by
  have hc := c.offset_add_length_rest
  have hd := d.offset_add_length_rest
  omega

lemma Cursor.next?_of_rest_nil {c : Cursor text} (h : c.rest = []) : c.next? = none := by
  unfold Cursor.next?
  split
  · rfl
  next x rest he =>
    rw [h] at he
    cases he

lemma Cursor.next?_of_rest_cons {c : Cursor text} {x : Char} {rest : List Char}
    (h : c.rest = x :: rest) : ∃ d : Cursor text, c.next? = some (x, d) ∧ d.rest = rest := by
  unfold Cursor.next?
  split
  next he =>
    rw [h] at he
    cases he
  next y tail he =>
    obtain ⟨rfl, rfl⟩ := List.cons.inj (h.symm.trans he)
    exact ⟨_, rfl, rfl⟩

lemma findSome?_add (found : Found text) (c : Cursor text) (f : Cursor text → Option β) :
    (found.add c).toList.findSome? f = (found.toList.findSome? f).or (f c) := by
  cases hc : found.contains c with
  | true =>
    have hm := Found.contains_iff.mp hc
    have he : found.add c = found := by simp [Found.add, hc]
    rw [he]
    cases hf : found.toList.findSome? f with
    | some b => rfl
    | none =>
      have hn := List.findSome?_eq_none_iff.mp hf c (List.mem_reverse.mpr hm)
      rw [hn]
      rfl
  | false =>
    simp [Found.toList, Found.places_add hc]

lemma findSome?_distinct (places : List (Cursor text)) (f : Cursor text → Option β) :
    (Cursor.distinct places).findSome? f = places.findSome? f := by
  have hfold : ∀ (ds : List (Cursor text)) (found : Found text),
      (ds.foldl Found.add found).toList.findSome? f =
        (found.toList.findSome? f).or (ds.findSome? f) := by
    intro ds
    induction ds with
    | nil => simp
    | cons d ds ih =>
      intro found
      rw [List.foldl_cons, ih, findSome?_add, Option.or_assoc, List.findSome?_cons]
      cases f d <;> rfl
  match places with
  | [] => rfl
  | [c] => rfl
  | c :: d :: ds => exact hfold (c :: d :: ds) .empty

lemma Found.mem_add_iff {found : Found text} {c d : Cursor text} :
    d ∈ (found.add c).places ↔ d = c ∨ d ∈ found.places := by
  cases hc : found.contains c with
  | true =>
    have hm := Found.contains_iff.mp hc
    simp only [Found.add, hc, if_true, iff_or_self]
    rintro rfl
    exact hm
  | false => rw [Found.places_add hc, List.mem_cons]

lemma Cursor.mem_distinct_iff {places : List (Cursor text)} {d : Cursor text} :
    d ∈ Cursor.distinct places ↔ d ∈ places := by
  have hmem : ∀ places : List (Cursor text),
      d ∈ places ↔ (places.findSome? fun c => if c = d then some c else none).isSome := by
    intro places
    simp [List.findSome?_isSome_iff]
  rw [hmem, hmem, findSome?_distinct]

namespace Regex

def Matches : Regex → Cursor text → Cursor text → Prop
  | empty, c, d => c = d
  | set s, c, d => ∃ x, c.next? = some (x, d) ∧ s.contains x
  | assert a, c, d => a.holds c ∧ c = d
  | cat r s, c, d => ∃ e, r.Matches c e ∧ s.Matches e d
  | alt r s, c, d => r.Matches c d ∨ s.Matches c d
  | opt _ r, c, d => c = d ∨ r.Matches c d
  | star _ r, c, d => ReflTransGen r.Matches c d
  | plus _ r, c, d => TransGen r.Matches c d

lemma Matches.offset_le {r : Regex} {c d : Cursor text} (h : r.Matches c d) :
    c.offset ≤ d.offset := by
  induction r generalizing c d with
  | empty => exact Nat.le_of_eq (congrArg _ h)
  | set s =>
    obtain ⟨x, hnext, -⟩ := h
    have := Cursor.offset_of_next? hnext
    omega
  | assert a => exact Nat.le_of_eq (congrArg _ h.2)
  | cat r s ihr ihs =>
    obtain ⟨e, hr, hs⟩ := h
    exact (ihr hr).trans (ihs hs)
  | alt r s ihr ihs => exact h.elim ihr ihs
  | opt greedy r ih =>
    rcases h with rfl | h
    · exact le_rfl
    · exact ih h
  | star greedy r ih =>
    induction h with
    | refl => exact le_rfl
    | tail _ hround hle => exact hle.trans (ih hround)
  | plus greedy r ih =>
    induction h with
    | single hround => exact ih hround
    | tail _ hround hle => exact hle.trans (ih hround)

lemma Matches.offset_lt {r : Regex} (hr : r.nullable = false) {c d : Cursor text}
    (h : r.Matches c d) : c.offset < d.offset := by
  induction r generalizing c d with
  | empty => exact nomatch hr
  | set s =>
    obtain ⟨x, hnext, -⟩ := h
    have := Cursor.offset_of_next? hnext
    omega
  | assert a => exact nomatch hr
  | cat r s ihr ihs =>
    obtain ⟨e, hre, hse⟩ := h
    rcases Bool.and_eq_false_iff.mp hr with hr | hs
    · exact (ihr hr hre).trans_le hse.offset_le
    · exact hre.offset_le.trans_lt (ihs hs hse)
  | alt r s ihr ihs =>
    obtain ⟨hr, hs⟩ := Bool.or_eq_false_iff.mp hr
    exact h.elim (ihr hr) (ihs hs)
  | opt greedy r ih => exact nomatch hr
  | star greedy r ih => exact nomatch hr
  | plus greedy r ih =>
    induction h with
    | single hround => exact ih hr hround
    | tail _ hround hlt => exact hlt.trans (ih hr hround)

lemma not_matches_of_anchored {r : Regex} (h : r.anchored) {c d : Cursor text}
    (hc : 0 < c.offset) : ¬r.Matches c d := by
  induction r generalizing c d with
  | empty => exact absurd h Bool.false_ne_true
  | set s => exact absurd h Bool.false_ne_true
  | assert a =>
    cases a with
    | textStart =>
      intro hmatch
      have hzero : c.offset = 0 := by simpa [Assertion.holds] using hmatch.1
      omega
    | textEnd => exact absurd h Bool.false_ne_true
    | lineStart => exact absurd h Bool.false_ne_true
    | lineEnd => exact absurd h Bool.false_ne_true
    | anyLineStart => exact absurd h Bool.false_ne_true
    | anyLineEnd => exact absurd h Bool.false_ne_true
    | word ascii edge => exact absurd h Bool.false_ne_true
  | cat r s ihr ihs =>
    rintro ⟨e, hre, hse⟩
    rcases Bool.or_eq_true_iff.mp h with hr | hs
    · exact ihr hr hc hre
    · exact ihs hs (hc.trans_le hre.offset_le) hse
  | alt r s ihr ihs =>
    obtain ⟨hr, hs⟩ := Bool.and_eq_true_iff.mp h
    rintro (hmatch | hmatch)
    · exact ihr hr hc hmatch
    · exact ihs hs hc hmatch
  | opt greedy r ih => exact absurd h Bool.false_ne_true
  | star greedy r ih => exact absurd h Bool.false_ne_true
  | plus greedy r ih =>
    intro hmatch
    obtain ⟨e, hround, -⟩ := TransGen.head'_iff.mp hmatch
    exact ih h hc hround

section Explore

variable {greedy : Bool} {step : Cursor text → List (Cursor text)}

/-- From all places but those that are `pending` the search has gone on. -/
def Closed (step : Cursor text → List (Cursor text)) (pending : List (Cursor text))
    (found : Found text) : Prop :=
  ∀ d ∈ found.places, d ∉ pending → ∀ e ∈ step d, e ∈ found.places

-- A lazy search finds a place before what lies behind it, so for a while the place is pending.
lemma Closed.add {pending : List (Cursor text)} {found : Found text}
    (h : Closed step pending found) (c : Cursor text) :
    Closed step (c :: pending) (found.add c) := by
  intro d hd hpending e he
  rcases Found.mem_add_iff.mp hd with rfl | hd
  · exact absurd List.mem_cons_self hpending
  · exact Found.mem_add_iff.mpr (Or.inr
      (h d hd (fun hd => hpending (List.mem_cons_of_mem c hd)) e he))

structure Extends (step : Cursor text → List (Cursor text)) (pending : List (Cursor text))
    (starts : List (Cursor text)) (found next : Found text) : Prop where
  keeps : ∀ d ∈ found.places, d ∈ next.places
  starts : ∀ d ∈ starts, d ∈ next.places
  closed : Closed step pending next

lemma extends_foldl {pending starts : List (Cursor text)}
    {f : Found text → Cursor text → Found text}
    (hf : ∀ d ∈ starts, ∀ found, Closed step pending found →
      Extends step pending [d] found (f found d)) {found : Found text}
    (h : Closed step pending found) :
    Extends step pending starts found (starts.foldl f found) := by
  induction starts generalizing found with
  | nil => exact ⟨fun d hd => hd, fun d hd => absurd hd List.not_mem_nil, h⟩
  | cons d ds ih =>
    have hfirst := hf d List.mem_cons_self found h
    have hrest := ih (fun e he => hf e (List.mem_cons_of_mem d he)) hfirst.closed
    refine ⟨fun e he => hrest.keeps e (hfirst.keeps e he), ?_, hrest.closed⟩
    intro e he
    rcases List.mem_cons.mp he with rfl | he
    · exact hrest.keeps e (hfirst.starts e List.mem_cons_self)
    · exact hrest.starts e he

lemma extends_explore (hstep : ∀ c, ∀ d ∈ step c, c.offset < d.offset)
    {pending : List (Cursor text)} {found : Found text} (h : Closed step pending found)
    (c : Cursor text) : Extends step pending [c] found (explore greedy step found c) := by
  induction hn : text.length - c.offset using Nat.strong_induction_on
    generalizing c pending found with
  | _ n ih =>
    have hfurther : ∀ {pending : List (Cursor text)} {found : Found text},
        Closed step pending found → Extends step pending (step c) found ((step c).foldl
          (fun found d => if _h : c.offset < d.offset then explore greedy step found d else found)
          found) := by
      intro pending found h
      refine extends_foldl (fun d hd found h => ?_) h
      have hlt := hstep c d hd
      have hle := d.offset_le
      rw [dif_pos hlt]
      exact ih _ (by omega) h d rfl
    rw [explore]
    split
    next hfound =>
      refine ⟨fun d hd => hd, fun d hd => ?_, h⟩
      rw [List.mem_singleton.mp hd]
      exact Found.contains_iff.mp hfound
    next =>
      cases greedy with
      | true =>
        have hf := hfurther h
        refine ⟨fun d hd => Found.mem_add_iff.mpr (Or.inr (hf.keeps d hd)), fun d hd => ?_, ?_⟩
        · exact Found.mem_add_iff.mpr (Or.inl (List.mem_singleton.mp hd))
        · intro d hd hpending e he
          rcases Found.mem_add_iff.mp hd with rfl | hd
          · exact Found.mem_add_iff.mpr (Or.inr (hf.starts e he))
          · exact Found.mem_add_iff.mpr (Or.inr (hf.closed d hd hpending e he))
      | false =>
        have hf := hfurther (h.add c)
        refine ⟨fun d hd => hf.keeps d (Found.mem_add_iff.mpr (Or.inr hd)), fun d hd => ?_, ?_⟩
        · exact hf.keeps d (Found.mem_add_iff.mpr (Or.inl (List.mem_singleton.mp hd)))
        · intro d hd hpending e he
          by_cases hdc : d = c
          · subst hdc
            exact hf.starts e he
          · exact hf.closed d hd (by simp [hdc, hpending]) e he

lemma reaches_of_mem_explore {found : Found text} {c e : Cursor text}
    (h : e ∈ (explore greedy step found c).places) :
    e ∈ found.places ∨ ReflTransGen (fun c d => d ∈ step c) c e := by
  induction hn : text.length - c.offset using Nat.strong_induction_on generalizing found c with
  | _ n ih =>
    have hfurther : ∀ (ds : List (Cursor text)) (found : Found text), (∀ d ∈ ds, d ∈ step c) →
        e ∈ (ds.foldl (fun found d => if _h : c.offset < d.offset then explore greedy step found d
          else found) found).places →
        e ∈ found.places ∨ ReflTransGen (fun c d => d ∈ step c) c e := by
      intro ds
      induction ds with
      | nil => exact fun found _ he => Or.inl he
      | cons d ds ihds =>
        intro found hds he
        rcases ihds _ (fun d' hd' => hds d' (List.mem_cons_of_mem d hd')) he with he | he
        · dsimp only at he
          split at he
          next hlt =>
            have hle := d.offset_le
            rcases ih _ (by omega) he rfl with hfound | hd
            · exact Or.inl hfound
            · exact Or.inr (hd.head (hds d List.mem_cons_self))
          next => exact Or.inl he
        · exact Or.inr he
    have hstep : ∀ d ∈ step c, d ∈ step c := fun d hd => hd
    rw [explore] at h
    split at h
    · exact Or.inl h
    · cases greedy with
      | true =>
        rcases Found.mem_add_iff.mp h with rfl | h
        · exact Or.inr .refl
        · exact hfurther _ _ hstep h
      | false =>
        rcases hfurther _ _ hstep h with h | h
        · rcases Found.mem_add_iff.mp h with rfl | h
          · exact Or.inr .refl
          · exact Or.inl h
        · exact Or.inr h

lemma mem_foldl_explore_iff (hstep : ∀ c, ∀ d ∈ step c, c.offset < d.offset)
    {starts : List (Cursor text)} {e : Cursor text} :
    e ∈ (starts.foldl (explore greedy step) .empty).places ↔
      ∃ d ∈ starts, ReflTransGen (fun c d => d ∈ step c) d e := by
  constructor
  · have hsound : ∀ (starts : List (Cursor text)) (found : Found text),
        e ∈ (starts.foldl (explore greedy step) found).places →
        e ∈ found.places ∨ ∃ d ∈ starts, ReflTransGen (fun c d => d ∈ step c) d e := by
      intro starts
      induction starts with
      | nil => exact fun found he => Or.inl he
      | cons d ds ih =>
        intro found he
        rcases ih _ he with he | ⟨d', hd', he⟩
        · exact (reaches_of_mem_explore he).imp_right fun he => ⟨d, List.mem_cons_self, he⟩
        · exact Or.inr ⟨d', List.mem_cons_of_mem d hd', he⟩
    exact fun he => (hsound starts .empty he).resolve_left List.not_mem_nil
  · rintro ⟨d, hd, hreach⟩
    have hall : Extends step [] starts .empty (starts.foldl (explore greedy step) .empty) :=
      extends_foldl (fun c _ _ h => extends_explore hstep h c)
        (fun c hc => absurd hc List.not_mem_nil)
    induction hreach with
    | refl => exact hall.starts d hd
    | tail _ hround ih => exact hall.closed _ ih List.not_mem_nil _ hround

end Explore

end Regex

end Highlighting
