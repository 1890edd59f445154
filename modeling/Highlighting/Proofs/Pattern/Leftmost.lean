import Highlighting.Proofs.Pattern.Walking

namespace Highlighting

variable {text : List Char}

namespace Regex

lemma ends_eq_nil_iff {r : Regex} {c : Cursor text} :
    r.ends c = [] ↔ ∀ d, ¬r.Matches c d := by
  simp only [List.eq_nil_iff_forall_not_mem, mem_ends_iff]

structure LeftmostMatch (r : Regex) (first last : Cursor text) : Prop where
  preferred : (r.ends first).head? = some last
  leftmost : ∀ earlier d : Cursor text, earlier.offset < first.offset → ¬r.Matches earlier d

lemma findFrom_spec (r : Regex) {c : Cursor text}
    (hbefore : ∀ earlier d : Cursor text, earlier.offset < c.offset → ¬r.Matches earlier d) :
    (∃ first last, r.findFrom c = some (first, last) ∧ r.LeftmostMatch first last) ∨
      r.findFrom c = none ∧ ∀ c d : Cursor text, ¬r.Matches c d := by
  induction hn : text.length - c.offset using Nat.strong_induction_on generalizing c with
  | _ n ih =>
    rw [findFrom]
    cases hends : (r.ends c).head? with
    | some d => exact Or.inl ⟨c, d, rfl, hends, hbefore⟩
    | none =>
      have hhere : ∀ e d : Cursor text, e.offset < c.offset + 1 → ¬r.Matches e d := by
        intro e d he
        by_cases hlt : e.offset < c.offset
        · exact hbefore e d hlt
        · obtain rfl : e = c := Cursor.ext_offset (by omega)
          exact ends_eq_nil_iff.mp (List.head?_eq_none_iff.mp hends) d
      simp only
      split
      next x d hnext =>
        have hoffset := Cursor.offset_of_next? hnext
        have hle := d.offset_le
        apply ih _ (by omega) ?_ rfl
        rwa [hoffset]
      next hnext =>
        refine Or.inr ⟨rfl, fun e d => hhere e d ?_⟩
        have hrest : c.rest = [] := by
          by_contra hne
          obtain ⟨x, rest, hcons⟩ := List.exists_cons_of_ne_nil hne
          obtain ⟨d, hd, -⟩ := Cursor.next?_of_rest_cons hcons
          cases hnext.symm.trans hd
        have hlength := c.offset_add_length_rest
        have hle := e.offset_le
        rw [hrest, List.length_nil] at hlength
        omega

lemma find?_spec (r : Regex) (text : List Char) :
    (∃ first last, r.find? text = some (first, last) ∧ r.LeftmostMatch first last) ∨
      r.find? text = none ∧ ∀ c d : Cursor text, ¬r.Matches c d := by
  rw [find?]
  split
  next hanchored =>
    cases hends : (r.ends (Cursor.start text)).head? with
    | some d => exact Or.inl ⟨_, d, rfl, hends, fun earlier d h => absurd h (Nat.not_lt_zero _)⟩
    | none =>
      refine Or.inr ⟨rfl, fun c d => ?_⟩
      rcases Nat.eq_zero_or_pos c.offset with hzero | hpos
      · obtain rfl : c = Cursor.start text := Cursor.ext_offset hzero
        exact ends_eq_nil_iff.mp (List.head?_eq_none_iff.mp hends) d
      · exact not_matches_of_anchored hanchored hpos
  next => exact findFrom_spec r fun earlier d h => absurd h (Nat.not_lt_zero _)

end Regex

end Highlighting
