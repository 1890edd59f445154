import Highlighting.Token
import Mathlib.Data.List.Chain
import Mathlib.Data.List.Sort
import Mathlib.Tactic.Lemma

/-! What a list of decorations paints. A decoration is needed where the category changes, and
nowhere else, so a list without needless ones is told by what it paints. -/

namespace Highlighting.Decoration

/-- The category of the byte at `b`: that of the last decoration that begins there or before. -/
def categoryAt? (ds : List Decoration) (b : Nat) : Option Category :=
  (ds.filter fun d => d.offset ≤ b).getLast?.map category

lemma filter_eq_nil_of_lt {ds : List Decoration} {b : Nat} (h : ∀ d ∈ ds, b < d.offset) :
    (ds.filter fun d => d.offset ≤ b) = [] := by
  rw [List.filter_eq_nil_iff]
  intro d hd
  have := h d hd
  rw [decide_eq_true_eq]
  omega

lemma categoryAt?_eq_none {ds : List Decoration} {b : Nat} (h : ∀ d ∈ ds, b < d.offset) :
    categoryAt? ds b = none := by
  rw [categoryAt?, filter_eq_nil_of_lt h]
  rfl

lemma categoryAt?_append_cons (before : List Decoration) {d : Decoration} {after : List Decoration}
    {b : Nat} (hd : d.offset ≤ b) (hafter : ∀ e ∈ after, b < e.offset) :
    categoryAt? (before ++ d :: after) b = some d.category := by
  have hfront : (d :: after).filter (fun e => e.offset ≤ b) = [d] := by
    rw [List.filter_cons, if_pos (decide_eq_true hd), filter_eq_nil_of_lt hafter]
  rw [categoryAt?, List.filter_append, hfront, List.getLast?_concat]
  rfl

lemma categoryAt?_cons (d : Decoration) (ds : List Decoration) (b : Nat) :
    categoryAt? (d :: ds) b =
      (categoryAt? ds b).or (if d.offset ≤ b then some d.category else none) := by
  unfold categoryAt?
  rw [List.filter_cons]
  by_cases hd : d.offset ≤ b
  · rw [if_pos (decide_eq_true hd), if_pos hd, List.getLast?_cons]
    cases (ds.filter fun e => e.offset ≤ b).getLast? <;> rfl
  · rw [if_neg (by simpa using hd), if_neg hd, Option.or_none]

lemma mem_offsets_of_change {ds : List Decoration} {b : Nat}
    (h : categoryAt? ds b ≠ categoryAt? ds (b + 1)) : b + 1 ∈ ds.map offset := by
  by_contra hb
  refine h (congrArg (fun es => (List.getLast? es).map category) (List.filter_congr ?_))
  intro d hd
  have hne : d.offset ≠ b + 1 := fun he => hb (List.mem_map.mpr ⟨d, hd, he⟩)
  rw [decide_eq_decide]
  omega

structure Layout (bytes : Nat) (ds : List Decoration) : Prop where
  first : 0 < bytes → ds.head?.map offset = some 0
  increasing : ds.Pairwise fun d e => d.offset < e.offset
  within : ∀ d ∈ ds, d.offset < bytes

def Changing (ds : List Decoration) : Prop :=
  ds.IsChain fun d e => d.category ≠ e.category

section Layout

variable {bytes : Nat} {ds es : List Decoration} {d : Decoration}

lemma Layout.categoryAt?_offset (h : Layout bytes ds) (hd : d ∈ ds) :
    categoryAt? ds d.offset = some d.category := by
  obtain ⟨before, after, rfl⟩ := List.append_of_mem hd
  have hafter := List.pairwise_cons.mp (List.pairwise_append.mp h.increasing).2.1
  exact categoryAt?_append_cons before (Nat.le_refl _) hafter.1

lemma Layout.eq_nil (h : Layout 0 ds) : ds = [] :=
  List.eq_nil_iff_forall_not_mem.mpr fun d hd => Nat.not_lt_zero _ (h.within d hd)

lemma Layout.sublist (h : Layout bytes ds) (hes : es.Sublist ds) (hhead : es.head? = ds.head?) :
    Layout bytes es where
  first hbytes := by
    rw [hhead]
    exact h.first hbytes
  increasing := h.increasing.sublist hes
  within d hd := h.within d (hes.subset hd)

lemma Layout.zero_mem (h : Layout bytes ds) (hbytes : 0 < bytes) : 0 ∈ ds.map offset := by
  have hfirst := h.first hbytes
  cases ds with
  | nil => exact nomatch hfirst
  | cons d ds => exact List.mem_cons.mpr (Or.inl (Option.some.inj hfirst).symm)

lemma Layout.change (h : Layout bytes ds) (hds : Changing ds) (hd : d ∈ ds) :
    d.offset = 0 ∨
      ∃ b, d.offset = b + 1 ∧ categoryAt? ds b ≠ categoryAt? ds (b + 1) := by
  have hat := h.categoryAt?_offset hd
  obtain ⟨before, after, rfl⟩ := List.append_of_mem hd
  rcases List.eq_nil_or_concat before with rfl | ⟨front, e, rfl⟩
  · have hbytes : 0 < bytes := Nat.zero_lt_of_lt (h.within d hd)
    exact Or.inl (Option.some.inj (h.first hbytes))
  · rw [List.concat_eq_append, List.append_assoc, List.singleton_append] at h hds hat ⊢
    have htail := List.pairwise_cons.mp (List.pairwise_append.mp h.increasing).2.1
    have hafter := List.pairwise_cons.mp htail.2
    have hlt : e.offset < d.offset := htail.1 d List.mem_cons_self
    obtain ⟨b, hb⟩ : ∃ b, d.offset = b + 1 := ⟨d.offset - 1, by omega⟩
    -- The last byte before `d` is painted by the decoration before it.
    have hbefore : categoryAt? (front ++ e :: d :: after) b = some e.category := by
      apply categoryAt?_append_cons front (by omega)
      intro x hx
      rcases List.mem_cons.mp hx with rfl | hx
      · omega
      · have := hafter.1 x hx
        omega
    have hne : e.category ≠ d.category := (List.isChain_append_cons_cons.mp hds).2.1
    refine Or.inr ⟨b, hb, ?_⟩
    rw [hbefore, ← hb, hat]
    exact fun he => hne (Option.some.inj he)

lemma Layout.offsets_subset (h : Layout bytes ds) (h' : Layout bytes es) (hds : Changing ds)
    (hpaint : ∀ b < bytes, categoryAt? ds b = categoryAt? es b) :
    ds.map offset ⊆ es.map offset := by
  intro b hb
  obtain ⟨d, hd, rfl⟩ := List.mem_map.mp hb
  have hwithin := h.within d hd
  rcases h.change hds hd with hzero | ⟨b, hoffset, hchange⟩
  · rw [hzero]
    exact h'.zero_mem (Nat.zero_lt_of_lt hwithin)
  · rw [hpaint b (by omega), hpaint (b + 1) (by omega)] at hchange
    rw [hoffset]
    exact mem_offsets_of_change hchange

lemma Layout.offsets_increasing (h : Layout bytes ds) : (ds.map offset).Pairwise (· < ·) :=
  List.pairwise_map.mpr h.increasing

lemma Layout.length_le (h : Layout bytes ds) (h' : Layout bytes es) (hds : Changing ds)
    (hpaint : ∀ b < bytes, categoryAt? ds b = categoryAt? es b) : ds.length ≤ es.length := by
  have hle := h.offsets_increasing.nodup.length_le_of_subset (h.offsets_subset h' hds hpaint)
  rwa [List.length_map, List.length_map] at hle

lemma Layout.eq_of_categoryAt? (h : Layout bytes ds) (h' : Layout bytes es) (hds : Changing ds)
    (hes : Changing es) (hpaint : ∀ b < bytes, categoryAt? ds b = categoryAt? es b) : ds = es := by
  have hoffsets : ds.map offset = es.map offset :=
    List.Subset.antisymm_of_pairwise h.offsets_increasing h'.offsets_increasing
      (h.offsets_subset h' hds hpaint)
      (h'.offsets_subset h hes fun b hb => (hpaint b hb).symm)
  -- A decoration is its offset with what is painted there.
  have hread : ∀ {cs : List Decoration}, Layout bytes cs →
      cs.map (fun d => (d.offset, some d.category)) =
        (cs.map offset).map fun b => (b, categoryAt? cs b) := by
    intro cs hcs
    rw [List.map_map]
    exact List.map_congr_left fun d hd => by rw [Function.comp, hcs.categoryAt?_offset hd]
  have hsame : (es.map offset).map (fun b => (b, categoryAt? ds b)) =
      (es.map offset).map fun b => (b, categoryAt? es b) := by
    refine List.map_congr_left fun b hb => ?_
    obtain ⟨e, he, rfl⟩ := List.mem_map.mp hb
    rw [hpaint _ (h'.within e he)]
  have hmap := (hread h).trans ((congrArg _ hoffsets).trans (hsame.trans (hread h').symm))
  refine List.map_injective_iff.mpr ?_ hmap
  rintro ⟨b, category⟩ ⟨b', category'⟩ heq
  simpa using heq

end Layout

end Highlighting.Decoration
