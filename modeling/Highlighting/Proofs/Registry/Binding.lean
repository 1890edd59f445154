import Highlighting.Proofs.Lookup.Keys
import Highlighting.Registry
import Mathlib.Data.Finset.Card

namespace Highlighting.Registry

structure ValidName (name : String) : Prop where
  ne_empty : name ≠ ""
  no_white_space : ∀ c ∈ name.toList, Property.isWhiteSpace c = false

lemma isValidName_iff (name : String) : isValidName name = true ↔ ValidName name := by
  have hempty : name.toList.isEmpty = false ↔ name ≠ "" := by
    rw [List.isEmpty_eq_false_iff, ne_eq, ne_eq, String.toList_eq_nil_iff]
  simp only [isValidName, Bool.and_eq_true, Bool.not_eq_true', hempty, List.any_eq_false,
    Bool.not_eq_true]
  exact ⟨fun ⟨h, h'⟩ => ⟨h, h'⟩, fun h => ⟨h.ne_empty, h.no_white_space⟩⟩

structure Sound (registry : Registry) : Prop where
  nodup : (registry.bindings.map Prod.fst).Nodup
  valid : ∀ name ∈ registry.bindings.map Prod.fst, ValidName name

lemma mem_keys_iff (registry : Registry) (name : String) :
    name ∈ registry.bindings.map Prod.fst ↔ registry.contains name = true :=
  mem_map_fst_iff_lookup

lemma contains_eq_false_iff (registry : Registry) (name : String) :
    registry.contains name = false ↔ registry.get? name = none := by
  rw [contains, Option.isSome_eq_false_iff, Option.isNone_iff_eq_none]

lemma Sound.empty : empty.Sound :=
  ⟨List.nodup_nil, fun _ h => nomatch h⟩

lemma Sound.bind {registry : Registry} (h : registry.Sound) {name : String} (handler : Handler)
    (hfree : registry.get? name = none) (hvalid : ValidName name) :
    (registry.bind name handler).Sound := by
  have hkeys : (registry.bind name handler).bindings.map Prod.fst =
      registry.bindings.map Prod.fst ++ [name] := List.map_append
  refine ⟨nodup_map_fst_concat h.nodup hfree handler, fun other hother => ?_⟩
  rw [hkeys, List.mem_append, List.mem_singleton] at hother
  rcases hother with hother | rfl
  · exact h.valid other hother
  · exact hvalid

section BindFree

variable (registry : Registry) (handler : Handler)

lemma bindFree_nil : (registry.bindFree handler []).value = (registry, 0) :=
  rfl

variable {registry}

lemma bindFree_taken {name : String} {existing : Handler} (names : List String)
    (h : registry.get? name = some existing) :
    (registry.bindFree handler (name :: names)).value =
      (registry.bindFree handler names).value := by
  simp only [bindFree, h]
  rfl

lemma bindFree_free {name : String} (names : List String) (h : registry.get? name = none) :
    (registry.bindFree handler (name :: names)).value =
      (((registry.bind name handler).bindFree handler names).value.1,
        ((registry.bind name handler).bindFree handler names).value.2 + 1) := by
  simp only [bindFree, h]
  rfl

lemma get?_bindFree (names : List String) (other : String) :
    (registry.bindFree handler names).value.1.get? other =
      (registry.get? other).or (if other ∈ names then some handler else none) := by
  induction names generalizing registry with
  | nil => rw [bindFree_nil, if_neg List.not_mem_nil, Option.or_none]
  | cons name names ih =>
      cases hname : registry.get? name with
      | some existing =>
        rw [bindFree_taken handler names hname, ih]
        by_cases ho : other = name
        · rw [ho, hname, Option.some_or, Option.some_or]
        · simp only [List.mem_cons, ho, false_or]
      | none =>
        rw [bindFree_free handler names hname, ih, get?_bind other hname]
        by_cases ho : other = name
        · rw [if_pos ho, ho, hname, if_pos List.mem_cons_self, Option.some_or, Option.none_or]
        · rw [if_neg ho]
          simp only [List.mem_cons, ho, false_or]

lemma size_bindFree (names : List String) :
    (registry.bindFree handler names).value.1.size =
      registry.size + (registry.bindFree handler names).value.2 := by
  induction names generalizing registry with
  | nil => rfl
  | cons name names ih =>
      cases hname : registry.get? name with
      | some existing => rw [bindFree_taken handler names hname, ih]
      | none =>
        have hsize : (registry.bind name handler).size = registry.size + 1 := List.length_append
        rw [bindFree_free handler names hname, ih, hsize]
        omega

lemma Sound.bindFree (h : registry.Sound) {names : List String}
    (hvalid : ∀ name ∈ names, ValidName name) :
    (registry.bindFree handler names).value.1.Sound := by
  induction names generalizing registry with
  | nil => exact h
  | cons name names ih =>
      have hnames := fun other hother => hvalid other (List.mem_cons_of_mem name hother)
      cases hname : registry.get? name with
      | some existing =>
        rw [bindFree_taken handler names hname]
        exact ih h hnames
      | none =>
        rw [bindFree_free handler names hname]
        exact ih (h.bind handler hname (hvalid name List.mem_cons_self)) hnames

end BindFree

def freeNames (registry : Registry) (names : List String) : Finset String :=
  names.toFinset.filter fun name => registry.contains name = false

lemma mem_freeNames (registry : Registry) (names : List String) (name : String) :
    name ∈ registry.freeNames names ↔ name ∈ names ∧ registry.get? name = none := by
  rw [freeNames, Finset.mem_filter, List.mem_toFinset, contains_eq_false_iff]

lemma card_freeNames (registry : Registry) {names : List String} (h : names.Nodup) :
    (registry.freeNames names).card = names.countP fun name => !registry.contains name := by
  have hset : registry.freeNames names =
      (names.filter fun name => !registry.contains name).toFinset := by
    ext name
    rw [freeNames, Finset.mem_filter, List.mem_toFinset, List.mem_toFinset, List.mem_filter,
      Bool.not_eq_true']
  rw [hset, List.toFinset_card_of_nodup (h.filter _), List.countP_eq_length_filter]

lemma freeNames_taken {registry : Registry} {name : String} {existing : Handler}
    (names : List String) (h : registry.get? name = some existing) :
    registry.freeNames (name :: names) = registry.freeNames names := by
  ext other
  rw [mem_freeNames, mem_freeNames, List.mem_cons]
  refine ⟨fun ⟨hother, hfree⟩ => ⟨hother.resolve_left ?_, hfree⟩, fun ⟨hother, hfree⟩ =>
    ⟨Or.inr hother, hfree⟩⟩
  rintro rfl
  rw [h] at hfree
  exact nomatch hfree

lemma freeNames_free {registry : Registry} (handler : Handler) {name : String}
    (names : List String) (h : registry.get? name = none) :
    registry.freeNames (name :: names) =
        insert name ((registry.bind name handler).freeNames names) ∧
      name ∉ (registry.bind name handler).freeNames names := by
  constructor
  · ext other
    rw [Finset.mem_insert, mem_freeNames, mem_freeNames, get?_bind other h, List.mem_cons]
    by_cases ho : other = name
    · simp only [ho, h, true_or, and_self]
    · rw [if_neg ho]
      simp only [ho, false_or]
  · rw [mem_freeNames, get?_bind name h, if_pos rfl]
    exact fun hfree => nomatch hfree.2

lemma count_bindFree (registry : Registry) (handler : Handler) (names : List String) :
    (registry.bindFree handler names).value.2 = (registry.freeNames names).card := by
  induction names generalizing registry with
  | nil => rfl
  | cons name names ih =>
      cases hname : registry.get? name with
      | some existing => rw [bindFree_taken handler names hname, freeNames_taken names hname, ih]
      | none =>
        obtain ⟨hinsert, hnot⟩ := freeNames_free handler names hname
        rw [bindFree_free handler names hname, hinsert, Finset.card_insert_of_notMem hnot, ih]

end Highlighting.Registry
