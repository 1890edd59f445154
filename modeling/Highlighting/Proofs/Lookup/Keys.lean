import Mathlib.Data.List.Nodup
import Mathlib.Tactic.Lemma

namespace Highlighting

variable {α β : Type} [BEq α] [LawfulBEq α] {entries : List (α × β)} {a : α}

lemma mem_map_fst_iff_lookup : a ∈ entries.map Prod.fst ↔ (entries.lookup a).isSome := by
  rw [List.lookup_isSome_iff, List.mem_map]
  simp only [beq_iff_eq, eq_comm (a := a)]

lemma nodup_map_fst_concat (h : (entries.map Prod.fst).Nodup) (hnew : entries.lookup a = none)
    (b : β) : ((entries ++ [(a, b)]).map Prod.fst).Nodup := by
  have ha : a ∉ entries.map Prod.fst := by simp [mem_map_fst_iff_lookup, hnew]
  rw [List.map_append]
  apply h.append (List.nodup_singleton a)
  simpa using ha

end Highlighting
