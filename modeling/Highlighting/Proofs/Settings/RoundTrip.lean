import Highlighting.Output
import Highlighting.Proofs.Settings.Decoding
import Mathlib.Data.List.Perm.Subperm
import Mathlib.Data.Option.Basic

namespace Highlighting

open Highlighting.Tree

namespace Json

lemma keyed_treeMembers {ms : List (String × Json)} (h : (ms.map Prod.fst).Nodup)
    (keys : List String) : Keyed keys (treeMembers ms) where
  text hmem := by
    rw [map_fst_treeMembers] at hmem
    obtain ⟨key, -, hkey⟩ := List.mem_map.mp hmem
    exact nomatch hkey
  once key _ := by
    rw [map_fst_treeMembers]
    exact List.nodup_iff_count_le_one.mp (h.map (Option.some_injective _)) (some key)

end Json

namespace HighlightConfig

def members (config : HighlightConfig) : List (String × Json) :=
  [("fallback_language", .ofOption config.fallbackLanguage),
    ("merge_decorations", .bool config.mergeDecorations)]

lemma toJson_eq (config : HighlightConfig) : config.toJson = .object config.members :=
  rfl

variable {config : HighlightConfig} {ms : List (String × Json)}

/-- Members of the settings in any order, of which some may be left out that are as by default. -/
structure Abridges (ms : List (String × Json)) (config : HighlightConfig) : Prop where
  subperm : ms.Subperm config.members
  default : ∀ m ∈ config.members, m ∉ ms → m ∈ ({} : HighlightConfig).members

lemma nodup_members (config : HighlightConfig) : (config.members.map Prod.fst).Nodup := by
  change ["fallback_language", "merge_decorations"].Nodup
  decide

namespace Abridges

lemma refl (config : HighlightConfig) : Abridges config.members config :=
  ⟨.refl _, fun _ hmem h => absurd hmem h⟩

variable (h : Abridges ms config)

include h

lemma nodup : (ms.map Prod.fst).Nodup := by
  obtain ⟨ms', hperm, hsublist⟩ := h.subperm
  exact (hperm.map _).nodup_iff.mp ((nodup_members config).sublist (hsublist.map _))

lemma given {α : Type} {stands : Tree → α → Prop} {default a : α} {key : String} {j : Json}
    (hmem : (key, j) ∈ config.members) (hstands : stands j.tree a)
    (hdefault : (key, j) ∈ ({} : HighlightConfig).members → a = default) :
    Given stands default key (Json.treeMembers ms) a := by
  by_cases hms : (key, j) ∈ ms
  · exact .present (Json.mem_treeMembers hms) hstands
  · cases hdefault (h.default _ hmem hms)
    apply Given.absent
    rw [Json.map_fst_treeMembers]
    intro hkey
    rw [List.mem_map_of_injective (Option.some_injective _)] at hkey
    obtain ⟨m, hm, hm'⟩ := List.mem_map.mp hkey
    have heq : m = (key, j) :=
      List.inj_on_of_nodup_map (nodup_members config) (h.subperm.subset hm) hmem hm'
    exact hms (heq ▸ hm)

lemma describes : Describes slots {} (Json.treeMembers ms) config := by
  refine ⟨Json.keyed_treeMembers h.nodup _, ?_⟩
  simp only [slots, List.forall_mem_cons]
  refine ⟨?_, ?_, fun _ hmem => absurd hmem List.not_mem_nil⟩
  · apply h.given (.head _)
    · cases config.fallbackLanguage with
      | none => exact .none
      | some name => exact .some (.mk name)
    · intro hmem
      cases hfallback : config.fallbackLanguage with
      | none => rfl
      | some name => simp [members, Json.ofOption, hfallback] at hmem
  · apply h.given (.tail _ (.head _)) (IsFlag.mk _)
    intro hmem
    simpa [members] using hmem

lemma decode {text : String} (htext : Document (Json.object ms).tree text) :
    Tree.decode ofTree text = .ok config := by
  rw [decode_of_document ofTree htext]
  exact (fits.decodes_record _ _ _ htext.fault? config).mpr (.object h.describes)

end Abridges

theorem decode_toJson (config : HighlightConfig) :
    Tree.decode ofTree (String.ofList config.toJson.compact) = .ok config ∧
      (∀ level, Tree.decode ofTree (String.ofList (config.toJson.pretty level)) = .ok config) ∧
      ∀ ms text, Abridges ms config → Document (Json.object ms).tree text →
        Tree.decode ofTree text = .ok config := by
  have h := Abridges.refl config
  rw [toJson_eq]
  exact ⟨h.decode (Json.document_compact _), fun level => h.decode (Json.document_pretty level _),
    fun ms text h htext => h.decode htext⟩

theorem decode_toJson_quoted :
    let config : HighlightConfig := { fallbackLanguage := some "\"\x01𝄞\\" }
    let fallback : String × Json := ("fallback_language", .string "\"\x01𝄞\\")
    let merge : String × Json := ("merge_decorations", .bool true)
    config.toJson = .object [fallback, merge] ∧ Abridges [merge, fallback] config ∧
      Abridges [fallback] config ∧
      Tree.decode ofTree (String.ofList config.toJson.compact) = .ok config ∧
      Tree.decode ofTree (String.ofList (Json.object [merge, fallback]).compact) = .ok config ∧
      Tree.decode ofTree (String.ofList (Json.object [fallback]).compact) = .ok config := by
  intro config fallback merge
  have hswapped : Abridges [merge, fallback] config :=
    ⟨(List.Perm.swap fallback merge []).subperm, fun m hmem h =>
      absurd ((List.Perm.swap fallback merge []).mem_iff.mpr hmem) h⟩
  have halone : Abridges [fallback] config := by
    refine ⟨(List.sublist_append_left [fallback] [merge]).subperm, ?_⟩
    intro m hmem h
    rcases List.mem_cons.mp hmem with rfl | hmem
    · exact absurd List.mem_cons_self h
    · exact List.mem_cons_of_mem _ hmem
  obtain ⟨hcompact, -, hdecode⟩ := decode_toJson config
  exact ⟨rfl, hswapped, halone, hcompact, hdecode _ _ hswapped (Json.document_compact _),
    hdecode _ _ halone (Json.document_compact _)⟩

end HighlightConfig

end Highlighting
