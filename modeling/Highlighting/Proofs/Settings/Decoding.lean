import Highlighting.Proofs.Json.MemberOrder
import Highlighting.Settings.FileConfig

namespace Highlighting

open Highlighting.Tree

namespace Level

def byName : List (String × Level) :=
  [("error", .error), ("silent", .error), ("warn", .warn), ("info", .info), ("debug", .debug),
    ("trace", .trace)]

lemma ofName?_eq_some_iff (name : String) (level : Level) :
    ofName? name = some level ↔ (name, level) ∈ byName := by
  unfold ofName?
  split_ifs with hsilent
  · subst hsilent
    cases level <;> decide
  · rw [find?_key_eq_some_iff (by decide)]
    constructor
    · rintro ⟨-, rfl⟩
      cases level <;> decide
    · intro h
      cases level <;> simp_all [all, byName, Level.name]

lemma decodes_option : Decodes (Tree.option ofTree) (Optional (Named byName)) :=
  (decodes_variant ofName?_eq_some_iff).option fun _ => nofun

end Level

namespace OutputFormat

def byName : List (String × OutputFormat) :=
  [("text", .text), ("json", .json), ("decorations", .decorations)]

lemma ofName?_eq_some_iff (name : String) (format : OutputFormat) :
    ofName? name = some format ↔ (name, format) ∈ byName := by
  rw [ofName?, find?_key_eq_some_iff (by decide)]
  constructor
  · rintro ⟨-, rfl⟩
    cases format <;> decide
  · intro h
    cases format <;> simp_all [all, byName, OutputFormat.name]

lemma decodes_option : Decodes (Tree.option ofTree) (Optional (Named byName)) :=
  (decodes_variant ofName?_eq_some_iff).option fun _ => nofun

end OutputFormat

lemma decodes_optionText : Decodes (Tree.option asString) (Optional IsText) :=
  decodes_asString.option fun _ => nofun

namespace PhaseLevels

def slots : List (Slot PhaseLevels) :=
  [⟨"lexer", Option Level, Optional (Named Level.byName), lexer⟩,
    ⟨"registry", Option Level, Optional (Named Level.byName), registry⟩,
    ⟨"highlight", Option Level, Optional (Named Level.byName), highlight⟩]

lemma fits : Fits fields slots where
  keeps := .cons (keeps_of_set Level.decodes_option fun _ _ => rfl)
    (.cons (keeps_of_set Level.decodes_option fun _ _ => rfl)
      (.cons (keeps_of_set Level.decodes_option fun _ _ => rfl) .nil))
  spares field hfield slot hslot hkey := by
    simp only [fields, List.mem_cons, List.not_mem_nil, or_false] at hfield
    simp only [slots, List.mem_cons, List.not_mem_nil, or_false] at hslot
    rcases hfield with rfl | rfl | rfl <;> rcases hslot with rfl | rfl | rfl
    all_goals first
      | exact absurd rfl hkey
      | exact spares_of_set fun _ _ => rfl
  nodup := by decide
  ext levels levels' h := by
    simp only [slots, List.forall_mem_cons] at h
    obtain ⟨hlexer, hregistry, hhighlight, -⟩ := h
    cases levels
    cases levels'
    cases hlexer
    cases hregistry
    cases hhighlight
    rfl

end PhaseLevels

namespace HighlightConfig

def slots : List (Slot HighlightConfig) :=
  [⟨"fallback_language", Option String, Optional IsText, fallbackLanguage⟩,
    ⟨"merge_decorations", Bool, IsFlag, mergeDecorations⟩]

lemma fits : Fits fields slots where
  keeps := .cons (keeps_of_set decodes_optionText fun _ _ => rfl)
    (.cons (keeps_of_set decodes_asBool fun _ _ => rfl) .nil)
  spares field hfield slot hslot hkey := by
    simp only [fields, List.mem_cons, List.not_mem_nil, or_false] at hfield
    simp only [slots, List.mem_cons, List.not_mem_nil, or_false] at hslot
    rcases hfield with rfl | rfl <;> rcases hslot with rfl | rfl
    all_goals first
      | exact absurd rfl hkey
      | exact spares_of_set fun _ _ => rfl
  nodup := by decide
  ext config config' h := by
    simp only [slots, List.forall_mem_cons] at h
    obtain ⟨hfallback, hmerge, -⟩ := h
    cases config
    cases config'
    cases hfallback
    cases hmerge
    rfl

end HighlightConfig

namespace FileConfig

def slots : List (Slot FileConfig) :=
  [⟨"language", Option String, Optional IsText, language⟩,
    ⟨"format", Option OutputFormat, Optional (Named OutputFormat.byName), format⟩,
    ⟨"log_level", Option Level, Optional (Named Level.byName), logLevel⟩,
    ⟨"log", PhaseLevels, RecordOf PhaseLevels.slots {}, log⟩,
    ⟨"highlight", HighlightConfig, RecordOf HighlightConfig.slots {}, highlight⟩]

lemma fits : Fits fields slots where
  keeps := .cons (keeps_of_set decodes_optionText fun _ _ => rfl)
    (.cons (keeps_of_set OutputFormat.decodes_option fun _ _ => rfl)
      (.cons (keeps_of_set Level.decodes_option fun _ _ => rfl)
        (.cons (keeps_of_set (PhaseLevels.fits.decodes_record _ _) fun _ _ => rfl)
          (.cons (keeps_of_set (HighlightConfig.fits.decodes_record _ _) fun _ _ => rfl) .nil))))
  spares field hfield slot hslot hkey := by
    simp only [fields, List.mem_cons, List.not_mem_nil, or_false] at hfield
    simp only [slots, List.mem_cons, List.not_mem_nil, or_false] at hslot
    rcases hfield with rfl | rfl | rfl | rfl | rfl <;>
      rcases hslot with rfl | rfl | rfl | rfl | rfl
    all_goals first
      | exact absurd rfl hkey
      | exact spares_of_set fun _ _ => rfl
  nodup := by decide
  ext config config' h := by
    simp only [slots, List.forall_mem_cons] at h
    obtain ⟨hlanguage, hformat, hlevel, hlog, hhighlight, -⟩ := h
    cases config
    cases config'
    cases hlanguage
    cases hformat
    cases hlevel
    cases hlog
    cases hhighlight
    rfl

section Documents

variable {members : List (Option String × Tree)} {text : String}

end Documents

end FileConfig

end Highlighting
