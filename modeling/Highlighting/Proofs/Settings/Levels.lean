import Highlighting.Proofs.Json.Records
import Highlighting.Settings.FileConfig

namespace Highlighting

namespace FileConfig

def withoutLevels (config : FileConfig) : FileConfig :=
  { config with logLevel := none, log := {} }

@[simp] lemma language_withoutLevels (config : FileConfig) :
    config.withoutLevels.language = config.language :=
  rfl

@[simp] lemma format_withoutLevels (config : FileConfig) :
    config.withoutLevels.format = config.format :=
  rfl

@[simp] lemma highlight_withoutLevels (config : FileConfig) :
    config.withoutLevels.highlight = config.highlight :=
  rfl

def isLevelKey (key : Option String) : Bool :=
  key == some "log_level" || key == some "log"

def otherMembers (members : List (Option String × Tree)) : List (Option String × Tree) :=
  members.filter fun member => !isLevelKey member.1

structure LevelsValid (members : List (Option String × Tree)) : Prop where
  once : ((members.map Prod.fst).filter isLevelKey).Nodup
  level : ∀ t, (some "log_level", t) ∈ members → ∃ level, t.option Level.ofTree = .ok level
  phases : ∀ t, (some "log", t) ∈ members → ∃ levels, PhaseLevels.ofTree t = .ok levels

lemma put_withoutLevels {field : Tree.Field FileConfig} (hfield : field ∈ fields)
    (hkey : isLevelKey (some field.key) = false) (t : Tree) (config : FileConfig) :
    field.put t config.withoutLevels = (field.put t config).map withoutLevels := by
  simp only [fields, List.mem_cons, List.not_mem_nil, or_false] at hfield
  rcases hfield with rfl | rfl | rfl | rfl | rfl
  · dsimp only
    cases t.option Tree.asString <;> rfl
  · dsimp only
    cases t.option OutputFormat.ofTree <;> rfl
  · exact nomatch hkey
  · exact nomatch hkey
  · dsimp only
    cases HighlightConfig.ofTree t <;> rfl

section Members

variable {member : Option String × Tree} {members : List (Option String × Tree)} {key : String}
  {t : Tree}

lemma otherMembers_of_level (h : isLevelKey member.1 = true) :
    otherMembers (member :: members) = otherMembers members :=
  List.filter_cons_of_neg (by simp [h])

lemma otherMembers_of_other (h : isLevelKey member.1 = false) :
    otherMembers (member :: members) = member :: otherMembers members :=
  List.filter_cons_of_pos (by simp [h])

namespace LevelsValid

lemma tail (h : LevelsValid (member :: members)) : LevelsValid members where
  once := h.once.sublist ((List.sublist_cons_self _ _).filter _)
  level t ht := h.level t (List.mem_cons_of_mem _ ht)
  phases t ht := h.phases t (List.mem_cons_of_mem _ ht)

lemma notMem (h : LevelsValid ((some key, t) :: members))
    (hkey : isLevelKey (some key) = true) : some key ∉ members.map Prod.fst := by
  have honce := h.once
  rw [List.map_cons, List.filter_cons_of_pos hkey, List.nodup_cons] at honce
  intro hmem
  exact honce.1 (List.mem_filter.mpr ⟨hmem, hkey⟩)

lemma exists_put (h : LevelsValid ((some key, t) :: members))
    (hkey : isLevelKey (some key) = true) (config : FileConfig) :
    ∃ field next, fields.find? (·.key == key) = some field ∧ field.put t config = .ok next ∧
      next.withoutLevels = config.withoutLevels := by
  have hcases : key = "log_level" ∨ key = "log" := by simpa [isLevelKey] using hkey
  rcases hcases with rfl | rfl
  · obtain ⟨level, hlevel⟩ := h.level t List.mem_cons_self
    refine ⟨_, { config with logLevel := level }, rfl, ?_, rfl⟩
    dsimp only
    rw [hlevel]
    rfl
  · obtain ⟨levels, hlevels⟩ := h.phases t List.mem_cons_self
    refine ⟨_, { config with log := levels }, rfl, ?_, rfl⟩
    dsimp only
    rw [hlevels]
    rfl

end LevelsValid

/-- Of the keys that set levels only those were seen that do not follow. Both readings have seen the
same of the others. -/
structure Aligned (seen seen' : List String) (members : List (Option String × Tree)) : Prop where
  levels : ∀ key ∈ seen, isLevelKey (some key) = true → some key ∉ members.map Prod.fst
  others : ∀ key, isLevelKey (some key) = false → (key ∈ seen' ↔ key ∈ seen)

namespace Aligned

variable {seen seen' : List String}

lemma tail (h : Aligned seen seen' (member :: members)) : Aligned seen seen' members where
  levels key hmem hkey hlater := h.levels key hmem hkey (List.mem_cons_of_mem _ hlater)
  others := h.others

lemma level (h : Aligned seen seen' members) (hkey : isLevelKey (some key) = true)
    (hlater : some key ∉ members.map Prod.fst) : Aligned (key :: seen) seen' members where
  levels other hmem hother := by
    rcases List.mem_cons.mp hmem with rfl | hmem
    · exact hlater
    · exact h.levels other hmem hother
  others other hother := by
    have hne : other ≠ key := by
      rintro rfl
      exact nomatch hother.symm.trans hkey
    rw [h.others other hother, List.mem_cons, or_iff_right hne]

lemma other (h : Aligned seen seen' members) (hkey : isLevelKey (some key) = false) :
    Aligned (key :: seen) (key :: seen') members where
  levels other hmem hother := by
    rcases List.mem_cons.mp hmem with rfl | hmem
    · exact nomatch hother.symm.trans hkey
    · exact h.levels other hmem hother
  others other hother := by
    rw [List.mem_cons, List.mem_cons, h.others other hother]

end Aligned

lemma putMembers_withoutLevels {seen seen' : List String} (hvalid : LevelsValid members)
    (h : Aligned seen seen' members) (config : FileConfig) (ending : Ending) :
    Tree.putMembers fields seen' config.withoutLevels (otherMembers members) ending =
      (Tree.putMembers fields seen config members ending).map withoutLevels := by
  induction members generalizing seen seen' config with
  | nil => cases ending <;> rfl
  | cons member members ih =>
    obtain ⟨_ | key, t⟩ := member
    · rfl
    cases hkey : isLevelKey (some key) with
    | true =>
      obtain ⟨field, next, hfield, hput, hnext⟩ := hvalid.exists_put hkey config
      have hfresh : key ∉ seen := fun hmem => h.levels key hmem hkey List.mem_cons_self
      rw [otherMembers_of_level hkey, Tree.putMembers_of_fresh _ _ _ _ hfield hfresh, hput, ← hnext]
      exact ih hvalid.tail (h.tail.level hkey (hvalid.notMem hkey)) next
    | false =>
      rw [otherMembers_of_other hkey]
      cases hfield : fields.find? (·.key == key) with
      | none =>
        cases ht : t.fault? with
        | none =>
          rw [Tree.putMembers_of_unknown _ _ _ _ hfield ht,
            Tree.putMembers_of_unknown _ _ _ _ hfield ht]
          exact ih hvalid.tail h.tail config
        | some f =>
          rw [Tree.putMembers_of_fault _ _ _ _ hfield ht,
            Tree.putMembers_of_fault _ _ _ _ hfield ht]
          rfl
      | some field =>
        have hname : field.key = key := by simpa using List.find?_some hfield
        by_cases hseen : key ∈ seen
        · have hseen' : key ∈ seen' := (h.others key hkey).mpr hseen
          rw [Tree.putMembers_of_duplicate _ _ _ _ hfield hseen,
            Tree.putMembers_of_duplicate _ _ _ _ hfield hseen']
          rfl
        · have hseen' : key ∉ seen' := mt (h.others key hkey).mp hseen
          rw [Tree.putMembers_of_fresh _ _ _ _ hfield hseen,
            Tree.putMembers_of_fresh _ _ _ _ hfield hseen',
            put_withoutLevels (List.mem_of_find?_eq_some hfield) (hname ▸ hkey)]
          cases field.put t config with
          | error e => rfl
          | ok next => exact ih hvalid.tail (h.tail.other hkey) next

lemma ofTree_withoutLevels (hvalid : LevelsValid members) (ending : Ending) :
    (ofTree (.object members ending)).map withoutLevels =
      ofTree (.object (otherMembers members) ending) := by
  have h : Aligned [] [] members :=
    ⟨fun key hmem => absurd hmem List.not_mem_nil, fun key _ => Iff.rfl⟩
  exact (putMembers_withoutLevels hvalid h {} ending).symm

end Members

/-- The texts of two configurations, with objects that differ in nothing but valid levels. -/
def Relevelled (text text' : String) : Prop :=
  ∃ members members' ending rest rest',
    Tree.ofText text.toList = (.object members ending, rest) ∧
      Tree.ofText text'.toList = (.object members' ending, rest') ∧
      LevelsValid members ∧ LevelsValid members' ∧
      otherMembers members' = otherMembers members ∧ Tree.trim rest' = Tree.trim rest

lemma decode_withoutLevels {text : String} {tree : Tree} {rest : List Char}
    (h : Tree.ofText text.toList = (tree, rest)) :
    (Tree.decode ofTree text).map withoutLevels =
      ((ofTree tree).map withoutLevels).bind fun config =>
        if (Tree.trim rest).isEmpty then .ok config else .error (.faulty .malformed) := by
  unfold Tree.decode
  rw [h]
  dsimp only
  cases ofTree tree with
  | error e => rfl
  | ok config =>
    change (if (Tree.trim rest).isEmpty then Except.ok config else _).map withoutLevels = _
    rw [apply_ite (Except.map withoutLevels)]
    rfl

lemma Relevelled.decode_eq {text text' : String} (h : Relevelled text text') :
    (Tree.decode ofTree text').map withoutLevels = (Tree.decode ofTree text).map withoutLevels := by
  obtain ⟨members, members', ending, rest, rest', htext, htext', hvalid, hvalid', hothers,
    hrest⟩ := h
  rw [decode_withoutLevels htext, decode_withoutLevels htext', ofTree_withoutLevels hvalid,
    ofTree_withoutLevels hvalid', hothers, hrest]

end FileConfig

end Highlighting
