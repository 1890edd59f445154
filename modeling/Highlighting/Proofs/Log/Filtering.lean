import Highlighting.Settings.FileConfig
import Mathlib.Data.List.Infix
import Mathlib.Data.Option.Basic
import Mathlib.Tactic.Lemma

/-! Which events are let through: a target that begins like the one of a phase goes by the level of
that phase, if the configuration has one, and all others go by the global level. -/

namespace Highlighting

namespace Level

variable {a b c : Level}

lemma le_refl (a : Level) : a ≤ a :=
  Nat.le_refl a.verbosity

lemma le_trans (hab : a ≤ b) (hbc : b ≤ c) : a ≤ c :=
  Nat.le_trans (m := b.verbosity) hab hbc

lemma getD_le {o o' : Option Level} (h : Option.Rel (· ≤ ·) o o') (hab : a ≤ b) :
    o.getD a ≤ o'.getD b := by
  cases h with
  | some hle => exact hle
  | none => exact hab

end Level

namespace Phase

variable {p q : Phase} {target : String}

def Covers (p : Phase) (target : String) : Prop :=
  p.target.toList <+: target.toList

instance (p : Phase) (target : String) : Decidable (p.Covers target) :=
  inferInstanceAs (Decidable (p.target.toList <+: target.toList))

lemma eq_of_target_continues (h : p.target.toList <+: q.target.toList) : p = q := by
  revert h
  cases p <;> cases q <;> decide

lemma eq_of_covers (hp : p.Covers target) (hq : q.Covers target) : p = q := by
  rcases List.prefix_or_prefix_of_prefix hp hq with h | h
  · exact eq_of_target_continues h
  · exact (eq_of_target_continues h).symm

lemma target_injective : Function.Injective Phase.target := by
  intro p q h
  exact eq_of_target_continues (h ▸ List.prefix_rfl)

lemma mem_all (p : Phase) : p ∈ all := by
  cases p <;> decide

def covering? (target : String) : Option Phase :=
  all.find? fun p => p.target.toList.isPrefixOf target.toList

lemma covering?_eq_none_iff : covering? target = none ↔ ∀ p : Phase, ¬p.Covers target := by
  simp only [covering?, List.find?_eq_none, mem_all, true_imp_iff, List.isPrefixOf_iff_prefix,
    Covers]

lemma covering?_eq_some_iff : covering? target = some p ↔ p.Covers target := by
  have hcovers : ∀ q, covering? target = some q → q.Covers target := by
    intro q hq
    have hbegins := List.find?_some hq
    exact List.isPrefixOf_iff_prefix.mp hbegins
  constructor
  · exact hcovers p
  · intro hp
    cases hq : covering? target with
    | none => exact absurd hp (covering?_eq_none_iff.mp hq p)
    | some q => rw [eq_of_covers (hcovers q hq) hp]

end Phase

namespace PhaseLevels

def level? (levels : PhaseLevels) : Phase → Option Level
  | .lexer => levels.lexer
  | .registry => levels.registry
  | .highlight => levels.highlight
  | .cli => none

end PhaseLevels

lemma LogConfig.levelFor_eq (config : LogConfig) (p : Phase) :
    config.levelFor p = (config.phases.level? p).getD config.level := by
  cases p <;> rfl

namespace LogFilter

variable {f : LogFilter} {target : String}

section Longest

variable {entry other : String × Level} {entries : List (String × Level)}
  {best : Option (String × Level)}

def Longest (entry : String × Level) (entries : List (String × Level)) : Prop :=
  ∀ other ∈ entries, other = entry ∨ other.1.length < entry.1.length

lemma Longest.tail (h : Longest entry (other :: entries)) : Longest entry entries :=
  fun other' h' => h other' (List.mem_cons_of_mem _ h')

lemma longer_entry (h : Longest entry best.toList) : longer best entry = some entry := by
  cases best with
  | none => rfl
  | some b =>
    rcases h b List.mem_cons_self with rfl | hshorter
    · exact if_neg (Nat.lt_irrefl _)
    · exact if_pos hshorter

lemma longer_some (h : Longest entry (other :: entries)) :
    longer (some entry) other = some entry := by
  rcases h other List.mem_cons_self with rfl | hshorter
  · exact if_neg (Nat.lt_irrefl _)
  · exact if_neg (Nat.lt_asymm hshorter)

lemma Longest.longer (hbest : Longest entry best.toList) (h : Longest entry (other :: entries)) :
    Longest entry (longer best other).toList := by
  have hcases : LogFilter.longer best other = some other ∨ LogFilter.longer best other = best := by
    cases best with
    | none => exact Or.inl rfl
    | some b => exact ite_eq_or_eq _ _ _
  rcases hcases with hlonger | hlonger
  · rw [hlonger]
    intro other' h'
    exact h other' (List.mem_cons.mpr (Or.inl (List.mem_singleton.mp h')))
  · rwa [hlonger]

lemma foldl_longer_some (h : Longest entry entries) :
    entries.foldl longer (some entry) = some entry := by
  induction entries with
  | nil => rfl
  | cons other entries ih =>
    rw [List.foldl_cons, longer_some h]
    exact ih h.tail

lemma foldl_longer (hmem : entry ∈ entries) (h : Longest entry entries)
    (hbest : Longest entry best.toList) : entries.foldl longer best = some entry := by
  induction entries generalizing best with
  | nil => exact absurd hmem List.not_mem_nil
  | cons other entries ih =>
    rw [List.foldl_cons]
    rcases List.mem_cons.mp hmem with rfl | hmem
    · rw [longer_entry hbest]
      exact foldl_longer_some h.tail
    · exact ih hmem h.tail (hbest.longer h)

lemma levelOf_of_longest (entry : String × Level) (hmem : entry ∈ f.targets)
    (hbegins : entry.1.toList <+: target.toList)
    (h : ∀ other ∈ f.targets, other.1.toList <+: target.toList →
      other = entry ∨ other.1.length < entry.1.length) :
    f.levelOf target = entry.2 := by
  have hfold : (f.targets.filter fun entry => entry.1.toList.isPrefixOf target.toList).foldl
      longer none = some entry := by
    apply foldl_longer
    · exact List.mem_filter.mpr ⟨hmem, List.isPrefixOf_iff_prefix.mpr hbegins⟩
    · intro other hother
      obtain ⟨hother, hbegins'⟩ := List.mem_filter.mp hother
      exact h other hother (List.isPrefixOf_iff_prefix.mp hbegins')
    · exact fun b hb => absurd hb List.not_mem_nil
  rw [levelOf]
  simp only [hfold, Option.map_some, Option.getD_some]

lemma levelOf_of_none (h : ∀ entry ∈ f.targets, ¬entry.1.toList <+: target.toList) :
    f.levelOf target = f.default := by
  have hfilter : (f.targets.filter fun entry => entry.1.toList.isPrefixOf target.toList) = [] := by
    rw [List.filter_eq_nil_iff]
    exact fun entry hentry hbegins => h entry hentry (List.isPrefixOf_iff_prefix.mp hbegins)
  rw [levelOf]
  simp only [hfilter, List.foldl_nil, Option.map_none, Option.getD_none]

end Longest

section Phases

variable {config : LogConfig} {p : Phase} {phases : List Phase}

def withTarget (f : LogFilter) (target : String) (level : Level) : LogFilter :=
  ⟨f.default, f.targets.filter (fun entry => entry.1 != target) ++ [(target, level)]⟩

def ofPhases (config : LogConfig) (phases : List Phase) : LogFilter :=
  phases.foldl (fun f p => f.withTarget p.target (config.levelFor p)) ⟨config.level, []⟩

def entryOf (config : LogConfig) (p : Phase) : String × Level :=
  (p.target, config.levelFor p)

lemma ofPhases_all (config : LogConfig) : ofPhases config Phase.all = ofConfig config :=
  rfl

lemma ofPhases_eq (hnodup : phases.Nodup) :
    ofPhases config phases = ⟨config.level, phases.map (entryOf config)⟩ := by
  induction phases using List.reverseRecOn with
  | nil => rfl
  | append_singleton phases p ih =>
    obtain ⟨hphases, -, hp⟩ := List.nodup_append.mp hnodup
    have hfresh : ∀ entry ∈ phases.map (entryOf config), (entry.1 != p.target) = true := by
      intro entry hentry
      obtain ⟨q, hq, rfl⟩ := List.mem_map.mp hentry
      rw [bne_iff_ne]
      exact Phase.target_injective.ne (hp q hq p List.mem_cons_self)
    rw [ofPhases, List.foldl_append, ← ofPhases, ih hphases, List.map_append]
    simp only [List.foldl_cons, List.foldl_nil, withTarget, List.filter_eq_self.mpr hfresh]
    rfl

lemma levelOf_ofPhases (hphases : phases.Perm Phase.all) (target : String) :
    (ofPhases config phases).levelOf target =
      (Phase.covering? target).elim config.level config.levelFor := by
  rw [ofPhases_eq (hphases.nodup_iff.mpr (by decide))]
  cases hcovering : Phase.covering? target with
  | none =>
    apply levelOf_of_none
    intro entry hentry
    obtain ⟨p, -, rfl⟩ := List.mem_map.mp hentry
    exact Phase.covering?_eq_none_iff.mp hcovering p
  | some p =>
    have hp := Phase.covering?_eq_some_iff.mp hcovering
    have hmem : entryOf config p ∈ phases.map (entryOf config) :=
      List.mem_map_of_mem (hphases.mem_iff.mpr p.mem_all)
    refine levelOf_of_longest (entryOf config p) hmem hp ?_
    intro other hother hbegins
    obtain ⟨q, -, rfl⟩ := List.mem_map.mp hother
    rw [Phase.eq_of_covers hbegins hp]
    exact Or.inl rfl

lemma levelOf_ofConfig (config : LogConfig) (target : String) :
    (ofConfig config).levelOf target =
      (Phase.covering? target).elim config.level config.levelFor := by
  rw [← ofPhases_all]
  exact levelOf_ofPhases (List.Perm.refl Phase.all) target

end Phases

end LogFilter

namespace FileConfig

variable {config config' : FileConfig} {commandLine commandLine' : Option Level}

def globalLevel (config : FileConfig) (commandLine : Option Level) : Level :=
  commandLine.getD (config.logLevel.getD .warn)

lemma level_logConfig (config : FileConfig) (commandLine : Option Level) :
    (config.logConfig commandLine).level = config.globalLevel commandLine := by
  cases commandLine <;> rfl

/-- The level that goes for a target: the one that the file has for the phase of the target, or else
the global one. -/
inductive Governs (config : FileConfig) (commandLine : Option Level) (target : String) :
    Level → Prop
  | phase {p : Phase} {level : Level} (hp : p.Covers target)
      (hlevel : config.log.level? p = some level) : Governs config commandLine target level
  | global (h : ∀ p : Phase, p.Covers target → config.log.level? p = none) :
      Governs config commandLine target (config.globalLevel commandLine)

lemma Governs.unique {target : String} {level level' : Level}
    (h : config.Governs commandLine target level) (h' : config.Governs commandLine target level') :
    level = level' := by
  cases h with
  | phase hp hlevel =>
    cases h' with
    | phase hq hlevel' =>
      cases Phase.eq_of_covers hp hq
      exact Option.some.inj (hlevel.symm.trans hlevel')
    | global hnone => exact nomatch hlevel.symm.trans (hnone _ hp)
  | global hnone =>
    cases h' with
    | phase hp hlevel => exact nomatch hlevel.symm.trans (hnone _ hp)
    | global => rfl

lemma levelFor_logConfig (config : FileConfig) (commandLine : Option Level) (p : Phase) :
    (config.logConfig commandLine).levelFor p =
      (config.log.level? p).getD (config.globalLevel commandLine) := by
  rw [LogConfig.levelFor_eq, level_logConfig]
  rfl

lemma governs_levelOf (config : FileConfig) (commandLine : Option Level) (target : String) :
    config.Governs commandLine target
      ((LogFilter.ofConfig (config.logConfig commandLine)).levelOf target) := by
  rw [LogFilter.levelOf_ofConfig]
  cases hcovering : Phase.covering? target with
  | none =>
    rw [Option.elim_none, level_logConfig]
    exact Governs.global fun p hp => absurd hp (Phase.covering?_eq_none_iff.mp hcovering p)
  | some p =>
    have hp := Phase.covering?_eq_some_iff.mp hcovering
    rw [Option.elim_some, levelFor_logConfig]
    cases hlevel : config.log.level? p with
    | some level => exact Governs.phase hp hlevel
    | none =>
      apply Governs.global
      intro q hq
      rw [Phase.eq_of_covers hq hp, hlevel]

structure NoQuieter (config config' : FileConfig) (commandLine commandLine' : Option Level) :
    Prop where
  commandLine : Option.Rel (· ≤ ·) commandLine commandLine'
  global : Option.Rel (· ≤ ·) config.logLevel config'.logLevel
  phase : ∀ p, Option.Rel (· ≤ ·) (config.log.level? p) (config'.log.level? p)

namespace NoQuieter

variable (h : NoQuieter config config' commandLine commandLine')

include h

lemma globalLevel_le : config.globalLevel commandLine ≤ config'.globalLevel commandLine' :=
  Level.getD_le h.commandLine (Level.getD_le h.global (Level.le_refl _))

lemma levelOf_le (target : String) :
    (LogFilter.ofConfig (config.logConfig commandLine)).levelOf target ≤
      (LogFilter.ofConfig (config'.logConfig commandLine')).levelOf target := by
  rw [LogFilter.levelOf_ofConfig, LogFilter.levelOf_ofConfig]
  cases Phase.covering? target with
  | none =>
    rw [Option.elim_none, Option.elim_none, level_logConfig, level_logConfig]
    exact h.globalLevel_le
  | some p =>
    rw [Option.elim_some, Option.elim_some, levelFor_logConfig, levelFor_logConfig]
    exact Level.getD_le (h.phase p) h.globalLevel_le

end NoQuieter

theorem enables_logConfig :
    (∀ (config : FileConfig) (commandLine : Option Level) (target : String),
      ∃ level, (∀ other, config.Governs commandLine target other ↔ other = level) ∧
        ∀ event, (LogFilter.ofConfig (config.logConfig commandLine)).enables target event = true ↔
          event ≤ level) ∧
    (∀ (target : String) (p q : Phase), p.Covers target → q.Covers target → p = q) ∧
    (∀ (config : FileConfig) (commandLine : Option Level) (phases : List Phase),
      phases.Perm Phase.all → ∀ target event,
        (LogFilter.ofPhases (config.logConfig commandLine) phases).enables target event =
          (LogFilter.ofConfig (config.logConfig commandLine)).enables target event) ∧
    ∀ (config config' : FileConfig) (commandLine commandLine' : Option Level),
      NoQuieter config config' commandLine commandLine' → ∀ target event,
        (LogFilter.ofConfig (config.logConfig commandLine)).enables target event = true →
          (LogFilter.ofConfig (config'.logConfig commandLine')).enables target event = true := by
  refine ⟨?_, fun target p q => Phase.eq_of_covers, ?_, ?_⟩
  · intro config commandLine target
    have hgoverns := config.governs_levelOf commandLine target
    refine ⟨_, fun other => ⟨fun hother => hother.unique hgoverns, ?_⟩, fun event => ?_⟩
    · rintro rfl
      exact hgoverns
    · exact decide_eq_true_iff
  · intro config commandLine phases hphases target event
    rw [LogFilter.enables, LogFilter.enables, LogFilter.levelOf_ofPhases hphases,
      LogFilter.levelOf_ofConfig]
  · intro config config' commandLine commandLine' h target event henables
    rw [LogFilter.enables, decide_eq_true_iff] at henables ⊢
    exact Level.le_trans henables (h.levelOf_le target)

theorem enables_logConfig_lexer :
    let config : FileConfig := { log := { lexer := some .debug } }
    let config' : FileConfig := { log := { lexer := some .trace } }
    config.Governs (some .error) "hilite::lexer::x" .debug ∧
      NoQuieter config config' (some .error) (some .error) ∧
      (LogFilter.ofConfig (config.logConfig (some .error))).enables "hilite::lexer::x" .debug =
        true ∧
      (LogFilter.ofConfig (config'.logConfig (some .error))).enables "hilite::lexer::x" .debug =
        true := by
  intro config config'
  have hgoverns : config.Governs (some .error) "hilite::lexer::x" .debug :=
    Governs.phase (p := .lexer) (by decide) rfl
  have hquieter : NoQuieter config config' (some .error) (some .error) := by
    refine ⟨Option.Rel.some (by decide), Option.Rel.none, fun p => ?_⟩
    cases p with
    | lexer => exact Option.Rel.some (by decide)
    | registry | highlight | cli => exact Option.Rel.none
  obtain ⟨hfilter, -, -, hmonotone⟩ := enables_logConfig
  obtain ⟨level, hunique, henables⟩ := hfilter config (some .error) "hilite::lexer::x"
  have hdebug := (henables .debug).mpr ((hunique .debug).mp hgoverns ▸ Level.le_refl _)
  exact ⟨hgoverns, hquieter, hdebug, hmonotone config config' _ _ hquieter _ _ hdebug⟩

end FileConfig

end Highlighting
