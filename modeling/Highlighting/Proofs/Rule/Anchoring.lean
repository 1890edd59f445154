import Highlighting.Rule
import Highlighting.Proofs.Pattern.Leftmost
import Highlighting.Proofs.Pattern.Preference
import Highlighting.Proofs.Pattern.Wrapping

/-!
Rules are tied to the start of the text: what their search finds, and which patterns the wrapping
leaves as they are.
-/

namespace Highlighting

namespace Pattern

section Patterns

variable (ignoreCase : Bool) (pattern : List Char)

def part? : Option Part :=
  Reader.read? (pattern.length + 1) (.begin { ignoreCase }) pattern

def body? : Option OpenGroup :=
  Reader.body? (pattern.length + 1) (.begin { ignoreCase }) pattern

def WellFormed : Prop :=
  (part? ignoreCase pattern).isSome

def ClosesEarly : Prop :=
  Reader.closesEarly (pattern.length + 1) (.begin { ignoreCase }) pattern = true

/-- Whether a closing parenthesis behind the pattern is not read any more. -/
def EndsInComment : Prop :=
  WellFormed ignoreCase pattern ∧ WellFormed ignoreCase (pattern ++ [')'])

def TooLargeToWrap : Prop :=
  ∃ p, part? ignoreCase pattern = some p ∧
    ¬(p.depth + 2 ≤ depthLimit ∧ p.size + 1 ≤ Reader.sizeLimit)

def tie : OpenGroup :=
  ⟨{ ignoreCase }, [], [some (.leaf (.assert .textStart))]⟩

end Patterns

variable {ignoreCase : Bool} {pattern : List Char}

lemma part?_eq_map_body? :
    part? ignoreCase pattern = (body? ignoreCase pattern).map OpenGroup.value :=
  Reader.read?_eq_map_body? _ _ _

lemma not_wellFormed_of_closesEarly (h : ClosesEarly ignoreCase pattern) :
    ¬WellFormed ignoreCase pattern := by
  rw [WellFormed, part?_eq_map_body?, body?, Reader.body?_of_closesEarly h]
  exact nofun

lemma part?_wrap : part? ignoreCase (Rule.wrap pattern) =
    Reader.read? (pattern.length + 4) ((Reader.begin { ignoreCase }).inside (tie ignoreCase))
      (pattern ++ [')']) := by
  have hwrap : Rule.wrap pattern = '^' :: '(' :: '?' :: ':' :: (pattern ++ [')']) := rfl
  have hlength : (Rule.wrap pattern).length = pattern.length + 5 := by simp [hwrap]
  rw [part?, hlength, hwrap]
  rfl

lemma value_tie_add (p : Part) : ((tie ignoreCase).add p.nested).value =
    ⟨.cat (.assert .textStart) p.regex, p.depth + 2, p.size + 1⟩ := by
  simp [tie, OpenGroup.add, OpenGroup.value, OpenGroup.tail, Part.choice, Part.sequence, Part.join,
    Part.nested, Part.leaf, Nat.add_comm]
  omega

lemma shut_append {P : Prop} (h : '#' ∈ pattern → P) : Shut P pattern (pattern ++ [')']) := by
  induction pattern with
  | nil => exact .paren
  | cons c cs ih =>
    apply Shut.cons
    · rintro rfl
      exact h List.mem_cons_self
    · exact ih fun hcs => h (List.mem_cons_of_mem c hcs)

lemma outcome_wrap (h : ¬ClosesEarly ignoreCase pattern) :
    Reader.Outcome ('#' ∈ pattern) (tie ignoreCase) (body? ignoreCase pattern)
      (part? ignoreCase (pattern ++ [')'])) (part? ignoreCase (Rule.wrap pattern)) := by
  rw [part?_wrap]
  apply Reader.outcome (tie ignoreCase) (shut_append id)
  · exact Nat.lt_succ_self _
  · exact Nat.lt_succ_self _
  · simp
  · exact Bool.eq_false_iff.mpr h

lemma EndsInComment.mem (h : EndsInComment ignoreCase pattern) : '#' ∈ pattern := by
  obtain ⟨hformed, hbehind⟩ := h
  have houtcome := outcome_wrap fun hearly => not_wellFormed_of_closesEarly hearly hformed
  rw [WellFormed, part?_eq_map_body?] at hformed
  rw [WellFormed] at hbehind
  generalize body? ignoreCase pattern = body, part? ignoreCase (pattern ++ [')']) = behind,
    part? ignoreCase (Rule.wrap pattern) = wrapped at hformed hbehind houtcome
  cases houtcome with
  | closed g => exact nomatch hbehind
  | swallowed h g => exact h
  | fault alone => exact nomatch hformed

lemma part?_wrap_cases (h : ¬ClosesEarly ignoreCase pattern) :
    (part? ignoreCase (Rule.wrap pattern) = none ∧
        (¬WellFormed ignoreCase pattern ∨ EndsInComment ignoreCase pattern)) ∨
      ∃ g, body? ignoreCase pattern = some g ∧ ¬EndsInComment ignoreCase pattern ∧
        part? ignoreCase (Rule.wrap pattern) =
          some ⟨.cat (.assert .textStart) g.value.regex, g.value.depth + 2, g.value.size + 1⟩ := by
  have houtcome := outcome_wrap h
  have hpart : part? ignoreCase pattern = _ := part?_eq_map_body?
  rw [EndsInComment, WellFormed, WellFormed, hpart]
  generalize body? ignoreCase pattern = body, part? ignoreCase (pattern ++ [')']) = behind,
    part? ignoreCase (Rule.wrap pattern) = wrapped at houtcome
  cases houtcome with
  | closed g =>
    rw [value_tie_add]
    exact Or.inr ⟨g, rfl, fun hcomment => absurd hcomment.2 nofun, rfl⟩
  | swallowed h g => exact Or.inl ⟨rfl, Or.inr ⟨rfl, rfl⟩⟩
  | fault alone => exact Or.inl ⟨rfl, Or.inl nofun⟩

end Pattern

namespace Regex

def takes? (r : Regex) (text : List Char) : Option ℕ :=
  (r.ends (Cursor.start text)).head?.map (·.offset)

end Regex

namespace Rule

open Pattern

variable {spec : RuleSpec} {rule : Rule}

lemma ofPattern?_eq (ignoreCase : Bool) (pattern : List Char) :
    Regex.ofPattern? ignoreCase pattern = (part? ignoreCase pattern).bind fun p =>
      if p.depth ≤ depthLimit ∧ p.size ≤ Reader.sizeLimit then some p.regex else none :=
  rfl

lemma compile_eq_error_iff :
    compile spec = .error (.invalidPattern spec.category spec.pattern) ↔
      Regex.ofPattern? (spec.ignoreCase.getD false) (wrap spec.pattern.toList) = none := by
  unfold compile
  cases Regex.ofPattern? (spec.ignoreCase.getD false) (wrap spec.pattern.toList) with
  | none => simp
  | some regex => simp

lemma ofPattern?_wrap_eq_none_iff {ignoreCase : Bool} {pattern : List Char}
    (h : ¬ClosesEarly ignoreCase pattern) : Regex.ofPattern? ignoreCase (wrap pattern) = none ↔
      ¬WellFormed ignoreCase pattern ∨ EndsInComment ignoreCase pattern ∨
        TooLargeToWrap ignoreCase pattern := by
  rw [ofPattern?_eq]
  rcases part?_wrap_cases h with ⟨hwrap, hfault⟩ | ⟨g, hbody, hcomment, hwrap⟩
  · rw [hwrap, Option.bind_none]
    exact iff_of_true rfl (hfault.imp_right Or.inl)
  · have hpart : part? ignoreCase pattern = some g.value := by
      rw [part?_eq_map_body?, hbody, Option.map_some]
    have hformed : WellFormed ignoreCase pattern := by
      rw [WellFormed, hpart]
      rfl
    have hlarge : TooLargeToWrap ignoreCase pattern ↔
        ¬(g.value.depth + 2 ≤ depthLimit ∧ g.value.size + 1 ≤ Reader.sizeLimit) := by
      simp [TooLargeToWrap, hpart]
    rw [hwrap, Option.bind_some, hlarge, or_iff_right (not_not_intro hformed),
      or_iff_right hcomment]
    simp only [ite_eq_right_iff, reduceCtorEq, imp_false]

/-- A pattern that closes no group but its own is refused just if it is malformed on its own, ends
in a comment, or has no room left for the wrapping. One that closes others is malformed, and no
comment begins without a number sign. -/
theorem compile_refuses_iff (spec : RuleSpec) :
    let ignoreCase := spec.ignoreCase.getD false
    let pattern := spec.pattern.toList
    (ClosesEarly ignoreCase pattern → ¬WellFormed ignoreCase pattern) ∧
      (EndsInComment ignoreCase pattern → '#' ∈ pattern) ∧
      (¬ClosesEarly ignoreCase pattern →
        (compile spec = .error (.invalidPattern spec.category spec.pattern) ↔
          ¬WellFormed ignoreCase pattern ∨ EndsInComment ignoreCase pattern ∨
            TooLargeToWrap ignoreCase pattern)) := by
  refine ⟨not_wellFormed_of_closesEarly, EndsInComment.mem, fun h => ?_⟩
  rw [compile_eq_error_iff]
  exact ofPattern?_wrap_eq_none_iff h

theorem wrapping_changes_faults :
    (¬WellFormed false "a)|(?:b".toList ∧
        ∃ regex, compile { category := .plain, pattern := "a)|(?:b" } =
          .ok ⟨.plain, "a)|(?:b", regex⟩) ∧
      WellFormed false "(?x)a # c".toList ∧
        compile { category := .plain, pattern := "(?x)a # c" } =
          .error (.invalidPattern .plain "(?x)a # c") := by
  refine ⟨⟨nofun, _, rfl⟩, rfl, rfl⟩

lemma extent_eq (rule : Rule) (text : List Char) :
    rule.extent text = (rule.regex.takes? text).filter (0 < ·) := by
  rw [extent]
  rcases rule.regex.find?_spec text with ⟨first, last, hfind, hmatch⟩ | ⟨hfind, hnone⟩
  · rw [hfind]
    dsimp only
    rcases Nat.eq_zero_or_pos first.offset with hzero | hpos
    · obtain rfl : first = Cursor.start text := Cursor.ext_offset hzero
      rw [Regex.takes?, hmatch.preferred, Option.map_some, Option.filter_some]
      simp [hzero]
    · have hnil : rule.regex.ends (Cursor.start text) = [] :=
        Regex.ends_eq_nil_iff.mpr fun d => hmatch.leftmost _ d hpos
      rw [if_neg (by omega), Regex.takes?, hnil]
      rfl
  · rw [hfind, Regex.takes?, Regex.ends_eq_nil_iff.mpr (hnone _)]
    rfl

end Rule

end Highlighting
