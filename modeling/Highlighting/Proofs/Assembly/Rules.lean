import Highlighting.Proofs.Assembly.Scanner
import Highlighting.Proofs.Assembly.Table
import Highlighting.Proofs.Pattern.Taking

namespace Highlighting.Assembly

open Regex Taking

lemma contains_union (s t : CharSet) (c : Char) :
    (CharSet.union s t).contains c = (s.contains c || t.contains c) :=
  rfl

lemma contains_complement (s : CharSet) (c : Char) :
    (CharSet.complement s).contains c = !s.contains c :=
  rfl

lemma contains_singleton (x c : Char) : (CharSet.singleton x).contains c = (c == x) := by
  rw [CharSet.singleton, CharSet.contains]
  grind

lemma contains_oneOf (cs : List Char) (c : Char) : (oneOf cs).contains c = decide (c ∈ cs) := by
  rw [Bool.eq_iff_iff, decide_eq_true_iff]
  induction cs with
  | nil => simp [oneOf, CharSet.contains]
  | cons x cs ih =>
    cases cs with
    | nil => simp [oneOf, contains_singleton]
    | cons y cs =>
      have he : oneOf (x :: y :: cs) = .union (.singleton x) (oneOf (y :: cs)) := rfl
      rw [he, contains_union, contains_singleton, Bool.or_eq_true, ih, beq_iff_eq,
        ← List.mem_cons]

lemma contains_range_upper (c : Char) : (CharSet.range 'A' 'Z').contains c = c.isUpper := by
  change (decide ('A' ≤ c) && decide (c ≤ 'Z')) = decide ('A' ≤ c ∧ c ≤ 'Z')
  rw [Bool.decide_and]

lemma contains_range_lower (c : Char) : (CharSet.range 'a' 'z').contains c = c.isLower :=
  rfl

lemma isAlpha_eq (c : Char) : c.isAlpha = (c.isUpper || c.isLower) :=
  rfl

lemma contains_digitSet : digitSet.contains = Char.isDigit :=
  rfl

lemma contains_blankSet : blankSet.contains = isBlank :=
  funext (contains_oneOf _)

lemma contains_withinLineSet : withinLineSet.contains = fun c => !endsLine c := by
  funext c
  rw [withinLineSet, contains_complement, contains_oneOf, endsLine]

lemma contains_sigilSet : sigilSet.contains = isSigil :=
  funext (contains_oneOf _)

lemma contains_symbolStartSet : symbolStartSet.contains = isSymbolStart := by
  funext c
  simp only [symbolStartSet, contains_union, contains_singleton, contains_oneOf,
    contains_range_lower, contains_range_upper, isSymbolStart, isAlpha_eq]
  grind

lemma contains_symbolPartSet : symbolPartSet.contains = isSymbolPart := by
  funext c
  simp only [symbolPartSet, contains_union, contains_singleton, contains_digitSet,
    contains_range_lower, contains_range_upper, isSymbolPart, isSymbolStart, isAlpha_eq]
  grind

lemma contains_nameStartSet : nameStartSet.contains = isNameStart := by
  funext c
  rw [nameStartSet, contains_union, contains_union, contains_range_lower, contains_range_upper,
    contains_singleton, isNameStart, isAlpha_eq, Bool.or_assoc]

lemma contains_namePartSet : namePartSet.contains = isNamePart := by
  funext c
  rw [namePartSet, contains_union, contains_digitSet, contains_nameStartSet, isNamePart,
    Bool.or_comm]

lemma contains_hexDigitSet : hexDigitSet.contains = isHexDigit := by
  funext c
  simp only [hexDigitSet, contains_union, contains_digitSet, CharSet.contains, isHexDigit]
  grind

lemma contains_punctuationSet : punctuationSet.contains = isPunctuation :=
  funext (contains_oneOf _)

lemma attempt_character (x : Char) (f : List Char → Option (List Char)) {text : List Char}
    (c : Cursor text) :
    (character x).attempt c (behind f) = behind (first (· == x) f) c.rest := by
  rw [character, attempt_set_behind, funext (contains_singleton x)]

def afterPart : List Char → Option (List Char)
  | [] => none
  | c :: cs => if c = '"' then none else if c = '\\' then cs.tail? else some cs

lemma contains_unescapedSet (c : Char) :
    unescapedSet.contains c = true ↔ c ≠ '"' ∧ c ≠ '\\' := by
  rw [unescapedSet, contains_complement, contains_oneOf]
  simp

lemma contains_anySet (c : Char) : anySet.contains c = true := by
  rw [anySet, contains_union, contains_complement, Bool.or_not_self]

lemma stepsBy_stringPart : StepsBy stringPart afterPart := by
  have hplain := stepsBy_set unescapedSet
  have hescaped := (stepsBy_set (.singleton '\\')).cat (stepsBy_set anySet)
  have hsplit : ∀ rest, reading unescapedSet.contains some rest = none ∨
      (reading (CharSet.singleton '\\').contains some rest).bind (reading anySet.contains some) =
        none := by
    intro rest
    cases rest with
    | nil => exact Or.inl rfl
    | cons c cs =>
      by_cases hc : c = '\\'
      · left
        simp [reading, contains_unescapedSet, hc]
      · right
        simp [reading, contains_singleton, hc]
  have hstep := hplain.alt hescaped hsplit
  have he : (fun rest => (reading unescapedSet.contains some rest).or
      ((reading (CharSet.singleton '\\').contains some rest).bind (reading anySet.contains some))) =
        afterPart := by
    funext rest
    cases rest with
    | nil => rfl
    | cons c cs =>
      by_cases hq : c = '"'
      · simp [reading, contains_unescapedSet, contains_singleton, hq, afterPart]
      · by_cases hb : c = '\\'
        · cases cs <;>
            simp [reading, contains_unescapedSet, contains_singleton, contains_anySet, hb,
              afterPart]
        · simp [reading, contains_unescapedSet, contains_singleton, hq, hb, afterPart]
  rw [he] at hstep
  exact hstep

def closing : List Char → Option (List Char) :=
  either (first (· == '"') nothing) ending

lemma exhausts_afterPart (cs : List Char) :
    ∃ last, Exhausts afterPart cs last ∧ behind closing last = behind throughQuote? cs := by
  fun_induction throughQuote? cs with
  | case1 => exact ⟨[], .done rfl, rfl⟩
  | case2 cs => exact ⟨'"' :: cs, .done rfl, rfl⟩
  | case3 => exact ⟨['\\'], .done rfl, rfl⟩
  | case4 c cs ih =>
    obtain ⟨last, hx, hl⟩ := ih
    refine ⟨last, .next (by simp [afterPart]) hx, ?_⟩
    rw [hl]
    simp [behind, throughQuote?, Function.comp_def]
  | case5 c cs hq hlast hpair ih =>
    have hq : c ≠ '"' := hq
    have hb : c ≠ '\\' := by
      rintro rfl
      cases cs with
      | nil => exact hlast rfl rfl
      | cons d ds => exact hpair d ds rfl rfl
    obtain ⟨last, hx, hl⟩ := ih
    refine ⟨last, .next (by simp [afterPart, hq, hb]) hx, ?_⟩
    rw [hl]
    simp [behind, throughQuote?, Function.comp_def]

lemma attempt_star_stringPart {text : List Char} (c : Cursor text) :
    (star true stringPart).attempt c (behind closing) = behind throughQuote? c.rest := by
  obtain ⟨last, hx, hl⟩ := exhausts_afterPart c.rest
  rw [attempt_star stepsBy_stringPart hx, hl]
  intro _ rest rest' hf
  cases rest with
  | nil => cases hf
  | cons x cs =>
    have hq : x ≠ '"' := by
      rintro rfl
      cases hf
    simp [behind, closing, either, first, ending, hq]

lemma headed?_eq (p q : Char → Bool) : headed? p q = first p (run q) := by
  funext text
  cases text <;> rfl

def sigil? : List Char → Option (List Char) :=
  first isSigil (either (headed? isSymbolStart isSymbolPart) (headed? Char.isDigit Char.isDigit))

def punctuation? : List Char → Option (List Char) :=
  either (first isPunctuation nothing)
    (first (· == '.') (first (· == '.') (first (· == '.') ending)))

lemma string?_eq : string? = either (first (· == '!') (first (· == '"') throughQuote?))
    (first (· == '"') throughQuote?) := by
  funext text
  cases text with
  | nil => rfl
  | cons c cs =>
    by_cases hq : c = '"'
    · subst hq
      simp [string?, either, first]
    · by_cases hb : c = '!'
      · subst hb
        cases cs with
        | nil => rfl
        | cons d ds =>
          by_cases hd : d = '"'
          · subst hd
            simp [string?, either, first, Function.comp_def]
          · simp [string?, either, first, hd]
      · simp [string?, either, first, hq, hb]

lemma hexadecimal?_eq : hexadecimal? = first (· == '0')
    (first (fun c => decide (c ∈ ['x', 'X'])) (first isHexDigit (run isHexDigit))) := by
  funext text
  cases text with
  | nil => rfl
  | cons c cs =>
    by_cases hc : c = '0'
    · subst hc
      cases cs with
      | nil => rfl
      | cons x ds =>
        by_cases hx : x = 'x' ∨ x = 'X'
        · simp [hexadecimal?, first, hx, headed?_eq, Function.comp_def]
        · simp [hexadecimal?, first, hx]
    · simp [hexadecimal?, first, hc]

lemma number?_eq : number? = either (first (· == '$') digits?) digits? := by
  funext text
  cases text with
  | nil => rfl
  | cons c cs =>
    by_cases hc : c = '$'
    · subst hc
      simp [number?, either, first, digits?, hexadecimal?, headed?]
    · simp [number?, either, first, hc]

lemma takesFront_headed (p q : Char → Bool) : TakesFront (headed? p q) := by
  rw [headed?_eq]
  exact (TakesFront.run q).first p

lemma headed?_ne_nil (p q : Char → Bool) (text : List Char) : headed? p q text ≠ some [] := by
  rw [headed?_eq]
  exact first_ne_nil _ _ _

lemma takesFront_throughQuote : TakesFront throughQuote? := by
  intro text
  fun_induction throughQuote? text with
  | case1 => exact TakesFront.nothing []
  | case2 cs =>
    intro taken h
    obtain rfl := Option.some.inj h
    exact List.cons_prefix_cons.mpr ⟨rfl, List.nil_prefix⟩
  | case3 =>
    intro taken h
    cases h
  | case4 c cs ih =>
    intro taken h
    obtain ⟨body, hbody, rfl⟩ := Option.map_eq_some_iff.mp h
    exact List.cons_prefix_cons.mpr ⟨rfl, List.cons_prefix_cons.mpr ⟨rfl, ih body hbody⟩⟩
  | case5 c cs _ _ _ ih =>
    intro taken h
    obtain ⟨body, hbody, rfl⟩ := Option.map_eq_some_iff.mp h
    exact List.cons_prefix_cons.mpr ⟨rfl, ih body hbody⟩

lemma takesFront_digits : TakesFront digits? := by
  have hhex : TakesFront hexadecimal? := by
    rw [hexadecimal?_eq]
    exact (((TakesFront.run _).first _).first _).first _
  exact hhex.either (takesFront_headed _ _)

lemma digits?_ne_nil (text : List Char) : digits? text ≠ some [] := by
  refine either_ne_nil ?_ (headed?_ne_nil _ _ _)
  rw [hexadecimal?_eq]
  exact first_ne_nil _ _ _

lemma attempt_digits {text : List Char} (c : Cursor text) :
    (plus true (.set digitSet)).attempt c (behind nothing) =
      behind (headed? Char.isDigit Char.isDigit) c.rest := by
  rw [attempt_plus_behind, contains_digitSet, headed?_eq]

lemma takes_blankRule : blankRule.Takes (headed? isBlank isBlank) where
  anchored := rfl
  front := takesFront_headed _ _
  ne_nil := headed?_ne_nil _ _
  attempt_eq text := by
    rw [← behind_nothing, blankRule, tied, attempt_tied, tied, attempt_tied, attempt_plus_behind,
      contains_blankSet, headed?_eq]
    rfl

lemma takes_stringRule : stringRule.Takes string? where
  anchored := rfl
  front := by
    rw [string?_eq]
    exact ((takesFront_throughQuote.first _).first _).either (takesFront_throughQuote.first _)
  ne_nil text := by
    rw [string?_eq]
    exact either_ne_nil (first_ne_nil _ _ _) (first_ne_nil _ _ _)
  attempt_eq text := by
    have hclosing : ∀ d : Cursor text,
        (alt (character '"') (assert .textEnd)).attempt d (behind nothing) =
          behind closing d.rest :=
      fun d => attempt_alt_behind (attempt_character '"' nothing d) (attempt_textEnd_behind d)
    rw [← behind_nothing, stringRule, tied, attempt_tied, attempt_cat hclosing,
      attempt_cat attempt_star_stringPart,
      attempt_cat (fun d => attempt_character '"' throughQuote? d), tied, attempt_tied, character,
      attempt_opt_behind, funext (contains_singleton '!'), string?_eq]
    rfl

lemma takes_commentRule : commentRule.Takes (headed? (· == '#') (!endsLine ·)) where
  anchored := rfl
  front := takesFront_headed _ _
  ne_nil := headed?_ne_nil _ _
  attempt_eq text := by
    rw [← behind_nothing, commentRule, tied, attempt_tied,
      attempt_cat (fun d => attempt_star_behind withinLineSet d), tied, attempt_tied,
      attempt_character, contains_withinLineSet, headed?_eq]
    rfl

lemma takes_sigilRule : sigilRule.Takes sigil? where
  anchored := rfl
  front := ((takesFront_headed _ _).either (takesFront_headed _ _)).first _
  ne_nil := first_ne_nil _ _
  attempt_eq text := by
    have hsymbol : ∀ d : Cursor text,
        (cat (.set symbolStartSet) (star true (.set symbolPartSet))).attempt d (behind nothing) =
          behind (headed? isSymbolStart isSymbolPart) d.rest := by
      intro d
      rw [attempt_cat (fun e => attempt_star_behind symbolPartSet e), attempt_set_behind,
        contains_symbolStartSet, contains_symbolPartSet, headed?_eq]
    rw [← behind_nothing, sigilRule, tied, attempt_tied,
      attempt_cat (fun d => attempt_alt_behind (hsymbol d) (attempt_digits d)), tied, attempt_tied,
      attempt_set_behind, contains_sigilSet]
    rfl

lemma takes_nameRule : nameRule.Takes (headed? isNameStart isNamePart) where
  anchored := rfl
  front := takesFront_headed _ _
  ne_nil := headed?_ne_nil _ _
  attempt_eq text := by
    rw [← behind_nothing, nameRule, tied, attempt_tied,
      attempt_cat (fun d => attempt_star_behind namePartSet d), tied, attempt_tied,
      attempt_set_behind, contains_nameStartSet, contains_namePartSet, headed?_eq]
    rfl

lemma takes_numberRule : numberRule.Takes number? where
  anchored := rfl
  front := by
    rw [number?_eq]
    exact (takesFront_digits.first _).either takesFront_digits
  ne_nil text := by
    rw [number?_eq]
    exact either_ne_nil (first_ne_nil _ _ _) (digits?_ne_nil _)
  attempt_eq text := by
    have hhex : ∀ d : Cursor text,
        (cat (cat (character '0') (.set (oneOf ['x', 'X'])))
          (plus true (.set hexDigitSet))).attempt d (behind nothing) =
          behind hexadecimal? d.rest := by
      intro d
      rw [attempt_cat (fun e => attempt_plus_behind hexDigitSet e),
        attempt_cat (fun e => attempt_set_behind (oneOf ['x', 'X']) _ e), attempt_character,
        contains_hexDigitSet, funext (contains_oneOf _), hexadecimal?_eq]
    rw [← behind_nothing, numberRule, tied, attempt_tied,
      attempt_cat (fun d => attempt_alt_behind (hhex d) (attempt_digits d)), tied, attempt_tied,
      character, attempt_opt_behind, funext (contains_singleton '$'), number?_eq]
    rfl

lemma takes_punctuationRule : punctuationRule.Takes punctuation? where
  anchored := rfl
  front :=
    (TakesFront.nothing.first _).either (((TakesFront.ending.first _).first _).first _)
  ne_nil text := either_ne_nil (first_ne_nil _ _ _) (first_ne_nil _ _ _)
  attempt_eq text := by
    have hsingle : (tied (.set punctuationSet)).attempt (Cursor.start text) (behind nothing) =
        behind (first isPunctuation nothing) text := by
      rw [tied, attempt_tied, attempt_set_behind, contains_punctuationSet]
      rfl
    have hellipsis :
        (cat (cat (cat (character '.') (character '.')) (character '.'))
          (assert .textEnd)).attempt (Cursor.start text) (behind nothing) =
          behind (first (· == '.') (first (· == '.') (first (· == '.') ending))) text := by
      rw [attempt_cat attempt_textEnd_behind,
        attempt_cat (fun d => attempt_character '.' ending d),
        attempt_cat (fun d => attempt_character '.' _ d), attempt_character]
      rfl
    rw [← behind_nothing, punctuationRule, tied, attempt_tied,
      attempt_alt_behind (c := Cursor.start text) hsingle hellipsis]
    rfl

def forms : List (Rule × (List Char → Option (List Char))) :=
  [(blankRule, headed? isBlank isBlank), (stringRule, string?),
    (commentRule, headed? (· == '#') (!endsLine ·)), (sigilRule, sigil?),
    (nameRule, headed? isNameStart isNamePart), (numberRule, number?),
    (punctuationRule, punctuation?)]

lemma rules_table : table.rules = forms.map Prod.fst :=
  rfl

lemma takes_of_mem {rule : Rule} {f : List Char → Option (List Char)} (h : (rule, f) ∈ forms) :
    rule.Takes f := by
  simp only [forms, List.mem_cons, Prod.mk.injEq, List.not_mem_nil, or_false] at h
  rcases h with ⟨rfl, rfl⟩ | ⟨rfl, rfl⟩ | ⟨rfl, rfl⟩ | ⟨rfl, rfl⟩ | ⟨rfl, rfl⟩ | ⟨rfl, rfl⟩ |
    ⟨rfl, rfl⟩
  · exact takes_blankRule
  · exact takes_stringRule
  · exact takes_commentRule
  · exact takes_sigilRule
  · exact takes_nameRule
  · exact takes_numberRule
  · exact takes_punctuationRule

end Highlighting.Assembly
