import Highlighting.Proofs.Assembly.Classification
import Mathlib.Algebra.Ring.Parity
import Mathlib.Data.List.DropRight

namespace Highlighting

def Token.IsLoneQuote (t : Token) : Prop :=
  t.category = .plain ∧ t.text = "\""

instance (t : Token) : Decidable t.IsLoneQuote :=
  inferInstanceAs (Decidable (_ ∧ _))

namespace Assembly

open Taking

lemma ne_backslash {c : Char} {cs : List Char} (hlast : c = '\\' → cs = [] → False)
    (hescape : ∀ d ds, c = '\\' → cs = d :: ds → False) : c ≠ '\\' := by
  intro hc
  cases cs with
  | nil => exact hlast hc rfl
  | cons d ds => exact hescape d ds hc rfl

lemma throughQuote?_cons {c : Char} (hquote : c ≠ '"') (hbackslash : c ≠ '\\') (cs : List Char) :
    throughQuote? (c :: cs) = (throughQuote? cs).map (c :: ·) := by
  rw [throughQuote?]
  · exact hquote
  · exact fun hc _ => hbackslash hc
  · exact fun _ _ hc _ => hbackslash hc

lemma throughQuote?_of_closed {text taken : List Char} (h : throughQuote? text = some taken)
    (hclosed : taken ≠ text) (rest : List Char) : throughQuote? (taken ++ rest) = some taken := by
  fun_induction throughQuote? text generalizing taken with
  | case1 =>
    obtain rfl := Option.some.inj h
    exact absurd rfl hclosed
  | case2 cs =>
    obtain rfl := Option.some.inj h
    rfl
  | case3 => cases h
  | case4 c cs ih =>
    obtain ⟨body, hbody, rfl⟩ := Option.map_eq_some_iff.mp h
    have hrest := ih hbody (fun he => hclosed (by rw [he]))
    simp only [List.cons_append, throughQuote?, hrest, Option.map_some]
  | case5 c cs hquote hlast hescape ih =>
    obtain ⟨body, hbody, rfl⟩ := Option.map_eq_some_iff.mp h
    have hrest := ih hbody (fun he => hclosed (by rw [he]))
    have hbackslash := ne_backslash hlast hescape
    rw [List.cons_append, throughQuote?_cons hquote hbackslash, hrest]
    rfl

def trailingBackslashes (text : List Char) : Nat :=
  (text.rtakeWhile (· == '\\')).length

lemma trailingBackslashes_append (before rest : List Char) :
    trailingBackslashes (before ++ rest) =
      if trailingBackslashes rest = rest.length then rest.length + trailingBackslashes before
      else trailingBackslashes rest := by
  simp only [trailingBackslashes, List.rtakeWhile, List.length_reverse, List.reverse_append,
    List.takeWhile_append]
  split <;> simp

lemma trailingBackslashes_append_cons (before : List Char) {c : Char} (hc : c ≠ '\\')
    (rest : List Char) : trailingBackslashes (before ++ c :: rest) = trailingBackslashes rest := by
  have hnone : trailingBackslashes (before ++ [c]) = 0 := by
    simp [trailingBackslashes, hc]
  rw [← List.singleton_append, ← List.append_assoc, trailingBackslashes_append, hnone]
  split
  next hall => rw [hall, Nat.add_zero]
  next => rfl

def ClosesAt (body : List Char) (i : Nat) : Prop :=
  body[i]? = some '"' ∧ Even (trailingBackslashes (body.take i))

instance (body : List Char) (i : Nat) : Decidable (ClosesAt body i) :=
  inferInstanceAs (Decidable (_ ∧ _))

def closingQuote? (body : List Char) : Option Nat :=
  (List.range body.length).find? fun i => decide (ClosesAt body i)

def bodyLength? (body : List Char) : Option Nat :=
  match closingQuote? body with
  | some i => some (i + 1)
  | none => if Even (trailingBackslashes body) then some body.length else none

lemma ClosesAt.lt {body : List Char} {i : Nat} (h : ClosesAt body i) : i < body.length :=
  (List.getElem?_eq_some_iff.mp h.1).1

lemma closingQuote?_eq_some_iff (body : List Char) (i : Nat) :
    closingQuote? body = some i ↔ ClosesAt body i ∧ ∀ j < i, ¬ClosesAt body j := by
  simp only [closingQuote?, List.find?_range_eq_some, decide_eq_true_eq, List.mem_range,
    Bool.not_eq_true', decide_eq_false_iff_not]
  exact ⟨fun h => ⟨h.1, h.2.2⟩, fun h => ⟨h.1, h.1.lt, h.2⟩⟩

lemma closingQuote?_eq_none_iff (body : List Char) :
    closingQuote? body = none ↔ ∀ i, ¬ClosesAt body i := by
  simp only [closingQuote?, List.find?_range_eq_none, Bool.not_eq_true', decide_eq_false_iff_not]
  exact ⟨fun h i hi => h i hi.lt hi, fun h i _ => h i⟩

structure Passed (front : List Char) : Prop where
  even_iff : ∀ rest, Even (trailingBackslashes (front ++ rest)) ↔ Even (trailingBackslashes rest)
  not_closesAt : ∀ rest, ∀ i < front.length, ¬ClosesAt (front ++ rest) i

lemma Passed.plain {c : Char} (hquote : c ≠ '"') (hbackslash : c ≠ '\\') : Passed [c] where
  even_iff rest := by
    have hcons := trailingBackslashes_append_cons [] hbackslash rest
    rw [List.nil_append] at hcons
    rw [List.singleton_append, hcons]
  not_closesAt rest i hi := by
    obtain rfl : i = 0 := by simpa using hi
    simp [ClosesAt, hquote]

lemma Passed.escape (c : Char) : Passed ['\\', c] where
  even_iff rest := by
    by_cases hc : c = '\\'
    · rw [hc, trailingBackslashes_append]
      split
      next hall =>
        rw [← hall]
        exact Nat.even_add.trans (iff_true_right (by decide))
      next => exact Iff.rfl
    · have hcons := trailingBackslashes_append_cons ['\\'] hc rest
      rw [List.singleton_append] at hcons
      rw [List.cons_append, List.singleton_append, hcons]
  not_closesAt rest i hi := by
    -- Where the escaped character is a quote, one backslash stands before it.
    have hodd : ¬Even (trailingBackslashes ['\\']) := by decide
    obtain rfl | rfl : i = 0 ∨ i = 1 := by
      simp only [List.length_cons, List.length_nil] at hi
      omega
    · simp [ClosesAt]
    · simp [ClosesAt, hodd]

namespace Passed

variable {front : List Char}

lemma closesAt_append_iff (h : Passed front) (rest : List Char) (i : Nat) :
    ClosesAt (front ++ rest) (front.length + i) ↔ ClosesAt rest i := by
  rw [ClosesAt, ClosesAt, List.getElem?_append_right (by omega), List.take_length_add_append,
    h.even_iff, Nat.add_sub_cancel_left]

lemma closingQuote?_append (h : Passed front) (rest : List Char) :
    closingQuote? (front ++ rest) = (closingQuote? rest).map (front.length + ·) := by
  cases hrest : closingQuote? rest with
  | some i =>
    obtain ⟨hi, hfirst⟩ := (closingQuote?_eq_some_iff rest i).mp hrest
    apply (closingQuote?_eq_some_iff _ _).mpr
    refine ⟨(h.closesAt_append_iff rest i).mpr hi, fun j (hj : j < front.length + i) hcloses => ?_⟩
    by_cases hfront : j < front.length
    · exact h.not_closesAt rest j hfront hcloses
    · obtain ⟨k, rfl⟩ := Nat.exists_eq_add_of_le (Nat.le_of_not_lt hfront)
      exact hfirst k (by omega) ((h.closesAt_append_iff rest k).mp hcloses)
  | none =>
    have hopen := (closingQuote?_eq_none_iff rest).mp hrest
    apply (closingQuote?_eq_none_iff _).mpr
    intro j hcloses
    by_cases hfront : j < front.length
    · exact h.not_closesAt rest j hfront hcloses
    · obtain ⟨k, rfl⟩ := Nat.exists_eq_add_of_le (Nat.le_of_not_lt hfront)
      exact hopen k ((h.closesAt_append_iff rest k).mp hcloses)

lemma bodyLength?_append (h : Passed front) (rest : List Char) :
    bodyLength? (front ++ rest) = (bodyLength? rest).map (front.length + ·) := by
  rw [bodyLength?, bodyLength?, h.closingQuote?_append]
  cases closingQuote? rest with
  | some i => rfl
  | none =>
    simp only [Option.map_none, h.even_iff, List.length_append]
    split <;> rfl

end Passed

lemma length_throughQuote? (body : List Char) :
    (throughQuote? body).map List.length = bodyLength? body := by
  fun_induction throughQuote? body with
  | case1 => rfl
  | case2 cs =>
    have hclosing : closingQuote? ('"' :: cs) = some 0 := by
      apply (closingQuote?_eq_some_iff _ _).mpr
      exact ⟨⟨rfl, Even.zero⟩, fun j hj => absurd hj (Nat.not_lt_zero j)⟩
    rw [bodyLength?, hclosing]
    rfl
  | case3 => decide
  | case4 c cs ih =>
    calc ((throughQuote? cs).map fun body => '\\' :: c :: body).map List.length
        = ((throughQuote? cs).map List.length).map (2 + ·) := by
          simp [Function.comp_def, Nat.add_comm 2]
      _ = bodyLength? ('\\' :: c :: cs) := by
          rw [ih]
          exact ((Passed.escape c).bodyLength?_append cs).symm
  | case5 c cs hquote hlast hescape ih =>
    have hbackslash := ne_backslash hlast hescape
    calc ((throughQuote? cs).map (c :: ·)).map List.length
        = ((throughQuote? cs).map List.length).map (1 + ·) := by
          simp [Function.comp_def, Nat.add_comm 1]
      _ = bodyLength? (c :: cs) := by
          rw [ih]
          exact ((Passed.plain hquote hbackslash).bodyLength?_append cs).symm

lemma getLast?_of_trailingBackslashes {text : List Char} (h : Odd (trailingBackslashes text)) :
    text.getLast? = some '\\' := by
  rcases text.eq_nil_or_concat' with rfl | ⟨before, c, rfl⟩
  · exact absurd h Nat.not_odd_zero
  · by_cases hc : c = '\\'
    · rw [hc, List.getLast?_concat]
    · rw [trailingBackslashes_append_cons before hc []] at h
      exact absurd h Nat.not_odd_zero

lemma odd_trailingBackslashes {text : List Char} (h : throughQuote? text = none) :
    Odd (trailingBackslashes text) := by
  have hnone : bodyLength? text = none := by rw [← length_throughQuote?, h, Option.map_none]
  unfold bodyLength? at hnone
  split at hnone
  next => cases hnone
  next =>
    apply Nat.not_even_iff_odd.mp
    intro heven
    rw [if_pos heven] at hnone
    cases hnone

lemma scan_quote_eq_plain_iff {cs taken : List Char} :
    scan ('"' :: cs) = some (.plain, taken) ↔ throughQuote? cs = none ∧ taken = ['"'] := by
  cases h : throughQuote? cs with
  | none => simp [scan, isBlank, string?, h, eq_comm]
  | some body => simp [scan, isBlank, string?, h]

lemma scan_bang_of_open {cs : List Char} (h : throughQuote? cs = none) :
    scan ('!' :: '"' :: cs) = some (.plain, ['!']) := by
  simp [scan, isBlank, string?, h]

def stringLength? : List Char → Option Nat
  | '"' :: body => (bodyLength? body).map (1 + ·)
  | '!' :: '"' :: body => (bodyLength? body).map (2 + ·)
  | _ => none

lemma length_string? (text : List Char) :
    (string? text).map List.length = stringLength? text := by
  fun_cases string? text with
  | case1 cs => simp [stringLength?, ← length_throughQuote?, Function.comp_def, Nat.add_comm 1]
  | case2 cs => simp [stringLength?, ← length_throughQuote?, Function.comp_def, Nat.add_comm 2]
  | case3 text hquote hbang =>
    rw [stringLength?]
    · rfl
    · exact hquote
    · exact hbang

theorem matchLength_stringRule : ∃ lexer, Assembly.lexer = .ok lexer ∧
    ∃ rule, lexer.rules.filter (·.category = .string) = [rule] ∧ ∀ text : String,
      rule.matchLength text =
        (stringLength? text.toList).map fun n => utf8Length (text.toList.take n) := by
  refine ⟨table, lexer_eq_table, stringRule, rfl, fun text => ?_⟩
  rw [Rule.matchLength, takes_stringRule.extent_eq, length_string?]

end Assembly

end Highlighting
