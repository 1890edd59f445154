import Highlighting.Proofs.Pattern.Preference

/-! The order of preference for continuations that see the text behind a place only, and for
repetitions of what has one way to go on. -/

namespace Highlighting

variable {text : List Char} {β : Type}

namespace Regex

/-- What `k` makes of the text behind the first stop of `r` from `c` that it accepts. -/
def attempt (r : Regex) (c : Cursor text) (k : List Char → Option β) : Option β :=
  r.prefer c fun d => k d.rest

def reading (p : Char → Bool) (k : List Char → Option β) : List Char → Option β
  | [] => none
  | x :: rest => if p x then k rest else none

lemma attempt_set (s : CharSet) (c : Cursor text) (k : List Char → Option β) :
    (set s).attempt c k = reading s.contains k c.rest := by
  cases hr : c.rest with
  | nil => simp [attempt, prefer, ends, Cursor.next?_of_rest_nil hr, reading]
  | cons x rest =>
    obtain ⟨d, hd, rfl⟩ := Cursor.next?_of_rest_cons hr
    by_cases hx : s.contains x = true
    · simp [attempt, prefer, ends, hd, hx, reading]
    · simp [attempt, prefer, ends, hd, hx, reading]

lemma attempt_cat {r s : Regex} {c : Cursor text} {k f : List Char → Option β}
    (h : ∀ d : Cursor text, s.attempt d k = f d.rest) : (cat r s).attempt c k = r.attempt c f := by
  unfold attempt at h ⊢
  rw [prefer_cat]
  simp only [h]

lemma attempt_alt (r s : Regex) (c : Cursor text) (k : List Char → Option β) :
    (alt r s).attempt c k = (r.attempt c k).or (s.attempt c k) :=
  prefer_alt

lemma attempt_opt (r : Regex) (c : Cursor text) (k : List Char → Option β) :
    (opt true r).attempt c k = (r.attempt c k).or (k c.rest) :=
  prefer_opt true

def atEnd (k : List Char → Option β) : List Char → Option β
  | [] => k []
  | _ :: _ => none

lemma attempt_textEnd (c : Cursor text) (k : List Char → Option β) :
    (assert .textEnd).attempt c k = atEnd k c.rest := by
  cases hr : c.rest with
  | nil => simp [attempt, prefer, ends, Assertion.holds, hr, atEnd]
  | cons x rest => simp [attempt, prefer, ends, Assertion.holds, hr, atEnd]

/-- `r` has at most one way to go on from a place, `f` tells which, never to stay. -/
structure StepsBy (r : Regex) (f : List Char → Option (List Char)) : Prop where
  not_nullable : r.nullable = false
  ends_eq : ∀ {text : List Char} (c : Cursor text), (r.ends c).map Cursor.rest = (f c.rest).toList

inductive Exhausts (f : List Char → Option (List Char)) : List Char → List Char → Prop
  | done {rest : List Char} : f rest = none → Exhausts f rest rest
  | next {rest rest' last : List Char} : f rest = some rest' → Exhausts f rest' last →
      Exhausts f rest last

section StepsBy

variable {r s : Regex} {f g : List Char → Option (List Char)} {c : Cursor text}
  {rest last : List Char} {k : List Char → Option β}

lemma StepsBy.ends_nil (h : StepsBy r f) (hc : f c.rest = none) : r.ends c = [] := by
  have he := h.ends_eq c
  rw [hc] at he
  exact List.map_eq_nil_iff.mp he

lemma StepsBy.ends_singleton (h : StepsBy r f) (hc : f c.rest = some rest) :
    ∃ d : Cursor text, r.ends c = [d] ∧ d.rest = rest := by
  have he := h.ends_eq c
  rw [hc] at he
  exact List.map_eq_singleton_iff.mp he

lemma attempt_star (h : StepsBy r f) (hx : Exhausts f c.rest last)
    (hk : k last = none → ∀ rest rest', f rest = some rest' → k rest = none) :
    (star true r).attempt c k = k last := by
  generalize hc : c.rest = rest at hx
  induction hx generalizing c with
  | done hf =>
    subst hc
    rw [attempt, prefer_star h.not_nullable, prefer, h.ends_nil hf]
    rfl
  | @next rest rest' last hf _ ih =>
    subst hc
    obtain ⟨d, hd, hr⟩ := h.ends_singleton hf
    have hnext : (star true r).prefer d (fun e => k e.rest) = k last := ih hk hr
    rw [attempt, prefer_star h.not_nullable, prefer, hd, List.findSome?_singleton, hnext, inOrder,
      if_pos rfl]
    cases hl : k last with
    | some b => rfl
    | none => exact hk hl _ _ hf

lemma attempt_plus_none (h : StepsBy r f) (hf : f c.rest = none) :
    (plus true r).attempt c k = none := by
  rw [attempt, prefer_plus h.not_nullable, prefer, h.ends_nil hf]
  rfl

lemma attempt_plus_some (h : StepsBy r f) (hf : f c.rest = some rest) (hx : Exhausts f rest last)
    (hk : k last = none → ∀ rest rest', f rest = some rest' → k rest = none) :
    (plus true r).attempt c k = k last := by
  obtain ⟨d, hd, rfl⟩ := h.ends_singleton hf
  rw [attempt, prefer_plus h.not_nullable, prefer, hd, List.findSome?_singleton]
  exact attempt_star h hx hk

lemma stepsBy_set (s : CharSet) : StepsBy (set s) (reading s.contains some) where
  not_nullable := rfl
  ends_eq c := by
    cases hr : c.rest with
    | nil => simp [ends, Cursor.next?_of_rest_nil hr, reading]
    | cons x rest =>
      obtain ⟨d, hd, rfl⟩ := Cursor.next?_of_rest_cons hr
      by_cases hx : s.contains x = true
      · simp [ends, hd, hx, reading]
      · simp [ends, hd, hx, reading]

lemma StepsBy.distinct_ends (h : StepsBy r f) (c : Cursor text) :
    Cursor.distinct (r.ends c) = r.ends c := by
  cases hf : f c.rest with
  | none =>
    rw [h.ends_nil hf]
    rfl
  | some rest =>
    obtain ⟨d, hd, -⟩ := h.ends_singleton hf
    rw [hd]
    rfl

lemma StepsBy.cat (hr : StepsBy r f) (hs : StepsBy s g) :
    StepsBy (.cat r s) (fun rest => (f rest).bind g) where
  not_nullable := by simp [nullable, hr.not_nullable]
  ends_eq c := by
    rw [ends]
    cases hf : f c.rest with
    | none =>
      rw [hr.ends_nil hf]
      rfl
    | some rest =>
      obtain ⟨d, hd, rfl⟩ := hr.ends_singleton hf
      rw [hd, List.flatMap_singleton, hs.distinct_ends, hs.ends_eq]
      rfl

lemma StepsBy.alt (hr : StepsBy r f) (hs : StepsBy s g)
    (hfg : ∀ rest, f rest = none ∨ g rest = none) :
    StepsBy (.alt r s) (fun rest => (f rest).or (g rest)) where
  not_nullable := by simp [nullable, hr.not_nullable, hs.not_nullable]
  ends_eq c := by
    rw [ends]
    rcases hfg c.rest with hf | hg
    · rw [hr.ends_nil hf, List.nil_append, hs.distinct_ends, hs.ends_eq, hf, Option.none_or]
    · rw [hs.ends_nil hg, List.append_nil, hr.distinct_ends, hr.ends_eq, hg, Option.or_none]

end StepsBy

lemma exhausts_reading (p : Char → Bool) (rest : List Char) :
    Exhausts (reading p some) rest (rest.dropWhile p) := by
  induction rest with
  | nil => exact .done rfl
  | cons x rest ih =>
    by_cases hx : p x = true
    · rw [List.dropWhile_cons_of_pos hx]
      exact .next (by simp [reading, hx]) ih
    · rw [List.dropWhile_cons_of_neg hx]
      exact .done (by simp [reading, hx])

lemma attempt_star_set (s : CharSet) (c : Cursor text) :
    (star true (set s)).attempt c some = some (c.rest.dropWhile s.contains) :=
  attempt_star (stepsBy_set s) (exhausts_reading _ _) (fun h => by cases h)

lemma attempt_plus_set (s : CharSet) (c : Cursor text) :
    (plus true (set s)).attempt c some =
      reading s.contains (fun rest => some (rest.dropWhile s.contains)) c.rest := by
  cases hf : reading s.contains some c.rest with
  | none =>
    rw [attempt_plus_none (stepsBy_set s) hf]
    cases hr : c.rest with
    | nil => rfl
    | cons x rest =>
      simp only [hr, reading, ite_eq_right_iff, reduceCtorEq, imp_false] at hf
      simp [reading, hf]
  | some rest =>
    rw [attempt_plus_some (stepsBy_set s) hf (exhausts_reading _ _) (fun h => by cases h)]
    cases hr : c.rest with
    | nil => simp [hr, reading] at hf
    | cons x tail =>
      simp only [hr, reading, Option.ite_none_right_eq_some, Option.some.injEq] at hf
      simp [reading, hf.1, hf.2]

end Regex

end Highlighting
