import Highlighting.Proofs.Pattern.Backtracking
import Highlighting.Rule

namespace Highlighting

namespace Taking

def behind (f : List Char → Option (List Char)) (text : List Char) : Option (List Char) :=
  (f text).map fun taken => text.drop taken.length

def first (p : Char → Bool) (f : List Char → Option (List Char)) : List Char → Option (List Char)
  | [] => none
  | c :: cs => if p c then (f cs).map (c :: ·) else none

def run (p : Char → Bool) (text : List Char) : Option (List Char) :=
  some (text.takeWhile p)

def nothing (_ : List Char) : Option (List Char) :=
  some []

def ending : List Char → Option (List Char)
  | [] => some []
  | _ :: _ => none

def either (f g : List Char → Option (List Char)) (text : List Char) : Option (List Char) :=
  (f text).or (g text)

lemma behind_nothing : behind nothing = some :=
  rfl

lemma behind_ending : behind ending = Regex.atEnd some := by
  funext text
  cases text <;> rfl

lemma behind_first (p : Char → Bool) (f : List Char → Option (List Char)) :
    behind (first p f) = Regex.reading p (behind f) := by
  funext text
  cases text with
  | nil => rfl
  | cons c cs =>
    by_cases hc : p c = true
    · simp [behind, first, Regex.reading, hc, Function.comp_def]
    · simp [behind, first, Regex.reading, hc]

lemma behind_run (p : Char → Bool) : behind (run p) = fun text => some (text.dropWhile p) := by
  funext text
  have h : text.takeWhile p ++ text.dropWhile p = text := List.takeWhile_append_dropWhile
  have hd := congrArg (List.drop (text.takeWhile p).length) h
  rw [List.drop_left] at hd
  simp [behind, run, hd]

lemma behind_either (f g : List Char → Option (List Char)) :
    behind (either f g) = fun text => (behind f text).or (behind g text) := by
  funext text
  cases hf : f text <;> simp [behind, either, hf]

lemma takeWhile_append_of_stop {q : Char → Bool} (w : List Char) {u : List Char}
    (hu : u.takeWhile q = []) : (w ++ u).takeWhile q = w.takeWhile q := by
  rw [List.takeWhile_append, hu, List.append_nil]
  split
  next hall =>
    have hfront := List.takeWhile_prefix q (l := w)
    exact (hfront.eq_of_length hall).symm
  next => rfl

lemma first_ne_nil (p : Char → Bool) (f : List Char → Option (List Char)) (text : List Char) :
    first p f text ≠ some [] := by
  cases text <;> simp [first]

lemma either_ne_nil {f g : List Char → Option (List Char)} {text : List Char}
    (hf : f text ≠ some []) (hg : g text ≠ some []) : either f g text ≠ some [] := by
  intro h
  rcases Option.or_eq_some_iff.mp h with h | ⟨_, h⟩
  · exact hf h
  · exact hg h

end Taking

open Taking

def TakesFront (f : List Char → Option (List Char)) : Prop :=
  ∀ text taken : List Char, f text = some taken → taken <+: text

lemma TakesFront.nothing : TakesFront nothing := by
  intro text taken h
  obtain rfl := Option.some.inj h
  exact List.nil_prefix

lemma TakesFront.ending : TakesFront ending := by
  intro text taken h
  cases text with
  | nil => exact TakesFront.nothing _ _ h
  | cons c cs => cases h

lemma TakesFront.run (p : Char → Bool) : TakesFront (run p) := by
  intro text taken h
  obtain rfl := Option.some.inj h
  exact List.takeWhile_prefix p

lemma TakesFront.first {f : List Char → Option (List Char)} (p : Char → Bool)
    (hf : TakesFront f) : TakesFront (first p f) := by
  intro text taken h
  cases text with
  | nil => cases h
  | cons c cs =>
    simp only [Taking.first, Option.ite_none_right_eq_some, Option.map_eq_some_iff] at h
    obtain ⟨_, tail, ht, rfl⟩ := h
    exact List.cons_prefix_cons.mpr ⟨rfl, hf _ _ ht⟩

lemma TakesFront.either {f g : List Char → Option (List Char)} (hf : TakesFront f)
    (hg : TakesFront g) : TakesFront (either f g) := by
  intro text taken h
  rcases Option.or_eq_some_iff.mp h with h | ⟨_, h⟩
  · exact hf _ _ h
  · exact hg _ _ h

namespace Regex

variable {text : List Char} {β : Type}

lemma attempt_set_behind (s : CharSet) (f : List Char → Option (List Char)) (c : Cursor text) :
    (set s).attempt c (behind f) = behind (first s.contains f) c.rest := by
  rw [attempt_set, behind_first]

lemma attempt_alt_behind {r s : Regex} {k f g : List Char → Option (List Char)} {c : Cursor text}
    (hr : r.attempt c k = behind f c.rest) (hs : s.attempt c k = behind g c.rest) :
    (alt r s).attempt c k = behind (either f g) c.rest := by
  rw [attempt_alt, hr, hs, behind_either]

lemma attempt_opt_behind (s : CharSet) (f : List Char → Option (List Char)) (c : Cursor text) :
    (opt true (set s)).attempt c (behind f) = behind (either (first s.contains f) f) c.rest := by
  rw [attempt_opt, attempt_set_behind, behind_either]

lemma attempt_star_behind (s : CharSet) (c : Cursor text) :
    (star true (set s)).attempt c (behind nothing) = behind (run s.contains) c.rest := by
  rw [behind_nothing, attempt_star_set, behind_run]

lemma attempt_plus_behind (s : CharSet) (c : Cursor text) :
    (plus true (set s)).attempt c (behind nothing) =
      behind (first s.contains (run s.contains)) c.rest := by
  rw [behind_nothing, attempt_plus_set, behind_first, behind_run]

lemma attempt_textEnd_behind (c : Cursor text) :
    (assert .textEnd).attempt c (behind nothing) = behind ending c.rest := by
  rw [behind_nothing, attempt_textEnd, behind_ending]

lemma attempt_tied (r : Regex) (k : List Char → Option β) :
    (cat (assert .textStart) r).attempt (Cursor.start text) k =
      r.attempt (Cursor.start text) k :=
  prefer_tied

end Regex

namespace Rule

structure Takes (rule : Rule) (f : List Char → Option (List Char)) : Prop where
  anchored : rule.regex.anchored = true
  front : TakesFront f
  ne_nil : ∀ text, f text ≠ some []
  attempt_eq : ∀ text, rule.regex.attempt (Cursor.start text) some = behind f text

lemma Takes.extent_eq {rule : Rule} {f : List Char → Option (List Char)} (h : rule.Takes f)
    (text : List Char) : rule.extent text = (f text).map List.length := by
  have hfind : rule.regex.find? text =
      (rule.regex.ends (Cursor.start text)).head?.map (Cursor.start text, ·) := by
    rw [Regex.find?, if_pos h.anchored]
  have hk := h.attempt_eq text
  rw [extent, hfind]
  unfold Regex.attempt Regex.prefer behind at hk
  cases he : rule.regex.ends (Cursor.start text) with
  | nil =>
    rw [he, List.findSome?_nil, eq_comm, Option.map_eq_none_iff] at hk
    rw [hk]
    rfl
  | cons d ds =>
    rw [he, List.findSome?_cons, eq_comm, Option.map_eq_some_iff] at hk
    obtain ⟨taken, ht, hd⟩ := hk
    have hl := (h.front _ _ ht).length_le
    have hp : 0 < taken.length := List.length_pos_iff.mpr fun h0 => h.ne_nil text (h0 ▸ ht)
    have ho : d.offset = taken.length := by
      have := d.offset_add_length_rest
      rw [← hd, List.length_drop] at this
      omega
    rw [ht]
    simp [Cursor.start, ho, hp]

end Rule

end Highlighting
