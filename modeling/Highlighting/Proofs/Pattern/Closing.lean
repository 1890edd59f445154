import Highlighting.Pattern.Parser
import Mathlib.Data.List.TakeWhile

/-! What is read of a pattern when a closing parenthesis is put behind it. -/

namespace Highlighting.Pattern

/-- The second text is the first with a closing parenthesis behind it, unless the parenthesis is
already passed over, which takes a comment. -/
inductive Shut (commented : Prop) : List Char → List Char → Prop
  | paren : Shut commented [] [')']
  | swallowed (h : commented) : Shut commented [] []
  | cons {c : Char} {cs cs' : List Char} (hc : c = '#' → commented) (h : Shut commented cs cs') :
    Shut commented (c :: cs) (c :: cs')

/-- What a reader makes of two such texts: the same, and the rests are such texts again. Where the
first text is at fault the second is too, or else is read to its end. -/
inductive Agree {α : Type} (commented : Prop) (n n' : ℕ) :
    Option (α × List Char) → Option (α × List Char) → Prop
  | none : Agree commented n n' none none
  | spent (a : α) : Agree commented n n' none (some (a, []))
  | some (a : α) {cs cs' : List Char} (h : Shut commented cs cs') (hn : cs.length ≤ n)
    (hn' : cs'.length ≤ n') : Agree commented n n' (some (a, cs)) (some (a, cs'))

variable {P : Prop} {α β : Type} {n n' m m' : ℕ} {cs cs' : List Char}

namespace Agree

lemma mono {x y : Option (α × List Char)} (h : Agree P n n' x y) (hm : n ≤ m) (hm' : n' ≤ m') :
    Agree P m m' x y := by
  cases h with
  | none => exact .none
  | spent a => exact .spent a
  | some a h hn hn' => exact .some a h (hn.trans hm) (hn'.trans hm')

lemma map {x y : Option (α × List Char)} (h : Agree P n n' x y) (f : α → β) :
    Agree P n n' (x.map fun found => (f found.1, found.2))
      (y.map fun found => (f found.1, found.2)) := by
  cases h with
  | none => exact .none
  | spent a => exact .spent (f a)
  | some a h hn hn' => exact .some (f a) h hn hn'

lemma filterMap {x y : Option (α × List Char)} (h : Agree P n n' x y) (g : α → Option β) :
    Agree P n n' (x.bind fun found => (g found.1).map (·, found.2))
      (y.bind fun found => (g found.1).map (·, found.2)) := by
  cases h with
  | none => exact .none
  | spent a =>
    rw [Option.bind_none, Option.bind_some]
    cases g a with
    | none => exact .none
    | some b => exact .spent b
  | some a h hn hn' =>
    rw [Option.bind_some, Option.bind_some]
    cases g a with
    | none => exact .none
    | some b => exact .some b h hn hn'

lemma filter {x y : Option (α × List Char)} (h : Agree P n n' x y) (p : α → Bool) :
    Agree P n n' (x.filter fun found => p found.1) (y.filter fun found => p found.1) := by
  cases h with
  | none => exact .none
  | spent a =>
    rw [Option.filter_some]
    split
    · exact .spent a
    · exact .none
  | some a h hn hn' =>
    rw [Option.filter_some, Option.filter_some]
    split
    · exact .some a h hn hn'
    · exact .none

lemma through {z z' : α × List Char} (h : Agree P n n' (Option.some z) (Option.some z'))
    {k : α × List Char → Option (β × List Char)}
    (hk : ∀ a {ds ds'}, Shut P ds ds' → Agree P ds.length ds'.length (k (a, ds)) (k (a, ds'))) :
    Agree P n n' (k z) (k z') := by
  cases h with
  | some a h hn hn' => exact (hk a h).mono hn hn'

lemma bind {x y : Option (α × List Char)} (h : Agree P n n' x y)
    {k : α × List Char → Option (β × List Char)}
    (hk : ∀ a {ds ds'}, Shut P ds ds' → Agree P ds.length ds'.length (k (a, ds)) (k (a, ds')))
    (hspent : ∀ a, Agree P n n' Option.none (k (a, []))) : Agree P n n' (x.bind k) (y.bind k) := by
  cases h with
  | none => exact .none
  | spent a => exact hspent a
  | some a h hn hn' => exact (hk a h).mono hn hn'

end Agree

lemma Shut.skipBlank (h : Shut P cs cs') {inComment : Bool} (hcomment : inComment = true → P) :
    Shut P (skipBlank inComment cs) (skipBlank inComment cs') := by
  induction h generalizing inComment with
  | paren =>
    cases inComment with
    | true => exact .swallowed (hcomment rfl)
    | false => exact .paren
  | swallowed h => exact .swallowed h
  | @cons c cs cs' hc h ih =>
    cases inComment with
    | true => exact ih fun _ => hcomment rfl
    | false =>
      simp only [Pattern.skipBlank, Bool.false_eq_true, if_false]
      split
      · exact ih nofun
      · split
        next hnumber => exact ih fun _ => hc hnumber
        next => exact .cons hc h

lemma Shut.dropWhile (h : Shut P cs cs') {p : Char → Bool} (hp : p ')' = false) :
    Shut P (cs.dropWhile p) (cs'.dropWhile p) := by
  induction h with
  | paren =>
    rw [List.dropWhile_nil, List.dropWhile_cons_of_neg (by simp [hp])]
    exact .paren
  | swallowed h => exact .swallowed h
  | @cons c cs cs' hc h ih =>
    cases hcp : p c with
    | true => rwa [List.dropWhile_cons_of_pos hcp, List.dropWhile_cons_of_pos hcp]
    | false =>
      rw [List.dropWhile_cons_of_neg (by simp [hcp]), List.dropWhile_cons_of_neg (by simp [hcp])]
      exact .cons hc h

lemma Shut.dropWhile_of_passed (h : Shut P cs cs') {p : Char → Bool} (hp : p ')' = true) :
    (cs.dropWhile p = [] ∧ cs'.dropWhile p = []) ∨
      ∃ d ds ds', cs.dropWhile p = d :: ds ∧ cs'.dropWhile p = d :: ds' ∧ Shut P ds ds' ∧
        cs'.takeWhile p = cs.takeWhile p := by
  induction h with
  | paren => exact Or.inl ⟨rfl, List.dropWhile_cons_of_pos hp⟩
  | swallowed h => exact Or.inl ⟨rfl, rfl⟩
  | @cons c cs cs' hc h ih =>
    cases hcp : p c with
    | true =>
      simp only [List.dropWhile_cons_of_pos hcp, List.takeWhile_cons_of_pos hcp]
      rcases ih with hnone | ⟨d, ds, ds', hd, hd', hrest, htaken⟩
      · exact Or.inl hnone
      · exact Or.inr ⟨d, ds, ds', hd, hd', hrest, by rw [htaken]⟩
    | false =>
      have hneg : ¬p c = true := by simp [hcp]
      refine Or.inr ⟨c, cs, cs', List.dropWhile_cons_of_neg hneg, List.dropWhile_cons_of_neg hneg,
        h, ?_⟩
      rw [List.takeWhile_cons_of_neg hneg, List.takeWhile_cons_of_neg hneg]

lemma Shut.peek (h : Shut P cs cs') {x : Char} (hx : x ≠ ')') :
    (∃ ds ds', cs = x :: ds ∧ cs' = x :: ds' ∧ Shut P ds ds') ∨
      (∀ ds, cs ≠ x :: ds) ∧ ∀ ds, cs' ≠ x :: ds := by
  cases h with
  | paren => exact Or.inr ⟨nofun, fun ds heq => hx (List.cons.inj heq).1.symm⟩
  | swallowed h => exact Or.inr ⟨nofun, nofun⟩
  | @cons c cs cs' hc h =>
    rcases eq_or_ne c x with rfl | hne
    · exact Or.inl ⟨cs, cs', rfl, rfl, h⟩
    · right
      exact ⟨fun ds heq => hne (List.cons.inj heq).1, fun ds heq => hne (List.cons.inj heq).1⟩

lemma Shut.trim (f : Flags) (h : Shut P cs cs') : Shut P (trim f cs) (trim f cs') := by
  unfold Pattern.trim
  split
  · exact h.skipBlank nofun
  · exact h

lemma length_skipBlank_le (inComment : Bool) (cs : List Char) :
    (skipBlank inComment cs).length ≤ cs.length := by
  induction cs generalizing inComment with
  | nil => exact le_rfl
  | cons c cs ih =>
    unfold skipBlank
    split
    · exact (ih _).trans (Nat.le_succ _)
    · split
      · exact (ih _).trans (Nat.le_succ _)
      · split
        · exact (ih _).trans (Nat.le_succ _)
        · exact le_rfl

lemma length_trim_le (f : Flags) (cs : List Char) : (trim f cs).length ≤ cs.length := by
  unfold trim
  split
  · exact length_skipBlank_le false cs
  · exact le_rfl

lemma trim_nil (f : Flags) : trim f [] = [] := by
  simp [trim, skipBlank]

lemma trim_cons (f : Flags) {c : Char} (hspace : Property.isWhiteSpace c = false) (hne : c ≠ '#')
    (cs : List Char) : trim f (c :: cs) = c :: cs := by
  simp [trim, skipBlank, hspace, hne]

lemma Agree.behind_trim {x y : Option (α × List Char)} (f : Flags)
    (h : Agree P (trim f cs).length (trim f cs').length x y) :
    Agree P (cs.length + 1) (cs'.length + 1) x y := by
  apply h.mono
  · exact (length_trim_le f cs).trans (Nat.le_succ _)
  · exact (length_trim_le f cs').trans (Nat.le_succ _)

section Numbers

variable (f : Flags)

lemma agree_hexDigits? (h : Shut P cs cs') (value count : ℕ) :
    Agree P cs.length cs'.length (hexDigits? f value count cs) (hexDigits? f value count cs') := by
  induction count generalizing value cs cs' with
  | zero =>
    unfold hexDigits?
    cases scalar? value with
    | none => exact .none
    | some c => exact .some c h le_rfl le_rfl
  | succ count ih =>
    cases h with
    | paren => exact .none
    | swallowed h => exact .none
    | @cons c cs cs' hc h =>
      unfold hexDigits?
      cases hexDigit? c with
      | none => exact .none
      | some d => exact (ih (h.trim f) _).behind_trim f

lemma agree_hexInBraces? (h : Shut P cs cs') {fuel fuel' : ℕ} (hfuel : cs.length < fuel)
    (hfuel' : cs'.length < fuel') (value : Option ℕ) :
    Agree P cs.length cs'.length (hexInBraces? fuel f value cs)
      (hexInBraces? fuel' f value cs') := by
  induction fuel generalizing fuel' value cs cs' with
  | zero => exact absurd hfuel (Nat.not_lt_zero _)
  | succ fuel ih =>
    obtain ⟨fuel', rfl⟩ := Nat.exists_eq_succ_of_ne_zero (Nat.ne_zero_of_lt hfuel')
    cases h with
    | paren => exact .none
    | swallowed h => exact .none
    | @cons c cs cs' hc h =>
      have hlength := length_trim_le f cs
      have hlength' := length_trim_le f cs'
      rw [List.length_cons] at hfuel hfuel'
      unfold hexInBraces?
      split
      · cases value with
        | none => exact .none
        | some value =>
          simp only [Option.bind_eq_bind, Option.bind_some]
          cases scalar? value with
          | none => exact .none
          | some c => exact (Agree.some c (h.trim f) le_rfl le_rfl).behind_trim f
      · cases hexDigit? c with
        | none => exact .none
        | some d => exact (ih (h.trim f) (by omega) (by omega) _).behind_trim f

lemma hexEscape?_of_ne {f : Flags} {cs : List Char} (h : ∀ ds, trim f cs ≠ '\x7b' :: ds)
    (count : ℕ) : hexEscape? f count cs = (hexDigits? f 0 count (trim f cs)).filter
      fun found => !(f.ascii && count == 2) || isAscii found.1 := by
  unfold hexEscape?
  split
  next ds heq => exact absurd heq (h ds)
  next => rfl

lemma agree_hexEscape? (h : Shut P cs cs') (count : ℕ) :
    Agree P cs.length cs'.length (hexEscape? f count cs) (hexEscape? f count cs') := by
  have hlength := length_trim_le f cs
  have hlength' := length_trim_le f cs'
  rcases (h.trim f).peek (x := '\x7b') (by decide) with ⟨ds, ds', heq, heq', hrest⟩ | ⟨hne, hne'⟩
  · unfold hexEscape?
    rw [heq, List.length_cons] at hlength
    rw [heq', List.length_cons] at hlength'
    rw [heq, heq']
    apply ((agree_hexInBraces? f (hrest.trim f) ?_ ?_ none).behind_trim f).mono hlength hlength'
    · exact Nat.lt_succ_of_le (length_trim_le f ds)
    · exact Nat.lt_succ_of_le (length_trim_le f ds')
  · rw [hexEscape?_of_ne hne, hexEscape?_of_ne hne']
    exact ((agree_hexDigits? f (h.trim f) 0 count).filter
      fun c => !(f.ascii && count == 2) || isAscii c).mono hlength hlength'

lemma agree_decimalDigits (h : Shut P cs cs') {fuel fuel' : ℕ} (hfuel : cs.length < fuel)
    (hfuel' : cs'.length < fuel') (value : Option ℕ) :
    Agree P cs.length cs'.length (some (decimalDigits fuel f value cs))
      (some (decimalDigits fuel' f value cs')) := by
  induction fuel generalizing fuel' value cs cs' with
  | zero => exact absurd hfuel (Nat.not_lt_zero _)
  | succ fuel ih =>
    obtain ⟨fuel', rfl⟩ := Nat.exists_eq_succ_of_ne_zero (Nat.ne_zero_of_lt hfuel')
    cases h with
    | paren => exact .some value .paren le_rfl le_rfl
    | swallowed h => exact .some value (.swallowed h) le_rfl le_rfl
    | @cons c cs cs' hc h =>
      have hlength := length_trim_le f cs
      have hlength' := length_trim_le f cs'
      rw [List.length_cons] at hfuel hfuel'
      unfold decimalDigits
      split
      · exact (ih (h.trim f) (by omega) (by omega) _).behind_trim f
      · exact .some value (.cons hc h) le_rfl le_rfl

lemma agree_decimal? (h : Shut P cs cs') :
    Agree P cs.length cs'.length (decimal? f cs) (decimal? f cs') := by
  have hparen : Property.isWhiteSpace ')' = false := by decide
  have hlength := (List.dropWhile_sublist Property.isWhiteSpace (l := cs)).length_le
  have hlength' := (List.dropWhile_sublist Property.isWhiteSpace (l := cs')).length_le
  have hdigits := agree_decimalDigits f (h.dropWhile hparen) (Nat.lt_succ_of_le hlength)
    (Nat.lt_succ_of_le hlength') none
  unfold decimal?
  generalize decimalDigits (cs.length + 1) f none _ = found,
    decimalDigits (cs'.length + 1) f none _ = found' at hdigits ⊢
  cases hdigits with
  | some value hrest hn hn' =>
    cases value with
    | none => exact .none
    | some n =>
      dsimp only
      split
      · exact .some n (hrest.dropWhile hparen)
          ((List.dropWhile_sublist _).length_le.trans (hn.trans hlength))
          ((List.dropWhile_sublist _).length_le.trans (hn'.trans hlength'))
      · exact .none

end Numbers

section Escapes

variable (f : Flags)

lemma agree_wordEdgeName? (h : Shut P cs cs') {fuel fuel' : ℕ} (hfuel : cs.length < fuel)
    (hfuel' : cs'.length < fuel') (name : List Char) :
    Agree P cs.length cs'.length (wordEdgeName? fuel f name cs)
      (wordEdgeName? fuel' f name cs') := by
  induction fuel generalizing fuel' name cs cs' with
  | zero => exact absurd hfuel (Nat.not_lt_zero _)
  | succ fuel ih =>
    obtain ⟨fuel', rfl⟩ := Nat.exists_eq_succ_of_ne_zero (Nat.ne_zero_of_lt hfuel')
    cases h with
    | paren => exact .none
    | swallowed h => exact .none
    | @cons c cs cs' hc h =>
      have hlength := length_trim_le f cs
      have hlength' := length_trim_le f cs'
      rw [List.length_cons] at hfuel hfuel'
      unfold wordEdgeName?
      split
      · exact (ih (h.trim f) (by omega) (by omega) _).behind_trim f
      · split
        · cases wordEdgeNamed? (String.ofList name.reverse) with
          | none => exact .none
          | some edge => exact .some edge h (Nat.le_succ _) (Nat.le_succ _)
        · exact .none

/-- The first text is at fault; of the second a brace is left that opens nothing. -/
def LeavesBrace {α : Type} (a : α) (x y : Option (α × List Char)) : Prop :=
  x = none ∧ ∃ ds, y = some (a, '\x7b' :: ds) ∧ trim f ds = [')']

lemma wordBoundary?_brace (ds : List Char) : wordBoundary? f ('\x7b' :: ds) =
    match trim f ds with
    | [] => none
    | c :: rest =>
      if isWordEdgeName c then
        (wordEdgeName? (rest.length + 2) f [] (c :: rest)).map
          fun (edge, cs) => (.assert (.word f.ascii edge), cs)
      else some (.assert (.word f.ascii .boundary), '\x7b' :: ds) :=
  rfl

lemma wordBoundary?_of_ne {f : Flags} {cs : List Char} (h : ∀ ds, cs ≠ '\x7b' :: ds) :
    wordBoundary? f cs = some (.assert (.word f.ascii .boundary), cs) := by
  unfold wordBoundary?
  split
  next ds => exact absurd rfl (h ds)
  next => rfl

lemma agree_wordBoundary? (h : Shut P cs cs') :
    Agree P cs.length cs'.length (wordBoundary? f cs) (wordBoundary? f cs') ∨
      LeavesBrace f (.assert (.word f.ascii .boundary)) (wordBoundary? f cs)
        (wordBoundary? f cs') := by
  rcases h.peek (x := '\x7b') (by decide) with ⟨ds, ds', rfl, rfl, hrest⟩ | ⟨hne, hne'⟩
  · have hlength := length_trim_le f ds
    have hlength' := length_trim_le f ds'
    have htrim := hrest.trim f
    rw [wordBoundary?_brace, wordBoundary?_brace]
    generalize hds : trim f ds = es, hds' : trim f ds' = es' at htrim hlength hlength'
    cases htrim with
    | paren => exact Or.inr ⟨rfl, ds', rfl, hds'⟩
    | swallowed h => exact Or.inl .none
    | @cons c es es' hc htrim =>
      left
      dsimp only
      split
      · apply ((agree_wordEdgeName? f (.cons hc htrim) ?_ ?_ []).map
          fun edge => Escape.assert (.word f.ascii edge)).mono
        · exact hlength.trans (Nat.le_succ _)
        · exact hlength'.trans (Nat.le_succ _)
        · exact Nat.lt_succ_self _
        · exact Nat.lt_succ_self _
      · exact .some _ h le_rfl le_rfl
  · rw [wordBoundary?_of_ne hne, wordBoundary?_of_ne hne']
    exact Or.inl (.some _ h le_rfl le_rfl)

lemma nameInBraces?_nil (fuel : ℕ) (name : List Char) : nameInBraces? fuel f name [] = none := by
  cases fuel <;> rfl

lemma agree_nameInBraces? (h : Shut P cs cs') {fuel fuel' : ℕ} (hfuel : cs.length < fuel)
    (hfuel' : cs'.length < fuel') (name : List Char) :
    Agree P cs.length cs'.length (nameInBraces? fuel f name cs)
      (nameInBraces? fuel' f name cs') := by
  induction fuel generalizing fuel' name cs cs' with
  | zero => exact absurd hfuel (Nat.not_lt_zero _)
  | succ fuel ih =>
    obtain ⟨fuel', rfl⟩ := Nat.exists_eq_succ_of_ne_zero (Nat.ne_zero_of_lt hfuel')
    cases h with
    | paren =>
      rw [nameInBraces?_nil, nameInBraces?, if_neg (by decide), trim_nil, nameInBraces?_nil]
      exact .none
    | swallowed h =>
      rw [nameInBraces?_nil, nameInBraces?_nil]
      exact .none
    | @cons c cs cs' hc h =>
      have hlength := length_trim_le f cs
      have hlength' := length_trim_le f cs'
      rw [List.length_cons] at hfuel hfuel'
      unfold nameInBraces?
      split
      · exact .some _ h (Nat.le_succ _) (Nat.le_succ _)
      · exact (ih (h.trim f) (by omega) (by omega) _).behind_trim f

lemma unicodeClass?_of_nil {f : Flags} {cs : List Char} (h : trim f cs = []) (negated : Bool) :
    unicodeClass? f negated cs = none := by
  rw [unicodeClass?, h]

lemma unicodeClass?_of_ne {f : Flags} {c : Char} {cs ds : List Char} (h : trim f cs = c :: ds)
    (hne : c ≠ '\x7b') (negated : Bool) :
    unicodeClass? f negated cs = (unicodeSet? f negated [c]).map (·, ds) := by
  rw [unicodeClass?, h]
  split
  next heq => exact nomatch heq
  next heq => exact absurd (List.cons.inj heq).1 hne
  next heq =>
    obtain ⟨rfl, rfl⟩ := List.cons.inj heq
    rfl

lemma agree_unicodeClass? (h : Shut P cs cs') (negated : Bool) :
    Agree P cs.length cs'.length (unicodeClass? f negated cs) (unicodeClass? f negated cs') := by
  have htrim := h.trim f
  have hlength := length_trim_le f cs
  have hlength' := length_trim_le f cs'
  generalize hds : trim f cs = ds, hds' : trim f cs' = ds' at htrim hlength hlength'
  cases htrim with
  | paren =>
    rw [unicodeClass?_of_nil hds, unicodeClass?_of_ne hds' (by decide)]
    cases unicodeSet? f negated [')'] with
    | none => exact .none
    | some s => exact .spent s
  | swallowed h =>
    rw [unicodeClass?_of_nil hds, unicodeClass?_of_nil hds']
    exact .none
  | @cons c ds ds' hc htrim =>
    rcases eq_or_ne c '\x7b' with rfl | hne
    · simp only [unicodeClass?, hds, hds']
      apply (((agree_nameInBraces? f (htrim.trim f) ?_ ?_ []).filterMap
        (unicodeSet? f negated)).behind_trim f).mono hlength hlength'
      · exact Nat.lt_succ_of_le (length_trim_le f ds)
      · exact Nat.lt_succ_of_le (length_trim_le f ds')
    · rw [unicodeClass?_of_ne hds hne, unicodeClass?_of_ne hds' hne]
      rw [List.length_cons] at hlength hlength'
      cases unicodeSet? f negated [c] with
      | none => exact .none
      | some s => exact .some s htrim (by omega) (by omega)

lemma escape?_cons (c : Char) :
    (∃ count, ∀ cs, escape? f (c :: cs) =
      (hexEscape? f count cs).map fun (c, cs) => (.literal c, cs)) ∨
    (∃ negated, ∀ cs, escape? f (c :: cs) =
      (unicodeClass? f negated cs).map fun (s, cs) => (.set s, cs)) ∨
    (∀ cs, escape? f (c :: cs) = wordBoundary? f cs) ∨
      ∃ e? : Option Escape, ∀ cs, escape? f (c :: cs) = e?.map (·, cs) := by
  have hcomplement : ∀ s : CharSet, ∃ e? : Option Escape, ∀ cs : List Char,
      ((f.complement? s).map fun s => (Escape.set s, cs)) = e?.map (·, cs) :=
    fun s => ⟨(f.complement? s).map .set, fun cs => by rw [Option.map_map]; rfl⟩
  unfold escape?
  dsimp only
  split
  any_goals exact Or.inr (Or.inr (Or.inr ⟨some _, fun _ => rfl⟩))
  · exact Or.inl ⟨2, fun _ => rfl⟩
  · exact Or.inl ⟨4, fun _ => rfl⟩
  · exact Or.inl ⟨8, fun _ => rfl⟩
  · exact Or.inr (Or.inr (Or.inr (hcomplement _)))
  · exact Or.inr (Or.inr (Or.inr (hcomplement _)))
  · exact Or.inr (Or.inr (Or.inr (hcomplement _)))
  · exact Or.inr (Or.inl ⟨false, fun _ => rfl⟩)
  · exact Or.inr (Or.inl ⟨true, fun _ => rfl⟩)
  · exact Or.inr (Or.inr (Or.inl fun _ => rfl))
  · split
    · exact Or.inr (Or.inr (Or.inr ⟨some _, fun _ => rfl⟩))
    · exact Or.inr (Or.inr (Or.inr ⟨none, fun _ => rfl⟩))

lemma agree_escape? (h : Shut P cs cs') :
    Agree P cs.length cs'.length (escape? f cs) (escape? f cs') ∨
      LeavesBrace f (.assert (.word f.ascii .boundary)) (escape? f cs) (escape? f cs') := by
  cases h with
  | paren => exact Or.inl (.spent _)
  | swallowed h => exact Or.inl .none
  | @cons c cs cs' hc h =>
    rcases escape?_cons f c with ⟨count, hhex⟩ | ⟨negated, hclass⟩ | hedge | ⟨e?, hfixed⟩
    · rw [hhex, hhex]
      left
      exact ((agree_hexEscape? f h count).map Escape.literal).mono (Nat.le_succ _) (Nat.le_succ _)
    · rw [hclass, hclass]
      left
      exact ((agree_unicodeClass? f h negated).map Escape.set).mono (Nat.le_succ _) (Nat.le_succ _)
    · rw [hedge, hedge]
      exact (agree_wordBoundary? f h).imp_left fun hagree =>
        hagree.mono (Nat.le_succ _) (Nat.le_succ _)
    · rw [hfixed, hfixed]
      left
      cases e? with
      | none => exact .none
      | some e => exact .some e h (Nat.le_succ _) (Nat.le_succ _)

end Escapes

end Highlighting.Pattern
