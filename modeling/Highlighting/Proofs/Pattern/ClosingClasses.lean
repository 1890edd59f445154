import Highlighting.Proofs.Pattern.Closing

namespace Highlighting.Pattern

variable {P : Prop} {n n' : ℕ} {cs cs' : List Char} (f : Flags)

section Opening

lemma leadingHyphens_of_ne {f : Flags} {cs : List Char} (h : ∀ ds, cs ≠ '-' :: ds) (fuel : ℕ)
    (k : OpenClass) : leadingHyphens fuel f k cs = (k, cs) := by
  unfold leadingHyphens
  split
  next ds => exact absurd rfl (h ds)
  next => rfl

lemma agree_leadingHyphens (h : Shut P cs cs') {fuel fuel' : ℕ} (hfuel : cs.length ≤ fuel)
    (hfuel' : cs'.length ≤ fuel') (k : OpenClass) :
    Agree P cs.length cs'.length (some (leadingHyphens fuel f k cs))
      (some (leadingHyphens fuel' f k cs')) := by
  induction fuel generalizing fuel' k cs cs' with
  | zero =>
    obtain rfl := List.length_eq_zero_iff.mp (Nat.le_zero.mp hfuel)
    have hne : ∀ ds, cs' ≠ '-' :: ds := by
      rcases h.peek (x := '-') (by decide) with ⟨ds, -, heq, -⟩ | ⟨-, hne⟩
      · exact nomatch heq
      · exact hne
    have hnil : ∀ ds, ([] : List Char) ≠ '-' :: ds := nofun
    rw [leadingHyphens_of_ne hnil, leadingHyphens_of_ne hne]
    exact .some k h le_rfl le_rfl
  | succ fuel ih =>
    rcases h.peek (x := '-') (by decide) with ⟨ds, ds', rfl, rfl, hrest⟩ | ⟨hne, hne'⟩
    · have hlength := length_trim_le f ds
      have hlength' := length_trim_le f ds'
      rw [List.length_cons] at hfuel hfuel'
      obtain ⟨fuel', rfl⟩ := Nat.exists_eq_succ_of_ne_zero (Nat.ne_zero_of_lt hfuel')
      exact (ih (hrest.trim f) (by omega) (by omega) _).behind_trim f
    · rw [leadingHyphens_of_ne hne, leadingHyphens_of_ne hne']
      exact .some k h le_rfl le_rfl

def negation (cs : List Char) : Bool × List Char :=
  match cs with
  | '^' :: cs => (true, trim f cs)
  | cs => (false, cs)

def leadingBracket (found : OpenClass × List Char) : OpenClass × List Char :=
  match found.1.parts, found.2 with
  | [], ']' :: cs => (found.1.add (.leaf (.singleton ']')), trim f cs)
  | _, cs => (found.1, cs)

lemma openClass_eq (cs : List Char) : openClass f cs = leadingBracket f
    (leadingHyphens (negation f (trim f cs)).2.length f ⟨(negation f (trim f cs)).1, none, []⟩
      (negation f (trim f cs)).2) :=
  rfl

lemma negation_of_ne {f : Flags} {cs : List Char} (h : ∀ ds, cs ≠ '^' :: ds) :
    negation f cs = (false, cs) := by
  unfold negation
  split
  next ds => exact absurd rfl (h ds)
  next => rfl

lemma agree_negation (h : Shut P cs cs') :
    Agree P cs.length cs'.length (some (negation f cs)) (some (negation f cs')) := by
  rcases h.peek (x := '^') (by decide) with ⟨ds, ds', rfl, rfl, hrest⟩ | ⟨hne, hne'⟩
  · exact (Agree.some true (hrest.trim f) le_rfl le_rfl).behind_trim f
  · rw [negation_of_ne hne, negation_of_ne hne']
    exact .some false h le_rfl le_rfl

lemma leadingBracket_of_ne {f : Flags} {k : OpenClass} {cs : List Char}
    (h : k.parts = [] → ∀ ds, cs ≠ ']' :: ds) : leadingBracket f (k, cs) = (k, cs) := by
  unfold leadingBracket
  split
  next ds hparts heq => exact absurd heq (h hparts ds)
  next => rfl

lemma agree_leadingBracket (h : Shut P cs cs') (k : OpenClass) :
    Agree P cs.length cs'.length (some (leadingBracket f (k, cs)))
      (some (leadingBracket f (k, cs'))) := by
  rcases h.peek (x := ']') (by decide) with ⟨ds, ds', rfl, rfl, hrest⟩ | ⟨hne, hne'⟩
  · cases hparts : k.parts with
    | nil =>
      have hadd : ∀ ds, leadingBracket f (k, ']' :: ds) =
          (k.add (.leaf (.singleton ']')), trim f ds) := by
        intro ds
        simp only [leadingBracket, hparts]
      rw [hadd, hadd]
      exact (Agree.some _ (hrest.trim f) le_rfl le_rfl).behind_trim f
    | cons p parts =>
      rw [leadingBracket_of_ne (by simp [hparts]), leadingBracket_of_ne (by simp [hparts])]
      exact .some k h le_rfl le_rfl
  · rw [leadingBracket_of_ne fun _ => hne, leadingBracket_of_ne fun _ => hne']
    exact .some k h le_rfl le_rfl

lemma agree_openClass (h : Shut P cs cs') :
    Agree P cs.length cs'.length (some (openClass f cs)) (some (openClass f cs')) := by
  rw [openClass_eq, openClass_eq]
  have hnegation := (agree_negation f (h.trim f)).mono (length_trim_le f cs) (length_trim_le f cs')
  apply hnegation.through
    (k := fun z => some (leadingBracket f (leadingHyphens z.2.length f ⟨z.1, none, []⟩ z.2)))
  intro negated ds ds' hds
  apply (agree_leadingHyphens f hds le_rfl le_rfl ⟨negated, none, []⟩).through
    (k := fun z => some (leadingBracket f z))
  intro k es es' hes
  exact agree_leadingBracket f hes k

end Opening

section Named

def namedClass? (negated : Bool) (cs : List Char) : Option ((Bool × AsciiClass) × List Char) :=
  match cs.dropWhile (· != ':') with
  | ':' :: ']' :: rest =>
    (AsciiClass.ofName? (String.ofList (cs.takeWhile (· != ':')))).map
      fun k => ((negated, k), rest)
  | _ => none

lemma namedClass?_of_ne {cs : List Char} (h : ∀ ds, cs.dropWhile (· != ':') ≠ ':' :: ']' :: ds)
    (negated : Bool) : namedClass? negated cs = none := by
  unfold namedClass?
  split
  next ds heq => exact absurd heq (h ds)
  next => rfl

lemma agree_namedClass? (h : Shut P cs cs') (negated : Bool) :
    Agree P cs.length cs'.length (namedClass? negated cs) (namedClass? negated cs') ∧
      (namedClass? negated cs).isSome = (namedClass? negated cs').isSome := by
  have hlength := (List.dropWhile_sublist (· != ':') (l := cs)).length_le
  have hlength' := (List.dropWhile_sublist (· != ':') (l := cs')).length_le
  rcases h.dropWhile_of_passed (p := (· != ':')) (by decide) with
    ⟨hnil, hnil'⟩ | ⟨d, ds, ds', hd, hd', hrest, htaken⟩
  · rw [namedClass?_of_ne (by simp [hnil]), namedClass?_of_ne (by simp [hnil'])]
    exact ⟨.none, rfl⟩
  · rcases hrest.peek (x := ']') (by decide) with ⟨es, es', rfl, rfl, hes⟩ | ⟨hne, hne'⟩
    · rcases eq_or_ne d ':' with rfl | hcolon
      · rw [hd, List.length_cons, List.length_cons] at hlength
        rw [hd', List.length_cons, List.length_cons] at hlength'
        simp only [namedClass?, hd, hd', htaken]
        cases AsciiClass.ofName? (String.ofList (cs.takeWhile (· != ':'))) with
        | none => exact ⟨.none, rfl⟩
        | some k => exact ⟨.some _ hes (by omega) (by omega), rfl⟩
      · rw [namedClass?_of_ne (by simp [hd, hcolon]), namedClass?_of_ne (by simp [hd', hcolon])]
        exact ⟨.none, rfl⟩
    · rw [namedClass?_of_ne (by simp [hd, hne]), namedClass?_of_ne (by simp [hd', hne'])]
      exact ⟨.none, rfl⟩

lemma asciiClass?_of_ne {cs : List Char} (h : ∀ ds, cs ≠ ':' :: ds) : asciiClass? cs = none := by
  unfold asciiClass?
  split
  next ds => exact absurd rfl (h ds)
  next => rfl

def namedNegation (cs : List Char) : Bool × List Char :=
  match cs with
  | '^' :: cs => (true, cs)
  | cs => (false, cs)

lemma asciiClass?_colon (cs : List Char) :
    asciiClass? (':' :: cs) = namedClass? (namedNegation cs).1 (namedNegation cs).2 :=
  rfl

lemma namedNegation_of_ne {cs : List Char} (h : ∀ ds, cs ≠ '^' :: ds) :
    namedNegation cs = (false, cs) := by
  unfold namedNegation
  split
  next ds => exact absurd rfl (h ds)
  next => rfl

lemma agree_asciiClass? (h : Shut P cs cs') :
    Agree P cs.length cs'.length (asciiClass? cs) (asciiClass? cs') ∧
      (asciiClass? cs).isSome = (asciiClass? cs').isSome := by
  rcases h.peek (x := ':') (by decide) with ⟨ds, ds', rfl, rfl, hds⟩ | ⟨hne, hne'⟩
  · rw [asciiClass?_colon, asciiClass?_colon]
    rcases hds.peek (x := '^') (by decide) with ⟨es, es', rfl, rfl, hes⟩ | ⟨hne, hne'⟩
    · obtain ⟨hagree, hsome⟩ := agree_namedClass? hes true
      refine ⟨hagree.mono ?_ ?_, hsome⟩
      · exact (Nat.le_succ _).trans (Nat.le_succ _)
      · exact (Nat.le_succ _).trans (Nat.le_succ _)
    · rw [namedNegation_of_ne hne, namedNegation_of_ne hne']
      obtain ⟨hagree, hsome⟩ := agree_namedClass? hds false
      exact ⟨hagree.mono (Nat.le_succ _) (Nat.le_succ _), hsome⟩
  · rw [asciiClass?_of_ne hne, asciiClass?_of_ne hne']
    exact ⟨.none, rfl⟩

end Named

section Ranges

def item? : List Char → Option (Escape × List Char)
  | [] => none
  | '\\' :: cs => escape? f cs
  | c :: cs => some (.literal c, cs)

lemma classItem?_eq (cs : List Char) :
    classItem? f cs = (item? f cs).filter fun found => found.1.fitsClass f :=
  rfl

lemma item?_of_ne {f : Flags} {c : Char} (h : c ≠ '\\') (cs : List Char) :
    item? f (c :: cs) = some (.literal c, cs) := by
  unfold item?
  split
  next heq => exact nomatch heq
  next heq => exact absurd (List.cons.inj heq).1 h
  next heq =>
    obtain ⟨rfl, rfl⟩ := List.cons.inj heq
    rfl

lemma agree_classItem?_cons (h : Shut P cs cs') (c : Char) :
    Agree P cs.length cs'.length (classItem? f (c :: cs)) (classItem? f (c :: cs')) ∨
      LeavesBrace f (.assert (.word f.ascii .boundary)) (classItem? f (c :: cs))
        (classItem? f (c :: cs')) := by
  rw [classItem?_eq, classItem?_eq]
  rcases eq_or_ne c '\\' with rfl | hne
  · rcases agree_escape? f h with hagree | ⟨hnone, ds, hsome, hds⟩
    · exact Or.inl (hagree.filter (Escape.fitsClass f))
    · right
      simp only [item?, hnone, hsome]
      exact ⟨rfl, ds, rfl, hds⟩
  · rw [item?_of_ne hne, item?_of_ne hne]
    exact Or.inl ((Agree.some _ h le_rfl le_rfl).filter (Escape.fitsClass f))

lemma agree_classItem? (h : Shut P cs cs') :
    Agree P cs.length cs'.length (classItem? f cs) (classItem? f cs') ∨
      LeavesBrace f (.assert (.word f.ascii .boundary)) (classItem? f cs) (classItem? f cs') := by
  cases h with
  | paren =>
    rw [classItem?_eq, classItem?_eq, item?_of_ne (by decide)]
    refine Or.inl ?_
    rw [Option.filter_some]
    split
    · exact .spent _
    · exact .none
  | swallowed h => exact Or.inl .none
  | @cons c cs cs' hc h =>
    exact (agree_classItem?_cons f h c).imp_left fun hagree =>
      hagree.mono (Nat.le_succ _) (Nat.le_succ _)

def behindBlank (cs : List Char) : List Char :=
  match cs.dropWhile Property.isWhiteSpace with
  | '#' :: rest => rest.dropWhile Property.isWhiteSpace
  | rest => rest

lemma peekBehind?_eq (cs : List Char) :
    peekBehind? f cs = if f.verbose then (behindBlank cs).head?.or cs.head? else cs.head? :=
  rfl

lemma behindBlank_of_ne {cs : List Char}
    (h : ∀ ds, cs.dropWhile Property.isWhiteSpace ≠ '#' :: ds) :
    behindBlank cs = cs.dropWhile Property.isWhiteSpace := by
  unfold behindBlank
  split
  next ds heq => exact absurd heq (h ds)
  next => rfl

lemma behindBlank_cons {c : Char} (hspace : Property.isWhiteSpace c = false) (hne : c ≠ '#')
    (cs : List Char) : behindBlank (c :: cs) = c :: cs := by
  have hdrop : (c :: cs).dropWhile Property.isWhiteSpace = c :: cs :=
    List.dropWhile_cons_of_neg (by simp [hspace])
  rw [behindBlank_of_ne (by simp [hdrop, hne]), hdrop]

lemma Shut.behindBlank (h : Shut P cs cs') : Shut P (behindBlank cs) (behindBlank cs') := by
  have hparen : Property.isWhiteSpace ')' = false := by decide
  rcases (h.dropWhile hparen).peek (x := '#') (by decide) with
    ⟨ds, ds', hds, hds', hrest⟩ | ⟨hne, hne'⟩
  · simp only [Pattern.behindBlank, hds, hds']
    exact hrest.dropWhile hparen
  · rw [behindBlank_of_ne hne, behindBlank_of_ne hne']
    exact h.dropWhile hparen

lemma Shut.head?_eq_some_iff (h : Shut P cs cs') {x : Char} (hx : x ≠ ')') :
    cs.head? = some x ↔ cs'.head? = some x := by
  cases h with
  | paren => simp [hx.symm]
  | swallowed h => rfl
  | cons hc h => rfl

lemma Shut.peekBehind?_eq_some_iff (h : Shut P cs cs') {x : Char} (hparen : x ≠ ')')
    (hspace : Property.isWhiteSpace x = false) (hne : x ≠ '#') :
    peekBehind? f cs = some x ↔ peekBehind? f cs' = some x := by
  rw [peekBehind?_eq, peekBehind?_eq]
  split
  · have hrest := h.behindBlank
    generalize hcs : Pattern.behindBlank cs = ds, Pattern.behindBlank cs' = ds' at hrest ⊢
    cases hrest with
    | paren =>
      have hhead : cs.head? ≠ some x := by
        intro hhead
        obtain ⟨es, rfl⟩ := List.head?_eq_some_iff.mp hhead
        exact nomatch (behindBlank_cons hspace hne es).symm.trans hcs
      simp [hhead, hparen.symm]
    | swallowed _ => exact h.head?_eq_some_iff hparen
    | cons hc hrest => rfl
  · exact h.head?_eq_some_iff hparen

def Escape.single? : Escape → Option CharSet
  | literal c => some (.singleton c)
  | set s => some s
  | assert _ => none

def rangeTo? (first : Escape) (found : Escape × List Char) : Option (CharSet × List Char) :=
  match first, found.1 with
  | .literal a, .literal b => if a ≤ b then some (.range a b, found.2) else none
  | _, _ => none

def behindHyphen? (first : Escape) (behind : List Char) : Option (CharSet × List Char) :=
  if peekBehind? f behind = some ']' ∨ peekBehind? f behind = some '-' then
    first.single?.bind fun s => some (s, '-' :: behind)
  else (classItem? f (trim f behind)).bind (rangeTo? first)

def behindItem? (found : Escape × List Char) : Option (CharSet × List Char) :=
  match trim f found.2 with
  | [] => none
  | '-' :: behind => behindHyphen? f found.1 behind
  | cs => found.1.single?.bind fun s => some (s, cs)

lemma classRange?_eq (cs : List Char) :
    classRange? f cs = (classItem? f cs).bind (behindItem? f) := by
  unfold classRange?
  cases classItem? f cs with
  | none => rfl
  | some found => rfl

lemma agree_rangeTo? (h : Shut P cs cs') (first last : Escape) :
    Agree P cs.length cs'.length (rangeTo? first (last, cs)) (rangeTo? first (last, cs')) := by
  unfold rangeTo?
  dsimp only
  split
  · split
    · exact .some _ h le_rfl le_rfl
    · exact .none
  · exact .none

lemma spent_rangeTo? (first last : Escape) :
    Agree P n n' none (rangeTo? first (last, [])) := by
  unfold rangeTo?
  dsimp only
  split
  · split
    · exact .spent _
    · exact .none
  · exact .none

lemma agree_behindHyphen? (h : Shut P cs cs') (first : Escape) :
    Agree P (cs.length + 1) (cs'.length + 1) (behindHyphen? f first cs)
      (behindHyphen? f first cs') := by
  have hbracket := h.peekBehind?_eq_some_iff f (x := ']') (by decide) (by decide) (by decide)
  have hhyphen := h.peekBehind?_eq_some_iff f (x := '-') (by decide) (by decide) (by decide)
  simp only [behindHyphen?, hbracket, hhyphen]
  split
  · cases first.single? with
    | none => exact .none
    | some s => exact .some s (.cons nofun h) le_rfl le_rfl
  · rcases agree_classItem? f (h.trim f) with hagree | ⟨hnone, ds, hsome, hds⟩
    · apply Agree.behind_trim f
      apply hagree.bind
      · exact fun last _ _ hrest => agree_rangeTo? hrest first last
      · exact fun last => spent_rangeTo? first last
    · rw [hnone, hsome]
      cases first with
      | literal a => exact .none
      | set s => exact .none
      | assert a => exact .none

def LeavesParen {α : Type} (x y : Option (α × List Char)) : Prop :=
  x = none ∧ ∃ a, y = some (a, [')'])

lemma behindItem?_of_nil {f : Flags} {cs : List Char} (h : trim f cs = []) (first : Escape) :
    behindItem? f (first, cs) = none := by
  simp only [behindItem?, h]

lemma behindItem?_of_ne {f : Flags} {c : Char} {cs ds : List Char} (h : trim f cs = c :: ds)
    (hne : c ≠ '-') (first : Escape) :
    behindItem? f (first, cs) = first.single?.bind fun s => some (s, c :: ds) := by
  simp only [behindItem?, h]
  split
  next heq => exact nomatch heq
  next heq => exact absurd (List.cons.inj heq).1 hne
  next => rfl

lemma agree_behindItem? (h : Shut P cs cs') (first : Escape) :
    Agree P cs.length cs'.length (behindItem? f (first, cs)) (behindItem? f (first, cs')) ∨
      LeavesParen (behindItem? f (first, cs)) (behindItem? f (first, cs')) := by
  have htrim := h.trim f
  have hlength := length_trim_le f cs
  have hlength' := length_trim_le f cs'
  generalize hds : trim f cs = ds, hds' : trim f cs' = ds' at htrim hlength hlength'
  cases htrim with
  | paren =>
    rw [behindItem?_of_nil hds, behindItem?_of_ne hds' (by decide)]
    cases first.single? with
    | none => exact Or.inl .none
    | some s => exact Or.inr ⟨rfl, s, rfl⟩
  | swallowed h =>
    rw [behindItem?_of_nil hds, behindItem?_of_nil hds']
    exact Or.inl .none
  | @cons c ds ds' hc htrim =>
    left
    rcases eq_or_ne c '-' with rfl | hne
    · simp only [behindItem?, hds, hds']
      exact (agree_behindHyphen? f htrim first).mono hlength hlength'
    · rw [behindItem?_of_ne hds hne, behindItem?_of_ne hds' hne]
      cases first.single? with
      | none => exact .none
      | some s => exact .some s (.cons hc htrim) hlength hlength'

lemma agree_classRange? (h : Shut P cs cs') (c : Char) :
    Agree P cs.length cs'.length (classRange? f (c :: cs)) (classRange? f (c :: cs')) ∨
      LeavesParen (classRange? f (c :: cs)) (classRange? f (c :: cs')) := by
  rw [classRange?_eq, classRange?_eq]
  rcases agree_classItem?_cons f h c with hagree | ⟨hnone, ds, hsome, hds⟩
  · generalize classItem? f (c :: cs) = x, classItem? f (c :: cs') = y at hagree
    cases hagree with
    | none => exact Or.inl .none
    | spent first =>
      rw [Option.bind_some, behindItem?_of_nil (trim_nil f)]
      exact Or.inl .none
    | some first h hn hn' =>
      exact (agree_behindItem? f h first).imp_left fun hagree => hagree.mono hn hn'
  · rw [hnone, hsome, Option.bind_some,
      behindItem?_of_ne (trim_cons f (by decide) (by decide) ds) (by decide)]
    exact Or.inl .none

end Ranges

section Bodies

def setOperatorOf? : Char → Option SetOperator
  | '&' => some .inter
  | '-' => some .difference
  | '~' => some .symmetricDifference
  | _ => none

def setOperator? : List Char → Option (SetOperator × List Char)
  | c :: d :: cs => if c = d then (setOperatorOf? c).map (·, cs) else none
  | _ => none

lemma agree_setOperator? (h : Shut P cs cs') (c : Char) :
    Agree P cs.length cs'.length (setOperator? (c :: cs)) (setOperator? (c :: cs')) ∧
      (setOperator? (c :: cs)).isSome = (setOperator? (c :: cs')).isSome := by
  cases h with
  | paren =>
    have hnone : setOperator? [c, ')'] = none := by
      rcases eq_or_ne c ')' with rfl | hne
      · rfl
      · exact if_neg hne
    rw [hnone]
    exact ⟨.none, rfl⟩
  | swallowed h => exact ⟨.none, rfl⟩
  | @cons d cs cs' hd h =>
    simp only [setOperator?]
    split
    · cases setOperatorOf? c with
      | none => exact ⟨.none, rfl⟩
      | some op => exact ⟨.some op h (Nat.le_succ _) (Nat.le_succ _), rfl⟩
    · exact ⟨.none, rfl⟩

lemma classBody?_item {f : Flags} {c : Char} {cs ds : List Char} (h : trim f cs = c :: ds)
    (hopen : c ≠ '[') (hclose : c ≠ ']') (fuel : ℕ) (k : OpenClass) (outer : List OpenClass) :
    classBody? (fuel + 1) f k outer cs =
      match setOperator? (c :: ds) with
      | some (op, es) => classBody? fuel f (k.operate f op) outer es
      | none => (classRange? f (c :: ds)).bind fun found =>
          classBody? fuel f (k.add (.leaf found.1)) outer found.2 := by
  rw [classBody?, h]
  split
  next heq => exact nomatch heq
  next heq => exact absurd (List.cons.inj heq).1 hopen
  next heq => exact absurd (List.cons.inj heq).1 hclose
  next heq => rw [heq]; rfl
  next heq => rw [heq]; rfl
  next heq => rw [heq]; rfl
  next hinter hdifference hsymmetric =>
    have hnone : setOperator? (c :: ds) = none := by
      cases ds with
      | nil => rfl
      | cons d ds =>
        simp only [setOperator?, setOperatorOf?]
        split
        next heq =>
          subst heq
          split
          next => exact absurd rfl (hinter ds)
          next => exact absurd rfl (hdifference ds)
          next => exact absurd rfl (hsymmetric ds)
          next => rfl
        next => rfl
    rw [hnone]
    cases classRange? f (c :: ds) with
    | none => rfl
    | some found => rfl

lemma classBody?_opening {f : Flags} {cs ds : List Char} (h : trim f cs = '[' :: ds) (fuel : ℕ)
    (k : OpenClass) (outer : List OpenClass) :
    classBody? (fuel + 1) f k outer cs =
      match asciiClass? ds with
      | some ((negated, named), es) => (f.negate? negated (.ascii named)).bind fun s =>
          classBody? fuel f (k.add (.leaf s)) outer es
      | none => classBody? fuel f (openClass f ds).1 (k :: outer) (openClass f ds).2 := by
  rw [classBody?, h]
  rfl

lemma classBody?_closing {f : Flags} {cs ds : List Char} (h : trim f cs = ']' :: ds) (fuel : ℕ)
    (k : OpenClass) (outer : List OpenClass) :
    classBody? (fuel + 1) f k outer cs =
      (k.close? f).bind fun p =>
        match outer with
        | [] => some (p, ds)
        | around :: outer => classBody? fuel f (around.add p) outer ds := by
  rw [classBody?, h]
  rfl

lemma classBody?_of_nil {f : Flags} {cs : List Char} (h : trim f cs = []) (fuel : ℕ)
    (k : OpenClass) (outer : List OpenClass) : classBody? fuel f k outer cs = none := by
  cases fuel with
  | zero => rfl
  | succ fuel => rw [classBody?, h]

lemma classBody?_of_paren {f : Flags} {cs : List Char} (h : trim f cs = [')']) (fuel : ℕ)
    (k : OpenClass) (outer : List OpenClass) : classBody? fuel f k outer cs = none := by
  cases fuel with
  | zero => rfl
  | succ fuel =>
    rw [classBody?_item h (by decide) (by decide), classRange?_eq, classItem?_eq,
      item?_of_ne (by decide), Option.filter_some]
    split
    next op es heq => exact nomatch heq
    next =>
      split
      · rw [Option.bind_some, behindItem?_of_nil (trim_nil f)]
        rfl
      · rfl

lemma agree_classBody?_succ (h : Shut P cs cs') {fuel fuel' : ℕ} (k : OpenClass)
    (outer : List OpenClass)
    (hnext : ∀ (k : OpenClass) (outer : List OpenClass) {es es' : List Char}, Shut P es es' →
      es.length < cs.length → es'.length < cs'.length →
        Agree P es.length es'.length (classBody? fuel f k outer es)
          (classBody? fuel' f k outer es')) :
    Agree P cs.length cs'.length (classBody? (fuel + 1) f k outer cs)
      (classBody? (fuel' + 1) f k outer cs') := by
  have htrim := h.trim f
  have hlength := length_trim_le f cs
  have hlength' := length_trim_le f cs'
  generalize hds : trim f cs = ds, hds' : trim f cs' = ds' at htrim hlength hlength'
  cases htrim with
  | paren =>
    rw [classBody?_of_nil hds, classBody?_of_paren hds']
    exact .none
  | swallowed h =>
    rw [classBody?_of_nil hds, classBody?_of_nil hds']
    exact .none
  | @cons c ds ds' hc htrim =>
    rw [List.length_cons] at hlength hlength'
    have hbehind : ∀ (k : OpenClass) (outer : List OpenClass) {es es' : List Char},
        Shut P es es' → es.length ≤ ds.length → es'.length ≤ ds'.length →
        Agree P cs.length cs'.length (classBody? fuel f k outer es)
          (classBody? fuel' f k outer es') := by
      intro k outer es es' hes hn hn'
      exact (hnext k outer hes (by omega) (by omega)).mono (by omega) (by omega)
    rcases eq_or_ne c '[' with rfl | hopen
    · rw [classBody?_opening hds, classBody?_opening hds']
      obtain ⟨hagree, hsome⟩ := agree_asciiClass? htrim
      generalize asciiClass? ds = x, asciiClass? ds' = y at hagree hsome
      cases hagree with
      | none =>
        have hopened := agree_openClass f htrim
        generalize openClass f ds = z, openClass f ds' = z' at hopened
        cases hopened with
        | some inner hes hn hn' => exact hbehind inner (k :: outer) hes hn hn'
      | spent named => exact nomatch hsome
      | some found hes hn hn' =>
        dsimp only
        cases f.negate? found.1 (.ascii found.2) with
        | none => exact .none
        | some s => exact hbehind _ outer hes hn hn'
    rcases eq_or_ne c ']' with rfl | hclose
    · rw [classBody?_closing hds, classBody?_closing hds']
      cases k.close? f with
      | none => exact .none
      | some p =>
        cases outer with
        | nil => exact .some p htrim (by omega) (by omega)
        | cons around outer => exact hbehind _ outer htrim le_rfl le_rfl
    · rw [classBody?_item hds hopen hclose, classBody?_item hds' hopen hclose]
      obtain ⟨hagree, hsome⟩ := agree_setOperator? htrim c
      generalize setOperator? (c :: ds) = x, setOperator? (c :: ds') = y at hagree hsome
      cases hagree with
      | spent op => exact nomatch hsome
      | some op hes hn hn' => exact hbehind _ outer hes hn hn'
      | none =>
        dsimp only
        rcases agree_classRange? f htrim c with hagree | ⟨hnone, s, hsome⟩
        · generalize classRange? f (c :: ds) = x, classRange? f (c :: ds') = y at hagree
          cases hagree with
          | none => exact .none
          | spent s =>
            rw [Option.bind_some, classBody?_of_nil (trim_nil f)]
            exact .none
          | some s hes hn hn' => exact hbehind _ outer hes hn hn'
        · rw [hnone, hsome, Option.bind_some,
            classBody?_of_paren (trim_cons f (by decide) (by decide) [])]
          exact .none

lemma agree_classBody? (h : Shut P cs cs') {fuel fuel' : ℕ} (hfuel : cs.length < fuel)
    (hfuel' : cs'.length < fuel') (k : OpenClass) (outer : List OpenClass) :
    Agree P cs.length cs'.length (classBody? fuel f k outer cs)
      (classBody? fuel' f k outer cs') := by
  induction fuel generalizing fuel' k outer cs cs' with
  | zero => exact absurd hfuel (Nat.not_lt_zero _)
  | succ fuel ih =>
    obtain ⟨fuel', rfl⟩ := Nat.exists_eq_succ_of_ne_zero (Nat.ne_zero_of_lt hfuel')
    apply agree_classBody?_succ f h
    intro k outer es es' hes hn hn'
    exact ih hes (by omega) (by omega) k outer

lemma agree_class? (h : Shut P cs cs') :
    Agree P cs.length cs'.length (class? f cs) (class? f cs') := by
  apply (agree_openClass f h).through
    (k := fun z => classBody? (z.2.length + 1) f z.1 [] z.2)
  intro k ds ds' hds
  exact agree_classBody? f hds (Nat.lt_succ_self _) (Nat.lt_succ_self _) k []

end Bodies

end Highlighting.Pattern
