import Highlighting.Proofs.Pattern.ClosingGroups

/-! A pattern put into a group, tied to the start of the text, against the pattern on its own. -/

namespace Highlighting.Pattern

variable {P : Prop} {cs cs' : List Char}

namespace Reader

variable {r : Reader} {a : OpenGroup}

section Around

def inside (r : Reader) (a : OpenGroup) : Reader :=
  { r with outer := r.outer ++ [a] }

def insideWith (a : OpenGroup) (found : Reader × List Char) : Reader × List Char :=
  (found.1.inside a, found.2)

lemma map_insideWith (x : Option Reader) (cs : List Char) (a : OpenGroup) :
    (x.map (·, cs)).map (insideWith a) = (x.map (·.inside a)).map (·, cs) := by
  rw [Option.map_map, Option.map_map]
  rfl

lemma map_withGroup_inside (x : Option OpenGroup) :
    (x.map r.withGroup).map (·.inside a) = x.map (r.inside a).withGroup := by
  rw [Option.map_map]
  rfl

lemma enterAs?_inside (name : List Char) :
    (r.inside a).enterAs? name = (r.enterAs? name).map (·.inside a) := by
  unfold enterAs?
  rw [apply_ite (Option.map fun r' : Reader => r'.inside a)]
  rfl

lemma withFlags?_inside (found : Flags × Bool × Char) :
    (r.inside a).withFlags? found = (r.withFlags? found).map (·.inside a) := by
  unfold withFlags?
  split
  · rfl
  · rfl
  · rfl

lemma enterNamed?_inside (cs : List Char) :
    (r.inside a).enterNamed? cs = (r.enterNamed? cs).map (insideWith a) := by
  rw [enterNamed?_eq, enterNamed?_eq, Option.map_bind]
  congr 1
  funext found
  rw [Function.comp_apply, map_insideWith, enterAs?_inside]

lemma openFlags?_inside (cs : List Char) :
    (r.inside a).openFlags? cs = (r.openFlags? cs).map (insideWith a) := by
  unfold openFlags?
  rw [Option.map_bind]
  congr 1
  funext found
  rw [Function.comp_apply, map_insideWith, withFlags?_inside]

lemma question?_inside (cs : List Char) :
    (r.inside a).question? cs = (r.question? cs).map (insideWith a) := by
  unfold question?
  split
  · rfl
  · rfl
  · rfl
  · rfl
  · exact enterNamed?_inside _
  · exact enterNamed?_inside _
  · exact openFlags?_inside _

lemma openGroup?_inside (cs : List Char) :
    (r.inside a).openGroup? cs = (r.openGroup? cs).map (insideWith a) := by
  by_cases h : ∃ ds, trim r.group.flags cs = '?' :: ds
  · obtain ⟨ds, hds⟩ := h
    have hds' : trim (r.inside a).group.flags cs = '?' :: ds := hds
    rw [openGroup?_question r hds, openGroup?_question (r.inside a) hds', question?_inside]
  · have hne : ∀ ds, trim r.group.flags cs ≠ '?' :: ds := fun ds heq => h ⟨ds, heq⟩
    have hne' : ∀ ds, trim (r.inside a).group.flags cs ≠ '?' :: ds := hne
    rw [openGroup?_of_ne hne, openGroup?_of_ne hne']
    rfl

lemma repeat?_inside (op : Bool → Regex → Regex) (cs : List Char) :
    (r.inside a).repeat? op cs = (r.repeat? op cs).map (insideWith a) := by
  rw [repeat?_eq, repeat?_eq, Option.map_bind]
  congr 1
  funext greedy
  rw [Function.comp_apply, map_insideWith, map_withGroup_inside]
  rfl

lemma repeatCounted?_inside (cs : List Char) :
    (r.inside a).repeatCounted? cs = (r.repeatCounted? cs).map (insideWith a) := by
  rw [repeatCounted?_eq, repeatCounted?_eq, Option.map_bind]
  congr 1
  funext found
  rw [Function.comp_apply, Option.map_bind]
  congr 1
  funext greedy
  rw [Function.comp_apply, map_insideWith, map_withGroup_inside]
  rfl

lemma leave?_inside (h : r.outer ≠ []) : (r.inside a).leave? = r.leave?.map (·.inside a) := by
  obtain ⟨around, outer, houter⟩ := List.exists_cons_of_ne_nil h
  simp only [leave?, inside, houter, List.cons_append, Option.map_some]

lemma step?_inside {c : Char} (h : c = ')' → r.outer ≠ []) (cs : List Char) :
    (r.inside a).step? (c :: cs) = (r.step? (c :: cs)).map (insideWith a) := by
  rcases eq_or_ne c '(' with rfl | hopen
  · exact openGroup?_inside cs
  rcases eq_or_ne c ')' with rfl | hclose
  · simp only [step?]
    rw [map_insideWith, leave?_inside (h rfl)]
  rcases eq_or_ne c '|' with rfl | hbar
  · rfl
  rcases eq_or_ne c '?' with rfl | hopt
  · exact repeat?_inside .opt cs
  rcases eq_or_ne c '*' with rfl | hstar
  · exact repeat?_inside .star cs
  rcases eq_or_ne c '+' with rfl | hplus
  · exact repeat?_inside .plus cs
  rcases eq_or_ne c '\x7b' with rfl | hbrace
  · exact repeatCounted?_inside cs
  rw [step?_part hopen hclose hbar hopt hstar hplus hbrace,
    step?_part hopen hclose hbar hopt hstar hplus hbrace, Option.map_map]
  rfl

end Around

section Reading

def body? : ℕ → Reader → List Char → Option OpenGroup
  | 0, _, _ => none
  | fuel + 1, r, cs =>
    match trim r.group.flags cs with
    | [] => if r.outer.isEmpty then some r.group else none
    | c :: cs => (r.step? (c :: cs)).bind fun found => body? fuel found.1 found.2

def closesEarly : ℕ → Reader → List Char → Bool
  | 0, _, _ => false
  | fuel + 1, r, cs =>
    match trim r.group.flags cs with
    | [] => false
    | c :: cs => (r.outer.isEmpty && c == ')') ||
        (r.step? (c :: cs)).any fun found => closesEarly fuel found.1 found.2

lemma read?_of_nil (h : trim r.group.flags cs = []) (fuel : ℕ) :
    read? (fuel + 1) r cs = if r.outer.isEmpty then some r.group.value else none := by
  rw [read?, h]

lemma read?_of_cons {c : Char} {ds : List Char} (h : trim r.group.flags cs = c :: ds)
    (fuel : ℕ) : read? (fuel + 1) r cs =
      (r.step? (c :: ds)).bind fun found => read? fuel found.1 found.2 := by
  rw [read?, h]
  rfl

lemma body?_of_nil (h : trim r.group.flags cs = []) (fuel : ℕ) :
    body? (fuel + 1) r cs = if r.outer.isEmpty then some r.group else none := by
  rw [body?, h]

lemma body?_of_cons {c : Char} {ds : List Char} (h : trim r.group.flags cs = c :: ds)
    (fuel : ℕ) : body? (fuel + 1) r cs =
      (r.step? (c :: ds)).bind fun found => body? fuel found.1 found.2 := by
  rw [body?, h]

lemma read?_eq_map_body? (fuel : ℕ) (r : Reader) (cs : List Char) :
    read? fuel r cs = (body? fuel r cs).map OpenGroup.value := by
  induction fuel generalizing r cs with
  | zero => rfl
  | succ fuel ih =>
    cases h : trim r.group.flags cs with
    | nil =>
      rw [read?_of_nil h, body?_of_nil h]
      split
      · rfl
      · rfl
    | cons c ds =>
      rw [read?_of_cons h, body?_of_cons h, Option.map_bind]
      congr 1
      funext found
      exact ih found.1 found.2

lemma body?_of_closesEarly {fuel : ℕ} (h : closesEarly fuel r cs = true) :
    body? fuel r cs = none := by
  induction fuel generalizing r cs with
  | zero => rfl
  | succ fuel ih =>
    rw [closesEarly] at h
    cases hcs : trim r.group.flags cs with
    | nil => simp only [hcs, Bool.false_eq_true] at h
    | cons c ds =>
      simp only [hcs, Bool.or_eq_true, Bool.and_eq_true, beq_iff_eq] at h
      rw [body?_of_cons hcs]
      rcases h with ⟨houter, rfl⟩ | hlater
      · simp only [step?, leave?, List.isEmpty_iff.mp houter]
        rfl
      · obtain ⟨found, hfound, hearly⟩ := (Option.any_eq_true _ _).mp hlater
        rw [hfound, Option.bind_some]
        exact ih hearly

lemma read?_inside_nil (r : Reader) (a : OpenGroup) (fuel : ℕ) :
    read? fuel (r.inside a) [] = none := by
  cases fuel with
  | zero => rfl
  | succ fuel =>
    rw [read?_of_nil (trim_nil _)]
    simp [inside]

lemma read?_brace (h : trim r.group.flags cs = [')']) (fuel : ℕ) :
    read? fuel r ('\x7b' :: cs) = none := by
  cases fuel with
  | zero => rfl
  | succ fuel =>
    have hdecimal : decimal? r.group.flags [')'] = none := rfl
    rw [read?_of_cons (trim_cons _ (by decide) (by decide) cs)]
    simp only [step?]
    rw [repeatCounted?_eq, bounds?_eq, h, hdecimal]
    rfl

/-- How two texts are read of which the second has a closing parenthesis behind: the group that
the first ends with, and what is made of the second on its own and inside the group `a`. -/
inductive Outcome (commented : Prop) (a : OpenGroup) :
    Option OpenGroup → Option Part → Option Part → Prop
  | closed (g : OpenGroup) :
    Outcome commented a (some g) none (some (a.add g.value.nested).value)
  | swallowed (h : commented) (g : OpenGroup) : Outcome commented a (some g) (some g.value) none
  | fault (alone : Option Part) : Outcome commented a none alone none

lemma outcome_of_nil (a : OpenGroup) {ds' : List Char} (h : Shut P [] ds')
    (hds : trim r.group.flags cs = []) (hds' : trim r.group.flags cs' = ds') {within : ℕ}
    (hwithin : cs'.length < within + 1) (fuel alone : ℕ) :
    Outcome P a (body? (fuel + 1) r cs) (read? (alone + 1) r cs')
      (read? (within + 1) (r.inside a) cs') := by
  have hinside : trim (r.inside a).group.flags cs' = ds' := hds'
  have hlength := length_trim_le r.group.flags cs'
  cases h with
  | paren =>
    rw [body?_of_nil hds, read?_of_cons hds', read?_of_cons hinside]
    cases houter : r.outer with
    | nil =>
      rw [hds', List.length_cons] at hlength
      obtain ⟨within, rfl⟩ := Nat.exists_eq_succ_of_ne_zero (show within ≠ 0 by omega)
      simp only [step?, leave?, inside, houter, List.nil_append, Option.map_none,
        Option.map_some, Option.bind_none, Option.bind_some]
      rw [read?_of_nil (trim_nil _)]
      exact .closed r.group
    | cons around outer =>
      have hne : r.outer ≠ [] := by simp [houter]
      rw [step?_inside fun _ => hne]
      simp only [step?, leave?, houter, Option.map_some, Option.bind_some, insideWith,
        read?_inside_nil]
      exact .fault _
  | swallowed h =>
    have hne : (r.inside a).outer.isEmpty = false := by simp [inside]
    rw [body?_of_nil hds, read?_of_nil hds', read?_of_nil hinside, hne]
    split
    · exact .swallowed h r.group
    · exact .fault _

lemma outcome (a : OpenGroup) (h : Shut P cs cs') {fuel alone within : ℕ}
    (hfuel : cs.length < fuel) (halone : cs'.length < alone) (hwithin : cs'.length < within)
    (hearly : closesEarly fuel r cs = false) :
    Outcome P a (body? fuel r cs) (read? alone r cs') (read? within (r.inside a) cs') := by
  -- All three readers take the same steps, the third with `a` below its groups, until the first
  -- text is at an end or at fault.
  induction fuel generalizing alone within r cs cs' with
  | zero => exact absurd hfuel (Nat.not_lt_zero _)
  | succ fuel ih =>
    obtain ⟨alone, rfl⟩ := Nat.exists_eq_succ_of_ne_zero (Nat.ne_zero_of_lt halone)
    obtain ⟨within, rfl⟩ := Nat.exists_eq_succ_of_ne_zero (Nat.ne_zero_of_lt hwithin)
    have htrim := h.trim r.group.flags
    have hlength := length_trim_le r.group.flags cs
    have hlength' := length_trim_le r.group.flags cs'
    generalize hds : trim r.group.flags cs = ds, hds' : trim r.group.flags cs' = ds'
      at htrim hlength hlength'
    cases htrim with
    | paren => exact outcome_of_nil a .paren hds hds' hwithin fuel alone
    | swallowed h => exact outcome_of_nil a (.swallowed h) hds hds' hwithin fuel alone
    | @cons c ds ds' hc htrim =>
      have hinside : trim (r.inside a).group.flags cs' = c :: ds' := hds'
      simp only [closesEarly, hds, Bool.or_eq_false_iff, Bool.and_eq_false_iff,
        List.isEmpty_eq_false_iff, beq_eq_false_iff_ne] at hearly
      obtain ⟨hhere, hlater⟩ := hearly
      rw [List.length_cons] at hlength hlength'
      rw [body?_of_cons hds, read?_of_cons hds', read?_of_cons hinside,
        step?_inside fun hc => hhere.resolve_right fun hne => hne hc]
      rcases agree_step? r htrim c with hagree | ⟨r', hflags, hnone, es, hsome, hes⟩
      · generalize r.step? (c :: ds) = x, r.step? (c :: ds') = y at hagree hlater
        cases hagree with
        | none => exact .fault _
        | spent r' =>
          simp only [Option.map_some, Option.bind_some, insideWith, read?_inside_nil]
          exact .fault _
        | some r' hes hn hn' =>
          exact ih hes (by omega) (by omega) (by omega) hlater
      · -- What the brace left of the second text is no repetition.
        rw [hnone, hsome]
        have hbrace : trim (r'.inside a).group.flags es = [')'] := by
          rw [← hes, ← hflags]
          rfl
        simp only [Option.map_some, Option.bind_some, insideWith, read?_brace hbrace]
        exact .fault _

end Reading

end Reader

end Highlighting.Pattern
