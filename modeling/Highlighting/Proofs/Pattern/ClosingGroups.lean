import Highlighting.Proofs.Pattern.ClosingClasses

namespace Highlighting.Pattern

variable {P : Prop} {n n' : ℕ} {cs cs' : List Char} (f : Flags)

def beside {α β : Type} (found : α × β × List Char) : (α × β) × List Char :=
  ((found.1, found.2.1), found.2.2)

section Groups

def besideMark (found : Flags × Bool × Char × List Char) : (Flags × Bool × Char) × List Char :=
  ((found.1, found.2.1, found.2.2.1), found.2.2.2)

lemma agree_flagGroup? (h : Shut P cs cs') (seen : List Char) (negated : Bool) :
    Agree P cs.length cs'.length ((flagGroup? f seen negated cs).map besideMark)
      ((flagGroup? f seen negated cs').map besideMark) := by
  induction h generalizing f seen negated with
  | paren =>
    simp only [flagGroup?]
    split
    · split
      · exact .none
      · exact .spent _
    next hmark => simp at hmark
  | swallowed h => exact .none
  | @cons c cs cs' hc h ih =>
    have hnext : ∀ (f : Flags) (seen : List Char) (negated : Bool),
        Agree P (cs.length + 1) (cs'.length + 1) ((flagGroup? f seen negated cs).map besideMark)
          ((flagGroup? f seen negated cs').map besideMark) := by
      intro f seen negated
      exact (ih f seen negated).mono (Nat.le_succ _) (Nat.le_succ _)
    simp only [flagGroup?]
    split
    · split
      · exact .none
      · exact .some _ h (Nat.le_succ _) (Nat.le_succ _)
    · split
      · split
        · exact .none
        · exact hnext f _ true
      · split
        · exact .none
        · cases f.set? c (!negated) with
          | none => exact .none
          | some g => exact hnext g _ negated

def nameIn? (name : List Char) (found : List Char) : Option (List Char × List Char) :=
  match name, found with
  | c :: name, '>' :: cs =>
    if isNameStart c && name.all isNamePart then some (c :: name, cs) else none
  | _, _ => none

lemma groupName?_eq (cs : List Char) :
    groupName? cs = nameIn? (cs.takeWhile (· != '>')) (cs.dropWhile (· != '>')) :=
  rfl

lemma nameIn?_nil (name : List Char) : nameIn? name [] = none := by
  cases name with
  | nil => rfl
  | cons c name => rfl

lemma nameIn?_of_ne {d : Char} (h : d ≠ '>') (name cs : List Char) :
    nameIn? name (d :: cs) = none := by
  unfold nameIn?
  split
  next heq => exact absurd (List.cons.inj heq).1 h
  next => rfl

lemma agree_nameIn? (h : Shut P cs cs') (name : List Char) (d : Char) :
    Agree P cs.length cs'.length (nameIn? name (d :: cs)) (nameIn? name (d :: cs')) := by
  cases name with
  | nil => exact .none
  | cons c name =>
    rcases eq_or_ne d '>' with rfl | hne
    · simp only [nameIn?]
      split
      · exact .some _ h le_rfl le_rfl
      · exact .none
    · rw [nameIn?_of_ne hne, nameIn?_of_ne hne]
      exact .none

lemma agree_groupName? (h : Shut P cs cs') :
    Agree P cs.length cs'.length (groupName? cs) (groupName? cs') := by
  have hlength := (List.dropWhile_sublist (· != '>') (l := cs)).length_le
  have hlength' := (List.dropWhile_sublist (· != '>') (l := cs')).length_le
  rw [groupName?_eq, groupName?_eq]
  rcases h.dropWhile_of_passed (p := (· != '>')) (by decide) with
    ⟨hnil, hnil'⟩ | ⟨d, ds, ds', hd, hd', hrest, htaken⟩
  · rw [hnil, hnil', nameIn?_nil, nameIn?_nil]
    exact .none
  · rw [hd, List.length_cons] at hlength
    rw [hd', List.length_cons] at hlength'
    rw [hd, hd', htaken]
    exact (agree_nameIn? hrest _ d).mono (by omega) (by omega)

namespace Reader

variable (r : Reader)

def enterAs? (name : List Char) : Option Reader :=
  if r.names.contains name then none
  else some { r.enter r.group.flags with names := name :: r.names }

lemma enterNamed?_eq (cs : List Char) : r.enterNamed? cs =
    (groupName? cs).bind fun found => (r.enterAs? found.1).map (·, found.2) := by
  simp only [enterNamed?, enterAs?, List.contains_iff_mem]
  cases groupName? cs with
  | none => rfl
  | some found =>
    dsimp only [Option.bind_some]
    split
    · rfl
    · rfl

lemma agree_enterNamed? (h : Shut P cs cs') :
    Agree P cs.length cs'.length (r.enterNamed? cs) (r.enterNamed? cs') := by
  rw [enterNamed?_eq, enterNamed?_eq]
  exact (agree_groupName? h).filterMap r.enterAs?

def withFlags? : Flags × Bool × Char → Option Reader
  | (g, true, ')') =>
    some { r with group := { r.group with flags := g, parts := none :: r.group.parts } }
  | (g, _, ':') => some (r.enter g)
  | _ => none

def openFlags? (cs : List Char) : Option (Reader × List Char) :=
  ((flagGroup? r.group.flags [] false cs).map besideMark).bind
    fun found => (r.withFlags? found.1).map (·, found.2)

lemma agree_openFlags? (h : Shut P cs cs') :
    Agree P cs.length cs'.length (r.openFlags? cs) (r.openFlags? cs') :=
  (agree_flagGroup? r.group.flags h [] false).filterMap r.withFlags?

lemma openFlags?_eq (cs : List Char) : r.openFlags? cs =
    match flagGroup? r.group.flags [] false cs with
    | some (g, true, ')', cs) =>
      some ({ r with group := { r.group with flags := g, parts := none :: r.group.parts } }, cs)
    | some (g, _, ':', cs) => some (r.enter g, cs)
    | _ => none := by
  unfold openFlags?
  cases flagGroup? r.group.flags [] false cs with
  | none => rfl
  | some found =>
    obtain ⟨g, seen, mark, cs⟩ := found
    simp only [besideMark, Option.map_some, Option.bind_some, withFlags?]
    split
    next heq =>
      cases heq
      rfl
    next heq =>
      cases heq
      cases seen with
      | false => rfl
      | true => rfl
    next hrest hnested =>
      split
      next heq =>
        cases heq
        exact absurd rfl (hrest _)
      next heq =>
        cases heq
        exact absurd rfl (hnested _ _)
      next => rfl

def question? : List Char → Option (Reader × List Char)
  | '=' :: _ => none
  | '!' :: _ => none
  | '<' :: '=' :: _ => none
  | '<' :: '!' :: _ => none
  | 'P' :: '<' :: cs => r.enterNamed? cs
  | '<' :: cs => r.enterNamed? cs
  | cs => r.openFlags? cs

lemma question?_angle {cs : List Char} (hequal : ∀ ds, cs ≠ '=' :: ds)
    (hnot : ∀ ds, cs ≠ '!' :: ds) : r.question? ('<' :: cs) = r.enterNamed? cs := by
  rw [question?]
  · exact hequal
  · exact hnot

lemma question?_flags {cs : List Char} (hequal : ∀ ds, cs ≠ '=' :: ds)
    (hnot : ∀ ds, cs ≠ '!' :: ds) (hangle : ∀ ds, cs ≠ '<' :: ds)
    (hnamed : ∀ ds, cs ≠ 'P' :: '<' :: ds) : r.question? cs = r.openFlags? cs := by
  rw [question?]
  · exact hequal
  · exact hnot
  · exact fun ds => hangle _
  · exact fun ds => hangle _
  · exact hnamed
  · exact hangle

lemma openGroup?_question {cs ds : List Char} (h : trim r.group.flags cs = '?' :: ds) :
    r.openGroup? cs = r.question? ds := by
  simp only [openGroup?, h]
  split
  next heq => rw [(List.cons.inj heq).2]; rfl
  next heq => rw [(List.cons.inj heq).2]; rfl
  next heq => rw [(List.cons.inj heq).2]; rfl
  next heq => rw [(List.cons.inj heq).2]; rfl
  next heq => rw [(List.cons.inj heq).2]; rfl
  next hequal hnot heq => rw [(List.cons.inj heq).2, question?_angle r hequal hnot]
  next hequal hnot _ _ hnamed hangle heq =>
    rw [(List.cons.inj heq).2]
    exact ((question?_flags r hequal hnot hangle hnamed).trans (openFlags?_eq r _)).symm
  next hne => exact absurd rfl (hne ds)

variable {r} in
lemma openGroup?_of_ne {cs : List Char} (h : ∀ ds, trim r.group.flags cs ≠ '?' :: ds) :
    r.openGroup? cs = some (r.enter r.group.flags, trim r.group.flags cs) := by
  simp only [openGroup?]
  split
  next heq => exact absurd heq (h _)
  next heq => exact absurd heq (h _)
  next heq => exact absurd heq (h _)
  next heq => exact absurd heq (h _)
  next heq => exact absurd heq (h _)
  next heq => exact absurd heq (h _)
  next heq => exact absurd heq (h _)
  next => rfl

lemma agree_question? (h : Shut P cs cs') :
    Agree P cs.length cs'.length (r.question? cs) (r.question? cs') := by
  rcases h.peek (x := '=') (by decide) with ⟨ds, ds', rfl, rfl, -⟩ | ⟨hequal, hequal'⟩
  · exact .none
  rcases h.peek (x := '!') (by decide) with ⟨ds, ds', rfl, rfl, -⟩ | ⟨hnot, hnot'⟩
  · exact .none
  rcases h.peek (x := '<') (by decide) with ⟨ds, ds', rfl, rfl, hds⟩ | ⟨hangle, hangle'⟩
  · rcases hds.peek (x := '=') (by decide) with ⟨es, es', rfl, rfl, -⟩ | ⟨hequal, hequal'⟩
    · exact .none
    rcases hds.peek (x := '!') (by decide) with ⟨es, es', rfl, rfl, -⟩ | ⟨hnot, hnot'⟩
    · exact .none
    rw [question?_angle r hequal hnot, question?_angle r hequal' hnot']
    exact (agree_enterNamed? r hds).mono (Nat.le_succ _) (Nat.le_succ _)
  rcases h.peek (x := 'P') (by decide) with ⟨ds, ds', rfl, rfl, hds⟩ | ⟨hname, hname'⟩
  · rcases hds.peek (x := '<') (by decide) with ⟨es, es', rfl, rfl, hes⟩ | ⟨hne, hne'⟩
    · apply (agree_enterNamed? r hes).mono
      · exact (Nat.le_succ _).trans (Nat.le_succ _)
      · exact (Nat.le_succ _).trans (Nat.le_succ _)
    · rw [question?_flags r hequal hnot hangle (by simp [hne]),
        question?_flags r hequal' hnot' hangle' (by simp [hne'])]
      exact agree_openFlags? r h
  · rw [question?_flags r hequal hnot hangle fun ds => hname _,
      question?_flags r hequal' hnot' hangle' fun ds => hname' _]
    exact agree_openFlags? r h

lemma agree_openGroup? (h : Shut P cs cs') :
    Agree P cs.length cs'.length (r.openGroup? cs) (r.openGroup? cs') := by
  have hlength := length_trim_le r.group.flags cs
  have hlength' := length_trim_le r.group.flags cs'
  rcases (h.trim r.group.flags).peek (x := '?') (by decide) with
    ⟨ds, ds', hds, hds', hrest⟩ | ⟨hne, hne'⟩
  · rw [hds, List.length_cons] at hlength
    rw [hds', List.length_cons] at hlength'
    rw [openGroup?_question r hds, openGroup?_question r hds']
    exact (agree_question? r hrest).mono (by omega) (by omega)
  · rw [openGroup?_of_ne hne, openGroup?_of_ne hne']
    exact .some _ (h.trim r.group.flags) hlength hlength'

end Reader

end Groups

section Repetitions

lemma greed_of_ne {f : Flags} {cs : List Char} (h : ∀ ds, cs ≠ '?' :: ds) :
    Reader.greed f cs = (!f.swapGreed, cs) := by
  unfold Reader.greed
  split
  next ds => exact absurd rfl (h ds)
  next => rfl

lemma agree_greed (h : Shut P cs cs') :
    Agree P cs.length cs'.length (some (Reader.greed f cs)) (some (Reader.greed f cs')) := by
  rcases h.peek (x := '?') (by decide) with ⟨ds, ds', rfl, rfl, hds⟩ | ⟨hne, hne'⟩
  · exact .some _ hds (Nat.le_succ _) (Nat.le_succ _)
  · rw [greed_of_ne hne, greed_of_ne hne']
    exact .some _ h le_rfl le_rfl

def boundsTo? (least : ℕ) (found : ℕ × List Char) : Option (ℕ × Option ℕ × List Char) :=
  match found.2 with
  | '\x7d' :: cs => if least ≤ found.1 then some (least, some found.1, cs) else none
  | _ => none

def boundsFrom? (found : ℕ × List Char) : Option (ℕ × Option ℕ × List Char) :=
  match found.2 with
  | '\x7d' :: cs => some (found.1, some found.1, cs)
  | ',' :: cs =>
    match trim f cs with
    | '\x7d' :: cs => some (found.1, none, cs)
    | cs => (decimal? f cs).bind (boundsTo? found.1)
  | _ => none

lemma bounds?_eq (cs : List Char) :
    Reader.bounds? f cs = (decimal? f (trim f cs)).bind (boundsFrom? f) := by
  rfl

lemma boundsTo?_of_ne {cs : List Char} (h : ∀ ds, cs ≠ '\x7d' :: ds) (least most : ℕ) :
    boundsTo? least (most, cs) = none := by
  unfold boundsTo?
  split
  next ds heq => exact absurd heq (h ds)
  next => rfl

lemma agree_boundsTo? (h : Shut P cs cs') (least most : ℕ) :
    Agree P cs.length cs'.length ((boundsTo? least (most, cs)).map beside)
      ((boundsTo? least (most, cs')).map beside) := by
  rcases h.peek (x := '\x7d') (by decide) with ⟨ds, ds', rfl, rfl, hds⟩ | ⟨hne, hne'⟩
  · simp only [boundsTo?]
    split
    · exact .some _ hds (Nat.le_succ _) (Nat.le_succ _)
    · exact .none
  · rw [boundsTo?_of_ne hne, boundsTo?_of_ne hne']
    exact .none

def boundsBehind? (least : ℕ) (cs : List Char) : Option (ℕ × Option ℕ × List Char) :=
  match cs with
  | '\x7d' :: cs => some (least, none, cs)
  | cs => (decimal? f cs).bind (boundsTo? least)

lemma boundsBehind?_of_ne {f : Flags} {cs : List Char} (h : ∀ ds, cs ≠ '\x7d' :: ds)
    (least : ℕ) : boundsBehind? f least cs = (decimal? f cs).bind (boundsTo? least) := by
  unfold boundsBehind?
  split
  next ds => exact absurd rfl (h ds)
  next => rfl

lemma agree_boundsBehind? (h : Shut P cs cs') (least : ℕ) :
    Agree P cs.length cs'.length ((boundsBehind? f least cs).map beside)
      ((boundsBehind? f least cs').map beside) := by
  rcases h.peek (x := '\x7d') (by decide) with ⟨ds, ds', rfl, rfl, hds⟩ | ⟨hne, hne'⟩
  · exact .some _ hds (Nat.le_succ _) (Nat.le_succ _)
  · rw [boundsBehind?_of_ne hne, boundsBehind?_of_ne hne', Option.map_bind, Option.map_bind]
    apply (agree_decimal? f h).bind
    · exact fun most _ _ hrest => agree_boundsTo? hrest least most
    · exact fun most => .none

lemma boundsFrom?_of_ne {f : Flags} {cs : List Char} (hclose : ∀ ds, cs ≠ '\x7d' :: ds)
    (hcomma : ∀ ds, cs ≠ ',' :: ds) (least : ℕ) : boundsFrom? f (least, cs) = none := by
  unfold boundsFrom?
  split
  next ds heq => exact absurd heq (hclose ds)
  next ds heq => exact absurd heq (hcomma ds)
  next => rfl

lemma agree_boundsFrom? (h : Shut P cs cs') (least : ℕ) :
    Agree P cs.length cs'.length ((boundsFrom? f (least, cs)).map beside)
      ((boundsFrom? f (least, cs')).map beside) := by
  rcases h.peek (x := '\x7d') (by decide) with ⟨ds, ds', rfl, rfl, hds⟩ | ⟨hclose, hclose'⟩
  · exact .some _ hds (Nat.le_succ _) (Nat.le_succ _)
  rcases h.peek (x := ',') (by decide) with ⟨ds, ds', rfl, rfl, hds⟩ | ⟨hcomma, hcomma'⟩
  · exact (agree_boundsBehind? f (hds.trim f) least).behind_trim f
  · rw [boundsFrom?_of_ne hclose hcomma, boundsFrom?_of_ne hclose' hcomma']
    exact .none

lemma agree_bounds? (h : Shut P cs cs') :
    Agree P cs.length cs'.length ((Reader.bounds? f cs).map beside)
      ((Reader.bounds? f cs').map beside) := by
  rw [bounds?_eq, bounds?_eq, Option.map_bind, Option.map_bind]
  apply ((agree_decimal? f (h.trim f)).mono (length_trim_le f cs) (length_trim_le f cs')).bind
  · exact fun least _ _ hrest => agree_boundsFrom? f hrest least
  · exact fun least => .none

namespace Reader

variable (r : Reader)

def withGroup (g : OpenGroup) : Reader :=
  { r with group := g }

lemma repeat?_eq (op : Bool → Regex → Regex) (cs : List Char) : r.repeat? op cs =
    (some (greed r.group.flags cs)).bind fun greedy =>
      ((r.group.repeatLast? 1 (op greedy.1)).map r.withGroup).map (·, greedy.2) := by
  simp only [repeat?, Option.bind_some, Option.map_map]
  rfl

lemma agree_repeat? (h : Shut P cs cs') (op : Bool → Regex → Regex) :
    Agree P cs.length cs'.length (r.repeat? op cs) (r.repeat? op cs') := by
  rw [repeat?_eq, repeat?_eq]
  exact (agree_greed r.group.flags h).filterMap
    fun greedy => (r.group.repeatLast? 1 (op greedy)).map r.withGroup

def counted? (g : OpenGroup) (bounds : ℕ × Option ℕ) (greedy : Bool) : Option OpenGroup :=
  match g.parts with
  | some p :: _ =>
    if p.size * max bounds.1 (bounds.2.getD 0) ≤ sizeLimit then
      g.repeatLast? (max bounds.1 (bounds.2.getD 0)) fun s =>
        match bounds.2 with
        | some most => s.between greedy bounds.1 most
        | none => s.atLeast greedy bounds.1
    else none
  | _ => none

lemma repeatCounted?_eq (cs : List Char) : r.repeatCounted? cs =
    ((bounds? r.group.flags cs).map beside).bind fun found =>
      (some (greed r.group.flags (trim r.group.flags found.2))).bind fun greedy =>
        ((counted? r.group found.1 greedy.1).map r.withGroup).map (·, greedy.2) := by
  simp only [repeatCounted?]
  cases bounds? r.group.flags cs with
  | none => rfl
  | some found =>
    obtain ⟨least, most, cs⟩ := found
    simp only [counted?, beside, Option.map_some, Option.bind_some, Option.bind_eq_bind]
    cases r.group.parts with
    | nil => rfl
    | cons p parts =>
      cases p with
      | none => rfl
      | some p =>
        dsimp only
        split
        · rw [Option.map_map]
          exact Option.map_eq_bind.symm
        · rfl

lemma agree_repeatCounted? (h : Shut P cs cs') :
    Agree P cs.length cs'.length (r.repeatCounted? cs) (r.repeatCounted? cs') := by
  rw [repeatCounted?_eq, repeatCounted?_eq]
  apply (agree_bounds? r.group.flags h).bind
  · intro bounds ds ds' hds
    apply ((agree_greed r.group.flags (hds.trim _)).filterMap
      fun greedy => (counted? r.group bounds greedy).map r.withGroup).mono
    · exact length_trim_le _ ds
    · exact length_trim_le _ ds'
  · intro bounds
    dsimp only [Option.bind_some]
    rw [trim_nil]
    dsimp only [greed]
    cases counted? r.group bounds (!r.group.flags.swapGreed) with
    | none => exact .none
    | some g => exact .spent _

end Reader

end Repetitions

section Steps

def Escape.part : Escape → Part
  | literal c => .ofSet (f.literal c) 0
  | set s => .ofSet s 0
  | assert a => .leaf (.assert a)

lemma readPart?_escape (cs : List Char) : Reader.readPart? f ('\\' :: cs) =
    (escape? f cs).map fun found => (found.1.part f, found.2) := by
  simp only [Reader.readPart?]
  congr 1
  funext found
  cases found.1 with
  | literal c => rfl
  | set s => rfl
  | assert a => rfl

lemma readPart?_cons {c : Char} (hclass : c ≠ '[') (hescape : c ≠ '\\') :
    ∃ p? : Option Part, ∀ cs, Reader.readPart? f (c :: cs) = p?.map (·, cs) := by
  rcases eq_or_ne c '.' with rfl | hdot
  · refine ⟨f.dot?.map (.ofSet · 0), fun cs => ?_⟩
    rw [Option.map_map]
    rfl
  rcases eq_or_ne c '^' with rfl | hcaret
  · exact ⟨some _, fun _ => rfl⟩
  rcases eq_or_ne c '$' with rfl | hdollar
  · exact ⟨some _, fun _ => rfl⟩
  refine ⟨some (.ofSet (f.literal c) 0), fun cs => ?_⟩
  unfold Reader.readPart?
  split
  next heq => exact nomatch heq
  next heq => exact absurd (List.cons.inj heq).1 hclass
  next heq => exact absurd (List.cons.inj heq).1 hdot
  next heq => exact absurd (List.cons.inj heq).1 hcaret
  next heq => exact absurd (List.cons.inj heq).1 hdollar
  next heq => exact absurd (List.cons.inj heq).1 hescape
  next heq =>
    obtain ⟨rfl, rfl⟩ := List.cons.inj heq
    rfl

lemma agree_readPart? (h : Shut P cs cs') (c : Char) :
    Agree P cs.length cs'.length (Reader.readPart? f (c :: cs)) (Reader.readPart? f (c :: cs')) ∨
      ∃ p, LeavesBrace f p (Reader.readPart? f (c :: cs)) (Reader.readPart? f (c :: cs')) := by
  rcases eq_or_ne c '[' with rfl | hclass
  · exact Or.inl ((agree_class? f h).map fun p => Part.ofSet p.set p.depth)
  rcases eq_or_ne c '\\' with rfl | hescape
  · rw [readPart?_escape, readPart?_escape]
    rcases agree_escape? f h with hagree | ⟨hnone, ds, hsome, hds⟩
    · exact Or.inl (hagree.map fun e => e.part f)
    · rw [hnone, hsome]
      exact Or.inr ⟨_, rfl, ds, rfl, hds⟩
  · obtain ⟨p?, hp⟩ := readPart?_cons f hclass hescape
    rw [hp, hp]
    cases p? with
    | none => exact Or.inl .none
    | some p => exact Or.inl (.some p h le_rfl le_rfl)

namespace Reader

variable (r : Reader)

variable {r} in
lemma step?_part {c : Char} (hopen : c ≠ '(') (hclose : c ≠ ')') (hbar : c ≠ '|') (hopt : c ≠ '?')
    (hstar : c ≠ '*') (hplus : c ≠ '+') (hbrace : c ≠ '\x7b') (cs : List Char) :
    r.step? (c :: cs) =
      (readPart? r.group.flags (c :: cs)).map fun found => (r.add found.1, found.2) := by
  unfold step?
  split
  next heq => exact absurd (List.cons.inj heq).1 hopen
  next heq => exact absurd (List.cons.inj heq).1 hclose
  next heq => exact absurd (List.cons.inj heq).1 hbar
  next heq => exact absurd (List.cons.inj heq).1 hopt
  next heq => exact absurd (List.cons.inj heq).1 hstar
  next heq => exact absurd (List.cons.inj heq).1 hplus
  next heq => exact absurd (List.cons.inj heq).1 hbrace
  next => rfl

lemma agree_step? (h : Shut P cs cs') (c : Char) :
    Agree P cs.length cs'.length (r.step? (c :: cs)) (r.step? (c :: cs')) ∨
      ∃ r', r'.group.flags = r.group.flags ∧
        LeavesBrace r.group.flags r' (r.step? (c :: cs)) (r.step? (c :: cs')) := by
  rcases eq_or_ne c '(' with rfl | hopen
  · exact Or.inl (agree_openGroup? r h)
  rcases eq_or_ne c ')' with rfl | hclose
  · simp only [step?]
    cases r.leave? with
    | none => exact Or.inl .none
    | some r' => exact Or.inl (.some r' h le_rfl le_rfl)
  rcases eq_or_ne c '|' with rfl | hbar
  · exact Or.inl (.some _ h le_rfl le_rfl)
  rcases eq_or_ne c '?' with rfl | hopt
  · exact Or.inl (agree_repeat? r h .opt)
  rcases eq_or_ne c '*' with rfl | hstar
  · exact Or.inl (agree_repeat? r h .star)
  rcases eq_or_ne c '+' with rfl | hplus
  · exact Or.inl (agree_repeat? r h .plus)
  rcases eq_or_ne c '\x7b' with rfl | hbrace
  · exact Or.inl (agree_repeatCounted? r h)
  rw [step?_part hopen hclose hbar hopt hstar hplus hbrace,
    step?_part hopen hclose hbar hopt hstar hplus hbrace]
  rcases agree_readPart? r.group.flags h c with hagree | ⟨p, hnone, ds, hsome, hds⟩
  · exact Or.inl (hagree.map r.add)
  · rw [hnone, hsome]
    exact Or.inr ⟨r.add p, rfl, rfl, ds, rfl, hds⟩

end Reader

end Steps

end Highlighting.Pattern
