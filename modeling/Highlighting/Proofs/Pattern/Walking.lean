import Highlighting.Proofs.Pattern.Matching
import Mathlib.Data.Finset.Card

/-!
A walk through an expression stops wherever a match can end, and nowhere else. That it makes no
choice twice at a place costs it nothing: whatever lies behind a choice is found by the time the
walk is over.
-/

namespace Highlighting

open Relation (ReflTransGen TransGen)

variable {text : List Char}

namespace Trail

def meet (node : List Bool × Cursor text) (t : Trail text) : Trail text :=
  { t with met := node :: t.met }

structure Within (t u : Trail text) : Prop where
  met : t.met ⊆ u.met
  stops : t.stops ⊆ u.stops

lemma Within.refl (t : Trail text) : t.Within t :=
  ⟨List.Subset.refl _, List.Subset.refl _⟩

lemma Within.trans {t u v : Trail text} (h : t.Within u) (h' : u.Within v) : t.Within v :=
  ⟨List.Subset.trans h.met h'.met, List.Subset.trans h.stops h'.stops⟩

lemma within_meet (node : List Bool × Cursor text) (t : Trail text) : t.Within (t.meet node) :=
  ⟨List.subset_cons_self _ _, List.Subset.refl _⟩

lemma within_stop (c : Cursor text) (t : Trail text) : t.Within (t.stop c) := by
  rw [stop]
  split
  · exact Within.refl t
  · exact ⟨List.Subset.refl _, List.subset_cons_self _ _⟩

lemma mem_stops_stop (c : Cursor text) (t : Trail text) : c ∈ (t.stop c).stops := by
  rw [stop]
  split
  next hc => exact hc
  next => exact List.mem_cons_self

lemma met_stop (c : Cursor text) (t : Trail text) : (t.stop c).met = t.met := by
  rw [stop]
  split <;> rfl

lemma fork_of_met {choice : List Bool} {c : Cursor text} {greedy : Bool}
    {further past : Trail text → Trail text} {t : Trail text} (h : (choice, c) ∈ t.met) :
    fork choice c greedy further past t = t :=
  if_pos h

lemma fork_of_not_met {choice : List Bool} {c : Cursor text} {greedy : Bool}
    {further past : Trail text → Trail text} {t : Trail text} (h : (choice, c) ∉ t.met) :
    fork choice c greedy further past t =
      if greedy then past (further (t.meet (choice, c))) else further (past (t.meet (choice, c))) :=
  if_neg h

section Keeping

variable {P : Trail text → Prop} (hmeet : ∀ node t, P t → P (meet node t))

include hmeet in
lemma keeps_fork {further past : Trail text → Trail text} (hfurther : ∀ t, P t → P (further t))
    (hpast : ∀ t, P t → P (past t)) (choice : List Bool) (c : Cursor text) (greedy : Bool)
    {t : Trail text} (h : P t) : P (fork choice c greedy further past t) := by
  by_cases hmet : (choice, c) ∈ t.met
  · rwa [fork_of_met hmet]
  · rw [fork_of_not_met hmet]
    have ht := hmeet (choice, c) t h
    cases greedy with
    | true => exact hpast _ (hfurther _ ht)
    | false => exact hfurther _ (hpast _ ht)

include hmeet in
lemma keeps_rounds {r : Regex} {choice' : List Bool}
    (hround : ∀ {d : Cursor text} {next}, (∀ e, r.Matches d e → ∀ t, P t → P (next e t)) →
      ∀ t, P t → P (r.walk choice' next d t)) {c : Cursor text}
    {next : Cursor text → Trail text → Trail text}
    (hnext : ∀ d, ReflTransGen r.Matches c d → ∀ t, P t → P (next d t)) (choice : List Bool)
    (greedy : Bool) (fuel : ℕ) :
    ∀ d, ReflTransGen r.Matches c d → ∀ t, P t →
      P (rounds choice greedy (r.walk choice') next fuel d t) := by
  induction fuel with
  | zero => exact fun d _ t h => h
  | succ fuel ih =>
    intro d hd t h
    exact keeps_fork hmeet (hround fun e he => ih e (hd.tail he)) (hnext d hd) choice d greedy h

end Keeping

end Trail

open Trail

namespace Regex

/-- What goes on from all ends of matches keeps, the walk keeps. -/
lemma keeps_walk {P : Trail text → Prop} (hmeet : ∀ node t, P t → P (meet node t)) (r : Regex)
    {c : Cursor text} {next : Cursor text → Trail text → Trail text}
    (hnext : ∀ d, r.Matches c d → ∀ t, P t → P (next d t)) (choice : List Bool) :
    ∀ t, P t → P (r.walk choice next c t) := by
  induction r generalizing c next choice with
  | empty => exact hnext c rfl
  | set s =>
    intro t h
    rw [walk]
    cases hc : c.next? with
    | none => exact h
    | some found =>
      dsimp only
      split
      next hs => exact hnext found.2 ⟨found.1, hc, hs⟩ t h
      next => exact h
  | assert a =>
    intro t h
    rw [walk]
    split
    next ha => exact hnext c ⟨ha, rfl⟩ t h
    next => exact h
  | cat r s ihr ihs =>
    exact ihr (fun d hd => ihs (fun e he => hnext e ⟨d, hd, he⟩) _) _
  | alt r s ihr ihs =>
    intro t h
    exact keeps_fork hmeet (ihr (fun d hd => hnext d (Or.inl hd)) _)
      (ihs (fun d hd => hnext d (Or.inr hd)) _) choice c true h
  | opt greedy r ih =>
    intro t h
    exact keeps_fork hmeet (ih (fun d hd => hnext d (Or.inr hd)) _) (hnext c (Or.inl rfl)) choice c
      greedy h
  | star greedy r ih =>
    have hrounds := keeps_rounds hmeet (fun hk => ih hk (true :: choice)) hnext choice greedy
      (text.length + 1)
    intro t h
    rw [walk]
    split
    · exact keeps_fork hmeet (ih (fun d hd => hrounds d (.single hd)) _) (hnext c .refl) _ c
        greedy h
    · exact hrounds c .refl t h
  | plus greedy r ih =>
    apply ih
    intro d hd
    apply keeps_rounds hmeet (fun hk => ih hk (true :: choice)) ?_ choice greedy _ d .refl
    exact fun e he => hnext e (TransGen.head' hd he)

def Grows (next : Cursor text → Trail text → Trail text) : Prop :=
  ∀ (c : Cursor text) (t : Trail text), t.Within (next c t)

lemma Grows.walk {next : Cursor text → Trail text → Trail text} (h : Grows next) (r : Regex)
    (choice : List Bool) : Grows (r.walk choice next) := by
  intro c t
  apply keeps_walk (P := t.Within) ?_ r ?_ choice t (Within.refl t)
  · exact fun node u hu => hu.trans (within_meet node u)
  · exact fun d _ u hu => hu.trans (h d u)

lemma Grows.rounds {next : Cursor text → Trail text → Trail text} (h : Grows next) (r : Regex)
    (choice choice' : List Bool) (greedy : Bool) (fuel : ℕ) :
    Grows (Trail.rounds choice greedy (r.walk choice') next fuel) := by
  have hmeet : ∀ {t : Trail text} (node : List Bool × Cursor text) (u : Trail text),
      t.Within u → t.Within (u.meet node) := fun node u hu => hu.trans (within_meet node u)
  induction fuel with
  | zero => exact fun c t => Within.refl t
  | succ fuel ih =>
    intro c t
    apply keeps_fork (P := t.Within) hmeet ?_ ?_ choice c greedy (Within.refl t)
    · exact fun u hu => hu.trans (ih.walk r choice' c u)
    · exact fun u hu => hu.trans (h c u)

end Regex

namespace Trail

/-- Where in the text the choice has not been met. -/
def unmet (choice : List Bool) (t : Trail text) : Finset ℕ :=
  Finset.range (text.length + 1) \
    ((t.met.filter (·.1 = choice)).map (·.2.offset)).toFinset

def room (choice : List Bool) (t : Trail text) : ℕ :=
  (t.unmet choice).card

lemma mem_unmet_iff {choice : List Bool} {c : Cursor text} {t : Trail text} :
    c.offset ∈ t.unmet choice ↔ (choice, c) ∉ t.met := by
  have hle := c.offset_le
  rw [unmet, Finset.mem_sdiff, Finset.mem_range, List.mem_toFinset,
    and_iff_right (Nat.lt_succ_of_le hle), not_iff_not]
  constructor
  · intro hmem
    obtain ⟨⟨choice', d⟩, hnode, hoffset⟩ := List.mem_map.mp hmem
    obtain ⟨hmet, hchoice⟩ := List.mem_filter.mp hnode
    obtain rfl : d = c := Cursor.ext_offset hoffset
    obtain rfl : choice' = choice := of_decide_eq_true hchoice
    exact hmet
  · intro hmet
    exact List.mem_map.mpr ⟨(choice, c), List.mem_filter.mpr ⟨hmet, decide_eq_true rfl⟩, rfl⟩

lemma Within.unmet_subset {t u : Trail text} (h : t.Within u) (choice : List Bool) :
    u.unmet choice ⊆ t.unmet choice := by
  apply Finset.sdiff_subset_sdiff (Finset.Subset.refl _)
  intro n hn
  simp only [List.mem_toFinset, List.mem_map, List.mem_filter] at hn ⊢
  obtain ⟨node, ⟨hmet, hchoice⟩, rfl⟩ := hn
  exact ⟨node, ⟨h.met hmet, hchoice⟩, rfl⟩

lemma room_le (choice : List Bool) (t : Trail text) : t.room choice ≤ text.length + 1 :=
  (Finset.card_le_card Finset.sdiff_subset).trans_eq (Finset.card_range _)

lemma Within.room_le {t u : Trail text} (h : t.Within u) (choice : List Bool) :
    u.room choice ≤ t.room choice :=
  Finset.card_le_card (h.unmet_subset choice)

lemma room_meet_lt {choice : List Bool} {c : Cursor text} {t : Trail text}
    (h : (choice, c) ∉ t.met) : (t.meet (choice, c)).room choice < t.room choice := by
  apply Finset.card_lt_card
  rw [Finset.ssubset_iff_of_subset ((within_meet _ t).unmet_subset choice)]
  refine ⟨c.offset, mem_unmet_iff.mpr h, fun hmem => ?_⟩
  exact mem_unmet_iff.mp hmem List.mem_cons_self

lemma met_of_room_eq_zero {choice : List Bool} {t : Trail text} (h : t.room choice = 0)
    (c : Cursor text) : (choice, c) ∈ t.met := by
  by_contra hmet
  have := room_meet_lt hmet
  omega

end Trail

namespace Regex

section Settling

variable (T : Trail text)

/-- All that a walk at `choice` from `c` would do is done in `T`, with `done` for what comes
behind. -/
def Covers : Regex → List Bool → (Cursor text → Prop) → Cursor text → Prop
  | empty, _, done, c => done c
  | set s, _, done, c => ∀ x d, c.next? = some (x, d) → s.contains x → done d
  | assert a, _, done, c => a.holds c → done c
  | cat r s, choice, done, c => Covers r (true :: choice) (Covers s (false :: choice) done) c
  | alt _ _, choice, _, c => (choice, c) ∈ T.met
  | opt _ _, choice, _, c => (choice, c) ∈ T.met
  | star _ r, choice, _, c => (if r.nullable then false :: choice else choice, c) ∈ T.met
  | plus _ r, choice, _, c => Covers r (true :: choice) (fun d => (choice, d) ∈ T.met) c

/-- What is to be done in `T` once a choice has been met. -/
def Promise : Regex → List Bool → (Cursor text → Prop) → List Bool × Cursor text → Prop
  | empty, _, _, _ => True
  | set _, _, _, _ => True
  | assert _, _, _, _ => True
  | cat r s, choice, done, node =>
    Promise r (true :: choice) (Covers T s (false :: choice) done) node ∧
      Promise s (false :: choice) done node
  | alt r s, choice, done, node =>
    (node.1 = choice → Covers T r (true :: choice) done node.2 ∧
      Covers T s (false :: choice) done node.2) ∧
    Promise r (true :: choice) done node ∧ Promise s (false :: choice) done node
  | opt _ r, choice, done, node =>
    (node.1 = choice → Covers T r (true :: choice) done node.2 ∧ done node.2) ∧
    Promise r (true :: choice) done node
  | star _ r, choice, done, node =>
    (node.1 = choice ∨ node.1 = false :: choice →
      Covers T r (true :: choice) (fun d => (choice, d) ∈ T.met) node.2 ∧ done node.2) ∧
    Promise r (true :: choice) (fun d => (choice, d) ∈ T.met) node
  | plus _ r, choice, done, node =>
    (node.1 = choice →
      Covers T r (true :: choice) (fun d => (choice, d) ∈ T.met) node.2 ∧ done node.2) ∧
    Promise r (true :: choice) (fun d => (choice, d) ∈ T.met) node

variable {T}

lemma done_of_matches {r : Regex} {choice : List Bool} {done : Cursor text → Prop}
    (hpromise : ∀ node ∈ T.met, Promise T r choice done node) {c d : Cursor text}
    (hcovers : Covers T r choice done c) (h : r.Matches c d) : done d := by
  induction r generalizing choice done c d with
  | empty => exact h ▸ hcovers
  | set s =>
    obtain ⟨x, hnext, hs⟩ := h
    exact hcovers x d hnext hs
  | assert a =>
    obtain ⟨ha, rfl⟩ := h
    exact hcovers ha
  | cat r s ihr ihs =>
    obtain ⟨e, hr, hs⟩ := h
    have he := ihr (fun node hnode => (hpromise node hnode).1) hcovers hr
    exact ihs (fun node hnode => (hpromise node hnode).2) he hs
  | alt r s ihr ihs =>
    obtain ⟨hr, hs⟩ := (hpromise _ hcovers).1 rfl
    rcases h with h | h
    · exact ihr (fun node hnode => (hpromise node hnode).2.1) hr h
    · exact ihs (fun node hnode => (hpromise node hnode).2.2) hs h
  | opt greedy r ih =>
    obtain ⟨hr, hdone⟩ := (hpromise _ hcovers).1 rfl
    rcases h with rfl | h
    · exact hdone
    · exact ih (fun node hnode => (hpromise node hnode).2) hr h
  | star greedy r ih =>
    have hfirst : Covers T r (true :: choice) (fun d => (choice, d) ∈ T.met) c ∧ done c := by
      apply (hpromise _ hcovers).1
      split
      · exact Or.inr rfl
      · exact Or.inl rfl
    have hround : ∀ {e e' : Cursor text},
        Covers T r (true :: choice) (fun d => (choice, d) ∈ T.met) e → r.Matches e e' →
          (choice, e') ∈ T.met :=
      fun he => ih (fun node hnode => (hpromise node hnode).2) he
    suffices hall : Covers T r (true :: choice) (fun d => (choice, d) ∈ T.met) d ∧ done d from
      hall.2
    induction h with
    | refl => exact hfirst
    | tail _ hlast ihd => exact (hpromise _ (hround ihd.1 hlast)).1 (Or.inl rfl)
  | plus greedy r ih =>
    have hround : ∀ {e e' : Cursor text},
        Covers T r (true :: choice) (fun d => (choice, d) ∈ T.met) e → r.Matches e e' →
          (choice, e') ∈ T.met :=
      fun he => ih (fun node hnode => (hpromise node hnode).2) he
    suffices hall : Covers T r (true :: choice) (fun d => (choice, d) ∈ T.met) d ∧ done d from
      hall.2
    induction h with
    | single hfirst => exact (hpromise _ (hround hcovers hfirst)).1 rfl
    | tail _ hlast ihd => exact (hpromise _ (hround ihd.1 hlast)).1 rfl

lemma suffix_of_cons_suffix {b : Bool} {choice turns : List Bool} (h : b :: choice <:+ turns) :
    choice <:+ turns :=
  (List.suffix_cons b choice).trans h

lemma not_suffix_cons {choice turns : List Bool} (h : ¬choice <:+ turns) (b : Bool) :
    ¬b :: choice <:+ turns :=
  fun hb => h (suffix_of_cons_suffix hb)

lemma cons_not_suffix_self (b : Bool) (choice : List Bool) : ¬b :: choice <:+ choice := by
  intro h
  have hle := h.length_le
  rw [List.length_cons] at hle
  omega

lemma ne_of_cons_suffix {b : Bool} {choice turns : List Bool} (h : b :: choice <:+ turns) :
    turns ≠ choice := by
  rintro rfl
  exact cons_not_suffix_self b _ h

lemma not_suffix_of_other_turn {b : Bool} {choice turns : List Bool} (h : b :: choice <:+ turns) :
    ¬(!b) :: choice <:+ turns := by
  intro h'
  have hsuffix := List.suffix_of_suffix_length_le h h' (by simp)
  have heq := (List.cons.inj (hsuffix.eq_of_length (by simp))).1
  cases b <;> exact nomatch heq

/-- A choice outside an expression promises nothing about it. -/
lemma promise_of_not_suffix {r : Regex} {choice : List Bool} {done : Cursor text → Prop}
    {node : List Bool × Cursor text} (h : ¬choice <:+ node.1) : Promise T r choice done node := by
  have hhere : ∀ {choice : List Bool}, ¬choice <:+ node.1 → node.1 ≠ choice := by
    rintro _ h rfl
    exact h (List.suffix_refl _)
  induction r generalizing choice done with
  | empty => trivial
  | set s => trivial
  | assert a => trivial
  | cat r s ihr ihs => exact ⟨ihr (not_suffix_cons h _), ihs (not_suffix_cons h _)⟩
  | alt r s ihr ihs =>
    exact ⟨fun heq => absurd heq (hhere h), ihr (not_suffix_cons h _), ihs (not_suffix_cons h _)⟩
  | opt greedy r ih => exact ⟨fun heq => absurd heq (hhere h), ih (not_suffix_cons h _)⟩
  | star greedy r ih =>
    refine ⟨?_, ih (not_suffix_cons h _)⟩
    rintro (heq | heq)
    · exact absurd heq (hhere h)
    · exact absurd heq (hhere (not_suffix_cons h _))
  | plus greedy r ih => exact ⟨fun heq => absurd heq (hhere h), ih (not_suffix_cons h _)⟩

lemma promise_self {r : Regex} {done : Cursor text → Prop} (b : Bool) (choice : List Bool)
    (c : Cursor text) : Promise T r (b :: choice) done (choice, c) :=
  promise_of_not_suffix (cons_not_suffix_self b choice)

/-- From any trail that goes on from `base`, and as long as it leads into `T`, `walk` brings `p`
about, and the choices it meets are all `ok`. -/
def Settles (T : Trail text) (ok : List Bool × Cursor text → Prop) (base : Trail text) (p : Prop)
    (walk : Trail text → Trail text) : Prop :=
  ∀ t, base.Within t → (walk t).Within T → p ∧ ∀ node ∈ (walk t).met, node ∉ t.met → ok node

variable {ok : List Bool × Cursor text → Prop} {base : Trail text} {p q : Prop}
  {further past : Trail text → Trail text}

lemma Settles.mono {base' : Trail text} (h : Settles T ok base p further)
    (hbase : base.Within base') : Settles T ok base' p further :=
  fun t ht => h t (hbase.trans ht)

lemma Settles.comp (hf : Settles T ok base p further) (hp : Settles T ok base q past)
    (hgf : ∀ t : Trail text, t.Within (further t)) (hgp : ∀ t : Trail text, t.Within (past t)) :
    Settles T ok base (p ∧ q) (fun t => past (further t)) := by
  intro t ht hT
  obtain ⟨hq, hpast⟩ := hp (further t) (ht.trans (hgf t)) hT
  obtain ⟨hp, hfurther⟩ := hf t ht ((hgp _).trans hT)
  refine ⟨⟨hp, hq⟩, fun node hnode hnew => ?_⟩
  by_cases hmet : node ∈ (further t).met
  · exact hfurther node hmet hnew
  · exact hpast node hnode hmet

lemma Settles.fork {choice : List Bool} {c : Cursor text} {greedy : Bool} {t : Trail text}
    (hf : (choice, c) ∉ t.met → Settles T ok (t.meet (choice, c)) p further)
    (hp : (choice, c) ∉ t.met → Settles T ok (t.meet (choice, c)) q past)
    (hgf : ∀ t : Trail text, t.Within (further t))
    (hgp : ∀ t : Trail text, t.Within (past t))
    (hok : p → q → ok (choice, c)) (hT : (Trail.fork choice c greedy further past t).Within T) :
    (choice, c) ∈ T.met ∧
      ∀ node ∈ (Trail.fork choice c greedy further past t).met, node ∉ t.met → ok node := by
  by_cases hmet : (choice, c) ∈ t.met
  · rw [fork_of_met hmet] at hT ⊢
    exact ⟨hT.met hmet, fun node hnode hnew => absurd hnode hnew⟩
  have hboth : ∃ walk : Trail text → Trail text,
      Trail.fork choice c greedy further past t = walk (t.meet (choice, c)) ∧
        Settles T ok (t.meet (choice, c)) (p ∧ q) walk ∧
          ∀ t : Trail text, t.Within (walk t) := by
    rw [fork_of_not_met hmet]
    cases greedy with
    | true =>
      exact ⟨_, rfl, (hf hmet).comp (hp hmet) hgf hgp, fun t => (hgf t).trans (hgp _)⟩
    | false =>
      refine ⟨_, rfl, fun u hu hT => ?_, fun t => (hgp t).trans (hgf _)⟩
      exact ((hp hmet).comp (hf hmet) hgp hgf u hu hT).imp_left And.symm
  obtain ⟨walk, heq, hsettles, hgrows⟩ := hboth
  rw [heq] at hT ⊢
  obtain ⟨⟨hp, hq⟩, hnew⟩ := hsettles _ (Within.refl _) hT
  refine ⟨hT.met ((hgrows _).met List.mem_cons_self), fun node hnode hold => ?_⟩
  by_cases hhere : node ∈ (t.meet (choice, c)).met
  · rcases List.mem_cons.mp hhere with rfl | hmem
    · exact hok hp hq
    · exact absurd hmem hold
  · exact hnew node hnode hhere

lemma Settles.rounds {r : Regex} {choice choice' : List Bool} {greedy : Bool}
    {done covered : Cursor text → Prop} {next : Cursor text → Trail text → Trail text}
    (hround : ∀ {base : Trail text} {next : Cursor text → Trail text → Trail text}, Grows next →
      (∀ d, Settles T ok base ((choice, d) ∈ T.met) (next d)) →
        ∀ d, Settles T ok base (covered d) (r.walk choice' next d))
    (hgrows : Grows next) (hnext : ∀ d, Settles T ok base (done d) (next d))
    (hok : ∀ d, covered d → done d → ok (choice, d)) {fuel : ℕ} (hfuel : base.room choice ≤ fuel)
    (d : Cursor text) : Settles T ok base ((choice, d) ∈ T.met)
      (Trail.rounds choice greedy (r.walk choice') next fuel d) := by
  induction fuel generalizing base d with
  | zero =>
    intro t ht hT
    have hroom := ht.room_le choice
    have hmet : (choice, d) ∈ t.met := met_of_room_eq_zero (by omega) d
    exact ⟨hT.met hmet, fun node hnode hnew => absurd hnode hnew⟩
  | succ fuel ih =>
    intro t ht hT
    have hbase : base.Within (t.meet (choice, d)) := ht.trans (within_meet _ t)
    have hgrounds := hgrows.rounds r choice choice' greedy fuel
    apply Settles.fork ?_ (fun _ => (hnext d).mono hbase) (hgrounds.walk r choice' d) (hgrows d)
      (hok d) hT
    intro hmet
    have hroom := ht.room_le choice
    have hless := room_meet_lt hmet
    exact hround hgrounds (ih (fun e => (hnext e).mono hbase) (by omega)) d

variable (T ok) in
/-- Whatever comes behind, a walk through `r` at `choice` does what `Covers` says, if a choice is
`ok` as soon as its promise is kept. -/
def Settled (r : Regex) (choice : List Bool) : Prop :=
  ∀ {done : Cursor text → Prop} {next : Cursor text → Trail text → Trail text} {base : Trail text},
    (∀ node, choice <:+ node.1 → Promise T r choice done node → ok node) → Grows next →
      (∀ d, Settles T ok base (done d) (next d)) →
        ∀ c, Settles T ok base (Covers T r choice done c) (r.walk choice next c)

variable {r s : Regex} {choice : List Bool} {greedy : Bool}

lemma settled_set (s : CharSet) (choice : List Bool) : Settled T ok (.set s) choice := by
  intro done next base hok hgrows hnext c t ht hT
  rw [walk] at hT ⊢
  cases hc : c.next? with
  | none =>
    exact ⟨fun x d h => absurd (hc.symm.trans h) nofun, fun node hnode hnew => absurd hnode hnew⟩
  | some found =>
    rw [hc] at hT
    dsimp only at hT ⊢
    split at hT
    next hs =>
      obtain ⟨hdone, hnew⟩ := hnext found.2 t ht hT
      rw [if_pos hs]
      refine ⟨fun x d h _ => ?_, hnew⟩
      obtain rfl := Option.some.inj (hc.symm.trans h)
      exact hdone
    next hs =>
      rw [if_neg hs]
      refine ⟨fun x d h hx => ?_, fun node hnode hnew => absurd hnode hnew⟩
      obtain rfl := Option.some.inj (hc.symm.trans h)
      exact absurd hx hs

lemma settled_assert (a : Assertion) (choice : List Bool) : Settled T ok (.assert a) choice := by
  intro done next base hok hgrows hnext c t ht hT
  rw [walk] at hT ⊢
  split at hT
  next ha =>
    rw [if_pos ha]
    exact (hnext c t ht hT).imp_left fun hdone _ => hdone
  next ha =>
    rw [if_neg ha]
    exact ⟨fun h => absurd h ha, fun node hnode hnew => absurd hnode hnew⟩

lemma settled_cat (hr : Settled T ok r (true :: choice)) (hs : Settled T ok s (false :: choice)) :
    Settled T ok (.cat r s) choice := by
  intro done next base hok hgrows hnext
  refine hr (fun node hnode hpromise => ?_) (hgrows.walk s _)
    (hs (fun node hnode hpromise => ?_) hgrows hnext)
  · exact hok node (suffix_of_cons_suffix hnode)
      ⟨hpromise, promise_of_not_suffix (not_suffix_of_other_turn hnode)⟩
  · exact hok node (suffix_of_cons_suffix hnode)
      ⟨promise_of_not_suffix (not_suffix_of_other_turn hnode), hpromise⟩

lemma settled_alt (hr : Settled T ok r (true :: choice)) (hs : Settled T ok s (false :: choice)) :
    Settled T ok (.alt r s) choice := by
  intro done next base hok hgrows hnext c t ht hT
  have hnext' := fun d => (hnext d).mono (ht.trans (within_meet (choice, c) t))
  refine Settles.fork (fun _ => hr (fun node hnode hpromise => ?_) hgrows hnext' c)
    (fun _ => hs (fun node hnode hpromise => ?_) hgrows hnext' c) (hgrows.walk r _ c)
    (hgrows.walk s _ c) (fun hleft hright => ?_) hT
  · exact hok node (suffix_of_cons_suffix hnode)
      ⟨fun heq => absurd heq (ne_of_cons_suffix hnode), hpromise,
        promise_of_not_suffix (not_suffix_of_other_turn hnode)⟩
  · exact hok node (suffix_of_cons_suffix hnode)
      ⟨fun heq => absurd heq (ne_of_cons_suffix hnode),
        promise_of_not_suffix (not_suffix_of_other_turn hnode), hpromise⟩
  · exact hok (choice, c) (List.suffix_refl _)
      ⟨fun _ => ⟨hleft, hright⟩, promise_self _ _ c, promise_self _ _ c⟩

lemma settled_opt (hr : Settled T ok r (true :: choice)) :
    Settled T ok (.opt greedy r) choice := by
  intro done next base hok hgrows hnext c t ht hT
  have hnext' := fun d => (hnext d).mono (ht.trans (within_meet (choice, c) t))
  refine Settles.fork (fun _ => hr (fun node hnode hpromise => ?_) hgrows hnext' c)
    (fun _ => hnext' c) (hgrows.walk r _ c) (hgrows c) (fun hround hdone => ?_) hT
  · exact hok node (suffix_of_cons_suffix hnode)
      ⟨fun heq => absurd heq (ne_of_cons_suffix hnode), hpromise⟩
  · exact hok (choice, c) (List.suffix_refl _) ⟨fun _ => ⟨hround, hdone⟩, promise_self _ _ c⟩

lemma settled_star (hr : Settled T ok r (true :: choice)) :
    Settled T ok (.star greedy r) choice := by
  intro done next base hok hgrows hnext c t ht hT
  have hround : ∀ node, true :: choice <:+ node.1 →
      Promise T r (true :: choice) (fun d => (choice, d) ∈ T.met) node → ok node := by
    intro node hnode hpromise
    refine hok node (suffix_of_cons_suffix hnode) ⟨?_, hpromise⟩
    rintro (heq | heq)
    · exact absurd heq (ne_of_cons_suffix hnode)
    · exact absurd (heq ▸ List.suffix_refl _) (not_suffix_of_other_turn hnode)
  have hrounds : ∀ {base : Trail text}, (∀ d, Settles T ok base (done d) (next d)) → ∀ d,
      Settles T ok base ((choice, d) ∈ T.met) (Trail.rounds choice greedy
        (r.walk (true :: choice)) next (text.length + 1) d) := by
    intro base hnext
    apply Settles.rounds (hr hround) hgrows hnext ?_ (room_le _ _)
    exact fun d hcovers hdone => hok (choice, d) (List.suffix_refl _)
      ⟨fun _ => ⟨hcovers, hdone⟩, promise_self _ _ d⟩
  rw [walk] at hT ⊢
  rw [Covers]
  split at hT
  next hnullable =>
    have hnext' := fun d => (hnext d).mono (ht.trans (within_meet (false :: choice, c) t))
    have hgrounds := hgrows.rounds r choice (true :: choice) greedy (text.length + 1)
    simp only [hnullable, if_true]
    apply Settles.fork (fun _ => hr hround hgrounds (hrounds hnext') c) (fun _ => hnext' c)
      (hgrounds.walk r _ c) (hgrows c) ?_ hT
    intro hcovers hdone
    refine hok (false :: choice, c) (List.suffix_cons _ _) ⟨fun _ => ⟨hcovers, hdone⟩, ?_⟩
    exact promise_of_not_suffix (not_suffix_of_other_turn (b := false) (List.suffix_refl _))
  next hnullable =>
    simp only [hnullable]
    exact hrounds hnext c t ht hT

lemma settled_plus (hr : Settled T ok r (true :: choice)) :
    Settled T ok (.plus greedy r) choice := by
  intro done next base hok hgrows hnext
  have hround : ∀ node, true :: choice <:+ node.1 →
      Promise T r (true :: choice) (fun d => (choice, d) ∈ T.met) node → ok node :=
    fun node hnode hpromise => hok node (suffix_of_cons_suffix hnode)
      ⟨fun heq => absurd heq (ne_of_cons_suffix hnode), hpromise⟩
  apply hr hround (hgrows.rounds r choice _ greedy _)
  apply Settles.rounds (hr hround) hgrows hnext ?_ (room_le _ _)
  exact fun d hcovers hdone => hok (choice, d) (List.suffix_refl _)
    ⟨fun _ => ⟨hcovers, hdone⟩, promise_self _ _ d⟩

lemma settled (r : Regex) (choice : List Bool) : Settled T ok r choice := by
  induction r generalizing choice with
  | empty => exact fun _ _ hnext => hnext
  | set s => exact settled_set s choice
  | assert a => exact settled_assert a choice
  | cat r s ihr ihs => exact settled_cat (ihr _) (ihs _)
  | alt r s ihr ihs => exact settled_alt (ihr _) (ihs _)
  | opt greedy r ih => exact settled_opt (ih _)
  | star greedy r ih => exact settled_star (ih _)
  | plus greedy r ih => exact settled_plus (ih _)

end Settling

/-- Of the places where a match can end none is missed, though no choice is made twice. -/
theorem mem_walkedEnds_iff {r : Regex} {c d : Cursor text} :
    d ∈ r.walkedEnds c ↔ r.Matches c d := by
  rw [walkedEnds, List.mem_reverse]
  constructor
  · have hstop : ∀ e, r.Matches c e → ∀ t : Trail text, (∀ d ∈ t.stops, r.Matches c d) →
        ∀ d ∈ (t.stop e).stops, r.Matches c d := by
      intro e he t ht
      rw [stop]
      split
      · exact ht
      · exact List.forall_mem_cons.mpr ⟨he, ht⟩
    exact keeps_walk (fun _ _ h => h) r hstop [] .start (fun e he => absurd he List.not_mem_nil) d
  · intro h
    generalize hT : r.walk [] stop c .start = T
    have hsettles : Settles T (Promise T r [] (· ∈ T.stops)) .start
        (Covers T r [] (· ∈ T.stops) c) (r.walk [] stop c) := by
      refine settled r [] (fun _ _ h => h) (fun c t => within_stop c t) (fun d t _ hd => ?_) c
      refine ⟨hd.stops (mem_stops_stop d t), fun node hnode hnew => absurd ?_ hnew⟩
      rwa [met_stop] at hnode
    obtain ⟨hcovers, hmet⟩ := hsettles .start (Within.refl _) (hT ▸ Within.refl _)
    rw [hT] at hmet
    exact done_of_matches (fun node hnode => hmet node hnode List.not_mem_nil) hcovers h

lemma mem_explored_iff {r : Regex} (h : ∀ c d : Cursor text, d ∈ r.ends c ↔ r.Matches c d)
    (hr : r.nullable = false) (greedy : Bool) (starts : List (Cursor text)) (d : Cursor text) :
    d ∈ (starts.foldl (explore greedy r.ends) .empty).toList ↔
      ∃ c ∈ starts, ReflTransGen r.Matches c d := by
  have hrel : (fun c d : Cursor text => d ∈ r.ends c) = r.Matches :=
    funext₂ fun c d => propext (h c d)
  rw [Found.toList, List.mem_reverse, ← hrel]
  exact mem_foldl_explore_iff fun c d hd => ((h c d).mp hd).offset_lt hr

theorem mem_ends_iff {r : Regex} {c d : Cursor text} : d ∈ r.ends c ↔ r.Matches c d := by
  induction r generalizing c d with
  | empty => rw [ends, List.mem_singleton, Matches, eq_comm]
  | set s =>
    rw [ends, Matches]
    cases hc : c.next? with
    | none => simp
    | some found =>
      obtain ⟨x, e⟩ := found
      by_cases hs : s.contains x = true
      · simp only [hs, if_true, List.mem_singleton, Option.some.injEq, Prod.mk.injEq]
        constructor
        · rintro rfl
          exact ⟨x, ⟨rfl, rfl⟩, hs⟩
        · rintro ⟨x, ⟨-, rfl⟩, -⟩
          rfl
      · simp [hs]
  | assert a =>
    rw [ends, Matches]
    by_cases ha : a.holds c = true
    · simp [ha, eq_comm]
    · simp [ha]
  | cat r s ihr ihs =>
    rw [ends, Matches, Cursor.mem_distinct_iff, List.mem_flatMap]
    simp only [ihr, ihs]
  | alt r s ihr ihs =>
    rw [ends, Matches, Cursor.mem_distinct_iff, List.mem_append, ihr, ihs]
  | opt greedy r ih =>
    rw [Matches, ← ih]
    cases greedy with
    | true =>
      simp only [ends]
      split
      next hc =>
        refine ⟨Or.inr, ?_⟩
        rintro (rfl | h)
        · exact hc
        · exact h
      next => rw [List.mem_append, List.mem_singleton, or_comm, eq_comm]
    | false =>
      rw [ends, List.mem_cons, List.mem_filter]
      by_cases hd : d = c
      · simp [hd]
      · simp [hd, Ne.symm hd]
  | star greedy r ih =>
    rw [ends]
    split
    next => exact mem_walkedEnds_iff
    next hr =>
      have hexplored := mem_explored_iff (fun _ _ => ih) (Bool.eq_false_iff.mpr hr) greedy [c] d
      rw [Matches]
      simpa using hexplored
  | plus greedy r ih =>
    rw [ends]
    split
    next => exact mem_walkedEnds_iff
    next hr =>
      rw [mem_explored_iff (fun _ _ => ih) (Bool.eq_false_iff.mpr hr), Matches, TransGen.head'_iff]
      simp only [ih]

end Regex

end Highlighting
