import Highlighting.Proofs.Pattern.Walking

/-!
The order of preference, constructor by constructor: of the stops of an expression the first from
which a continuation succeeds decides, and whether another round of a repetition or its end is the
first to be tried is what `greedy` says.
-/

namespace Highlighting

open Relation (ReflTransGen)

variable {text : List Char} {β : Type}

def inOrder (greedy : Bool) (further past : Option β) : Option β :=
  if greedy then further.or past else past.or further

namespace Regex

section Explore

variable {greedy : Bool} {step : Cursor text → List (Cursor text)}
  {pending : List (Cursor text)} {found : Found text} {c : Cursor text}
  {f result : Cursor text → Option β}

lemma Closed.mem_of_reaches (h : Closed step pending found)
    (hstep : ∀ c, ∀ d ∈ step c, c.offset < d.offset) (hpending : ∀ p ∈ pending, p.offset < c.offset)
    (hc : c ∈ found.places) {e : Cursor text} (he : ReflTransGen (fun c d => d ∈ step c) c e) :
    e ∈ found.places := by
  have hboth : c.offset ≤ e.offset ∧ e ∈ found.places := by
    induction he with
    | refl => exact ⟨le_rfl, hc⟩
    | tail _ hlast ih =>
      have hlt := hstep _ _ hlast
      refine ⟨by omega, h _ ih.2 (fun hmem => ?_) _ hlast⟩
      have := hpending _ hmem
      omega
  exact hboth.2

lemma findSome?_foldl {next : Found text → Cursor text → Found text} {starts : List (Cursor text)}
    (hnext : ∀ d ∈ starts, ∀ found, Closed step pending found → Closed step pending (next found d) ∧
      (next found d).toList.findSome? f = (found.toList.findSome? f).or (result d))
    (h : Closed step pending found) :
    (starts.foldl next found).toList.findSome? f =
      (found.toList.findSome? f).or (starts.findSome? result) := by
  induction starts generalizing found with
  | nil => exact Option.or_none.symm
  | cons d ds ih =>
    obtain ⟨hclosed, hfirst⟩ := hnext d List.mem_cons_self found h
    rw [List.foldl_cons, ih (fun e he => hnext e (List.mem_cons_of_mem d he)) hclosed, hfirst,
      Option.or_assoc, List.findSome?_cons]
    cases result d <;> rfl

lemma findSome?_explore_of_new (hstep : ∀ c, ∀ d ∈ step c, c.offset < d.offset)
    (hresult : ∀ d ∈ step c, ∀ {pending found}, Closed step pending found →
      (∀ p ∈ pending, p.offset < d.offset) → (explore greedy step found d).toList.findSome? f =
        (found.toList.findSome? f).or (result d))
    (h : Closed step pending found) (hpending : ∀ p ∈ pending, p.offset < c.offset)
    (hc : found.contains c = false) :
    (explore greedy step found c).toList.findSome? f =
      (found.toList.findSome? f).or (inOrder greedy ((step c).findSome? result) (f c)) := by
  have hfurther : ∀ {pending found}, Closed step pending found →
      (∀ p ∈ pending, p.offset ≤ c.offset) → ((step c).foldl (fun found d =>
        if _h : c.offset < d.offset then explore greedy step found d else found)
          found).toList.findSome? f =
        (found.toList.findSome? f).or ((step c).findSome? result) := by
    intro pending found h hpending
    refine findSome?_foldl (fun d hd found h => ?_) h
    have hlt := hstep c d hd
    rw [dif_pos hlt]
    refine ⟨(extends_explore hstep h d).closed, hresult d hd h fun p hp => ?_⟩
    exact (hpending p hp).trans_lt hlt
  rw [explore, if_neg (by rw [hc]; exact Bool.false_ne_true)]
  cases greedy with
  | true =>
    rw [if_pos rfl, findSome?_add, hfurther h fun p hp => (hpending p hp).le, Option.or_assoc]
    rfl
  | false =>
    rw [if_neg Bool.false_ne_true, hfurther (h.add c), findSome?_add, Option.or_assoc]
    · rfl
    · exact List.forall_mem_cons.mpr ⟨le_rfl, fun p hp => (hpending p hp).le⟩

def reached (greedy : Bool) (step : Cursor text → List (Cursor text)) (c : Cursor text) :
    List (Cursor text) :=
  (explore greedy step .empty c).toList

variable (step) in
lemma closed_empty : Closed step [] .empty :=
  fun _ hd => absurd hd List.not_mem_nil

/-- What is there already costs a continuation nothing: it has failed on all that is not looked at
again. -/
lemma findSome?_explore (hstep : ∀ c, ∀ d ∈ step c, c.offset < d.offset)
    (f : Cursor text → Option β) (h : Closed step pending found)
    (hpending : ∀ p ∈ pending, p.offset < c.offset) :
    (explore greedy step found c).toList.findSome? f =
      (found.toList.findSome? f).or ((reached greedy step c).findSome? f) := by
  induction hn : text.length - c.offset using Nat.strong_induction_on
    generalizing pending found c with
  | _ n ih =>
    have hnew : ∀ {pending found}, Closed step pending found →
        (∀ p ∈ pending, p.offset < c.offset) → found.contains c = false →
        (explore greedy step found c).toList.findSome? f = (found.toList.findSome? f).or
          (inOrder greedy ((step c).findSome? fun d => (reached greedy step d).findSome? f)
            (f c)) := by
      intro pending found h hpending hc
      refine findSome?_explore_of_new hstep (fun d hd _ _ h hpending => ?_) h hpending hc
      have hlt := hstep c d hd
      have hle := d.offset_le
      exact ih _ (by omega) h hpending rfl
    cases hc : found.contains c with
    | false =>
      rw [hnew h hpending hc, reached, hnew (closed_empty step) (List.forall_mem_nil _)
        (Found.contains_empty c)]
      rfl
    | true =>
      rw [explore, if_pos hc]
      cases hf : found.toList.findSome? f with
      | some b => rfl
      | none =>
        symm
        rw [Option.none_or, List.findSome?_eq_none_iff]
        intro e he
        apply List.findSome?_eq_none_iff.mp hf
        have hreach := (reaches_of_mem_explore (List.mem_reverse.mp he)).resolve_left
          List.not_mem_nil
        exact List.mem_reverse.mpr
          (h.mem_of_reaches hstep hpending (Found.contains_iff.mp hc) hreach)

lemma findSome?_reached (hstep : ∀ c, ∀ d ∈ step c, c.offset < d.offset)
    (f : Cursor text → Option β) (c : Cursor text) :
    (reached greedy step c).findSome? f =
      inOrder greedy ((step c).findSome? fun d => (reached greedy step d).findSome? f) (f c) := by
  refine (findSome?_explore_of_new hstep (fun d _ _ _ h hpending => ?_) (closed_empty step)
    (List.forall_mem_nil _) (Found.contains_empty c)).trans Option.none_or
  exact findSome?_explore hstep f h hpending

end Explore

/-- What `f` makes of the first stop of `r` from `c` that it accepts. -/
def prefer (r : Regex) (c : Cursor text) (f : Cursor text → Option β) : Option β :=
  (r.ends c).findSome? f

variable {r s : Regex} {c : Cursor text} {f : Cursor text → Option β}

lemma prefer_cat : (cat r s).prefer c f = r.prefer c fun d => s.prefer d f := by
  rw [prefer, ends, findSome?_distinct, prefer]
  generalize r.ends c = ds
  induction ds with
  | nil => rfl
  | cons d ds ih =>
    rw [List.flatMap_cons, List.findSome?_append, List.findSome?_cons, ih, prefer]
    cases (s.ends d).findSome? f <;> rfl

lemma prefer_tied : (cat (assert .textStart) r).prefer (Cursor.start text) f =
    r.prefer (Cursor.start text) f := by
  have hstart : (assert .textStart).ends (Cursor.start text) = [Cursor.start text] := rfl
  rw [prefer_cat, prefer, hstart, List.findSome?_singleton]

lemma prefer_alt : (alt r s).prefer c f = (r.prefer c f).or (s.prefer c f) := by
  rw [prefer, ends, findSome?_distinct, List.findSome?_append]
  rfl

lemma prefer_opt (greedy : Bool) :
    (opt greedy r).prefer c f = inOrder greedy (r.prefer c f) (f c) := by
  cases greedy with
  | true =>
    have he : (opt true r).ends c = if c ∈ r.ends c then r.ends c else r.ends c ++ [c] := by
      rw [ends]
    rw [prefer, he, inOrder, if_pos rfl]
    split
    next hc =>
      cases hf : r.prefer c f with
      | some b => exact hf
      | none => exact hf.trans (List.findSome?_eq_none_iff.mp hf c hc).symm
    next => rw [List.findSome?_append, List.findSome?_singleton, prefer]
  | false =>
    rw [prefer, ends, List.findSome?_cons, inOrder, if_neg Bool.false_ne_true, prefer]
    cases hc : f c with
    | some b => rfl
    | none =>
      dsimp only
      rw [Option.none_or]
      generalize r.ends c = ds
      induction ds with
      | nil => rfl
      | cons d ds ih =>
        rw [List.findSome?_cons, List.filter_cons]
        split
        next => rw [List.findSome?_cons, ih]
        next hd =>
          obtain rfl : d = c := by simpa using hd
          rw [hc, ih]

lemma offset_lt_of_mem_ends (hr : r.nullable = false) (c : Cursor text) :
    ∀ d ∈ r.ends c, c.offset < d.offset :=
  fun _ hd => (mem_ends_iff.mp hd).offset_lt hr

lemma ends_star (hr : r.nullable = false) (greedy : Bool) (c : Cursor text) :
    (star greedy r).ends c = reached greedy r.ends c := by
  rw [ends, hr, if_neg Bool.false_ne_true, reached]

/-- At every round the same is tried first: one more round if `greedy`, else the end. -/
theorem prefer_star (hr : r.nullable = false) (greedy : Bool) :
    (star greedy r).prefer c f =
      inOrder greedy (r.prefer c fun d => (star greedy r).prefer d f) (f c) := by
  simp only [prefer, ends_star hr]
  exact findSome?_reached (offset_lt_of_mem_ends hr) f c

theorem prefer_plus (hr : r.nullable = false) (greedy : Bool) :
    (plus greedy r).prefer c f = r.prefer c fun d => (star greedy r).prefer d f := by
  have hstep := fun c : Cursor text => offset_lt_of_mem_ends hr c
  simp only [prefer, ends_star hr]
  rw [ends, hr, if_neg Bool.false_ne_true]
  refine (findSome?_foldl (fun d _ found h => ?_) (closed_empty r.ends)).trans Option.none_or
  exact ⟨(extends_explore hstep h d).closed, findSome?_explore hstep f h (List.forall_mem_nil _)⟩

end Regex

end Highlighting
