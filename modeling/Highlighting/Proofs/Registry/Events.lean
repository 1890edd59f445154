import Highlighting.Proofs.Registry.Run

namespace Highlighting.Registry

/-- Whom `name` belongs to when it is the turn of the name at place `i`: to the owner by the calls
before this one, or else to the handler of this call if the name stands at an earlier place. -/
def Call.holder? (call : Call) (calls : List Call) (i : ℕ) (name : String) : Option Handler :=
  (owner? calls name).or (if name ∈ call.names.take i then some call.handler else none)

def Call.clash? (call : Call) (calls : List Call) (entry : String × ℕ) : Option Event :=
  (call.holder? calls entry.2 entry.1).map fun holder =>
    .overriding entry.1 holder.name call.handler.name

def Call.clashes (call : Call) (calls : List Call) : List Event :=
  call.names.zipIdx.filterMap (call.clash? calls)

section BindFree

variable {registry : Registry} {handler : Handler}

lemma bindFree_taken_events {name : String} {existing : Handler} (names : List String)
    (h : registry.get? name = some existing) :
    (registry.bindFree handler (name :: names)).events =
      .overriding name existing.name handler.name :: (registry.bindFree handler names).events := by
  simp only [bindFree, h]
  rfl

lemma bindFree_free_events {name : String} (names : List String) (h : registry.get? name = none) :
    (registry.bindFree handler (name :: names)).events =
      ((registry.bind name handler).bindFree handler names).events := by
  simp only [bindFree, h]
  exact List.append_nil _

lemma length_events_bindFree (registry : Registry) (handler : Handler) (names : List String) :
    (registry.bindFree handler names).events.length + (registry.bindFree handler names).value.2 =
      names.length := by
  induction names generalizing registry with
  | nil => rfl
  | cons name names ih =>
    cases hname : registry.get? name with
    | some existing =>
      rw [bindFree_taken_events names hname, bindFree_taken handler names hname, List.length_cons,
        List.length_cons, ← ih registry]
      omega
    | none =>
      rw [bindFree_free_events names hname, bindFree_free handler names hname, List.length_cons,
        ← ih (registry.bind name handler)]
      omega

end BindFree

namespace Call

variable {call : Call} {calls : List Call} {registry : Registry}

lemma holder?_succ {earlier names : List String} {name : String}
    (hnames : call.names = earlier ++ name :: names) (other : String) :
    call.holder? calls (earlier.length + 1) other =
      (call.holder? calls earlier.length other).or
        (if other = name then some call.handler else none) := by
  have htake : call.names.take (earlier.length + 1) = earlier ++ [name] := by
    rw [hnames, List.append_cons]
    exact List.take_left' (by simp)
  rw [holder?, holder?, htake, hnames, List.take_left, Option.or_assoc]
  congr 1
  by_cases hearlier : other ∈ earlier
  · simp [hearlier]
  · simp [hearlier]

lemma events_bindFree (earlier : List String) {names : List String}
    (hnames : call.names = earlier ++ names)
    (hget : ∀ other, registry.get? other = call.holder? calls earlier.length other) :
    (registry.bindFree call.handler names).events =
      (names.zipIdx earlier.length).filterMap (call.clash? calls) := by
  induction names generalizing earlier registry with
  | nil => rfl
  | cons name names ih =>
    have hlength : (earlier ++ [name]).length = earlier.length + 1 := List.length_append
    have hrest : call.names = (earlier ++ [name]) ++ names := by
      rw [hnames, List.append_cons]
    rw [List.zipIdx_cons, ← hlength]
    cases hname : registry.get? name with
    | some existing =>
      have hclash : call.clash? calls (name, earlier.length) =
          some (.overriding name existing.name call.handler.name) := by
        rw [clash?, ← hget name, hname]
        rfl
      rw [bindFree_taken_events names hname, List.filterMap_cons_some hclash]
      congr 1
      apply ih (earlier ++ [name]) hrest
      intro other
      rw [hlength, holder?_succ hnames, ← hget other]
      by_cases ho : other = name
      · rw [ho, hname, Option.some_or]
      · rw [if_neg ho, Option.or_none]
    | none =>
      have hclash : call.clash? calls (name, earlier.length) = none := by
        rw [clash?, ← hget name, hname]
        rfl
      rw [bindFree_free_events names hname, List.filterMap_cons_none hclash]
      apply ih (earlier ++ [name]) hrest
      intro other
      rw [hlength, holder?_succ hnames, ← hget other, get?_bind other hname]
      by_cases ho : other = name
      · rw [if_pos ho, if_pos ho, ho, hname, Option.none_or]
      · rw [if_neg ho, if_neg ho, Option.or_none]

lemma level_clashes {e : Event} (h : e ∈ call.clashes calls) : e.level = .warn := by
  obtain ⟨entry, -, hentry⟩ := List.mem_filterMap.mp h
  obtain ⟨holder, -, rfl⟩ := Option.map_eq_some_iff.mp hentry
  rfl

lemma get?_before (call : Call) (calls : List Call) (i : ℕ) (name : String) :
    ((empty.run calls).1.bindFree call.handler (call.names.take i)).value.1.get? name =
      call.holder? calls i name := by
  rw [get?_bindFree, get?_run_owner, holder?]
  rfl

lemma get?_behind {i : ℕ} {name : String} {holder : Handler}
    (h : call.holder? calls i name = some holder) :
    ((empty.run calls).1.bindFree call.handler call.names).value.1.get? name = some holder := by
  rw [← get?_before, get?_bindFree] at h
  rw [get?_bindFree]
  rcases Option.or_eq_some_iff.mp h with hbound | ⟨hfree, hname⟩
  · rw [hbound, Option.some_or]
  · obtain ⟨hearlier, hholder⟩ := Option.ite_none_right_eq_some.mp hname
    rw [hfree, Option.none_or, if_pos (List.mem_of_mem_take hearlier), hholder]

structure Told (call : Call) (calls : List Call) (next : Registry) (bound : ℕ)
    (events : List Event) : Prop where
  events_eq : events = call.clashes calls ++
    [.registered call.handler.name bound call.names.length]
  held : ∀ i name, call.names[i]? = some name →
    ((empty.run calls).1.bindFree call.handler (call.names.take i)).value.1.get? name =
      call.holder? calls i name
  kept : ∀ i name holder, call.names[i]? = some name →
    call.holder? calls i name = some holder → next.get? name = some holder
  count_eq : events.countP (fun e => e.level = .warn) + bound = call.names.length

theorem told_register (calls : List Call) (call : Call) :
    (∃ e, call.Refused e ∧ (empty.run calls).1.register call.handler call.names =
        ⟨((empty.run calls).1, .error e), []⟩) ∨
      (∀ e, ¬call.Refused e) ∧ ∃ next bound events,
        (empty.run calls).1.register call.handler call.names = ⟨(next, .ok bound), events⟩ ∧
          call.Told calls next bound events := by
  have hevents : ((empty.run calls).1.bindFree call.handler call.names).events =
      call.clashes calls :=
    events_bindFree [] rfl (get?_before call calls 0)
  have hwarnings : (call.clashes calls).countP (fun e => e.level = .warn) =
      (call.clashes calls).length := by
    rw [List.countP_eq_length]
    exact fun e he => decide_eq_true (level_clashes he)
  have hcount := length_events_bindFree (empty.run calls).1 call.handler call.names
  rcases (empty.run calls).1.register_cases call with ⟨e, hrefusal, hregister⟩ |
    ⟨hrefusal, hregister⟩
  · exact Or.inl ⟨e, (call.refusal?_eq_some_iff e).mp hrefusal, hregister⟩
  · refine Or.inr ⟨fun e he => ?_, _, _, _, hregister, ?_, ?_, ?_, ?_⟩
    · exact nomatch hrefusal.symm.trans ((call.refusal?_eq_some_iff e).mpr he)
    · rw [hevents]
    · exact fun i name _ => get?_before call calls i name
    · exact fun i name holder _ => get?_behind
    · rw [List.countP_append, hevents, hwarnings, ← hcount, hevents]
      rfl

end Call

end Highlighting.Registry
