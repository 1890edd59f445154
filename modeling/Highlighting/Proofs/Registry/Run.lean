import Highlighting.Proofs.Registry.Binding
import Highlighting.Proofs.Text.Utf8Order
import Mathlib.Algebra.GroupWithZero.Nat

namespace Highlighting.Registry

structure Call where
  handler : Handler
  names : List String

def Call.Refused (call : Call) : RegistryError → Prop
  | .noAliases handler => call.names = [] ∧ handler = call.handler.name
  | .invalidAlias name => ∃ before after, call.names = before ++ name :: after ∧
      (∀ earlier ∈ before, ValidName earlier) ∧ ¬ValidName name
  | .unknownLanguage _ => False

def step (registry : Registry) (call : Call) : Registry × Except RegistryError Nat :=
  (registry.register call.handler call.names).value

def run (registry : Registry) : List Call → Registry × List (Except RegistryError Nat)
  | [] => (registry, [])
  | call :: calls =>
    let (next, outcome) := registry.step call
    let (last, outcomes) := next.run calls
    (last, outcome :: outcomes)

def Call.refusal? (call : Call) : Option RegistryError :=
  if call.names.isEmpty then some (.noAliases call.handler.name)
  else (call.names.find? fun name => !isValidName name).map .invalidAlias

lemma find?_invalid_eq_some_iff (names : List String) (name : String) :
    names.find? (fun name => !isValidName name) = some name ↔
      ∃ before after, names = before ++ name :: after ∧
        (∀ earlier ∈ before, ValidName earlier) ∧ ¬ValidName name := by
  rw [List.find?_eq_some_iff_append]
  simp only [Bool.not_eq_true', ← isValidName_iff, Bool.not_not]
  constructor
  · rintro ⟨hname, before, after, hnames, hbefore⟩
    exact ⟨before, after, hnames, hbefore, Bool.eq_false_iff.mp hname⟩
  · rintro ⟨before, after, hnames, hbefore, hname⟩
    exact ⟨Bool.eq_false_iff.mpr hname, before, after, hnames, hbefore⟩

lemma Call.refusal?_eq_some_iff (call : Call) (e : RegistryError) :
    call.refusal? = some e ↔ call.Refused e := by
  obtain ⟨handler, names⟩ := call
  cases names with
  | nil =>
    simp only [refusal?, List.isEmpty_nil, if_true, Option.some.injEq]
    cases e with
    | noAliases name => simp only [RegistryError.noAliases.injEq, Refused, true_and, eq_comm]
    | invalidAlias name => simp [Refused]
    | unknownLanguage name => simp [Refused]
  | cons first names =>
    simp only [refusal?, List.isEmpty_cons, Bool.false_eq_true, if_false, Option.map_eq_some_iff,
      find?_invalid_eq_some_iff]
    cases e with
    | noAliases name => simp [Refused]
    | invalidAlias name => simp only [RegistryError.invalidAlias.injEq, exists_eq_right, Refused]
    | unknownLanguage name => simp [Refused]

lemma Call.valid_of_refusal?_eq_none {call : Call} (h : call.refusal? = none) :
    ∀ name ∈ call.names, ValidName name := by
  unfold refusal? at h
  split at h
  next => exact nomatch h
  next =>
    simpa only [Option.map_eq_none_iff, List.find?_eq_none, Bool.not_eq_true', Bool.not_eq_false,
      isValidName_iff] using h

def Call.takes (call : Call) (name : String) : Bool :=
  call.refusal?.isNone && decide (name ∈ call.names)

def owner? (calls : List Call) (name : String) : Option Handler :=
  (calls.find? (·.takes name)).map Call.handler

lemma isSome_owner?_iff (calls : List Call) (name : String) :
    (owner? calls name).isSome = true ↔ ∃ call ∈ calls, call.takes name = true := by
  rw [owner?, Option.isSome_map, List.find?_isSome]

section Step

variable (registry : Registry) (call : Call)

lemma register_cases :
    (∃ e, call.refusal? = some e ∧
        registry.register call.handler call.names = ⟨(registry, .error e), []⟩) ∨
      call.refusal? = none ∧
        registry.register call.handler call.names =
          ⟨((registry.bindFree call.handler call.names).value.1,
              .ok (registry.bindFree call.handler call.names).value.2),
            (registry.bindFree call.handler call.names).events ++
              [.registered call.handler.name (registry.bindFree call.handler call.names).value.2
                call.names.length]⟩ := by
  unfold Call.refusal? register
  cases call.names.isEmpty with
  | true => exact Or.inl ⟨_, rfl, rfl⟩
  | false =>
    simp only [Bool.false_eq_true, if_false]
    cases call.names.find? fun name => !isValidName name with
    | some name => exact Or.inl ⟨_, rfl, rfl⟩
    | none => exact Or.inr ⟨rfl, rfl⟩

lemma step_cases :
    (∃ e, call.refusal? = some e ∧ registry.step call = (registry, .error e)) ∨
      call.refusal? = none ∧
        registry.step call = ((registry.bindFree call.handler call.names).value.1,
          .ok (registry.bindFree call.handler call.names).value.2) := by
  rw [step]
  rcases registry.register_cases call with ⟨e, hrefusal, hregister⟩ | ⟨hrefusal, hregister⟩
  · exact Or.inl ⟨e, hrefusal, congrArg Logged.value hregister⟩
  · exact Or.inr ⟨hrefusal, congrArg Logged.value hregister⟩

lemma step_eq_error_iff (e : RegistryError) :
    (registry.step call).2 = .error e ↔ call.Refused e := by
  rw [← Call.refusal?_eq_some_iff]
  rcases registry.step_cases call with ⟨e', hrefusal, hstep⟩ | ⟨hrefusal, hstep⟩
  · rw [hrefusal, hstep]
    simp only [Except.error.injEq, Option.some.injEq]
  · rw [hrefusal, hstep]
    exact ⟨nofun, nofun⟩

lemma step_unchanged {e : RegistryError} (h : (registry.step call).2 = .error e) :
    (registry.step call).1 = registry := by
  rcases registry.step_cases call with ⟨e', -, hstep⟩ | ⟨-, hstep⟩
  · rw [hstep]
  · rw [hstep] at h
    exact nomatch h

lemma step_count {n : Nat} (h : (registry.step call).2 = .ok n) :
    n = (registry.freeNames call.names).card := by
  rcases registry.step_cases call with ⟨e, -, hstep⟩ | ⟨-, hstep⟩
  · rw [hstep] at h
    exact nomatch h
  · rw [hstep] at h
    cases h
    exact count_bindFree registry call.handler call.names

lemma isOk_step :
    (registry.step call).2.isOk = call.refusal?.isNone := by
  rcases registry.step_cases call with ⟨e, hrefusal, hstep⟩ | ⟨hrefusal, hstep⟩ <;>
    · rw [hrefusal, hstep]
      rfl

lemma get?_step (name : String) :
    (registry.step call).1.get? name = (registry.get? name).or
      (if (registry.step call).2.isOk = true ∧ name ∈ call.names then some call.handler
        else none) := by
  rcases registry.step_cases call with ⟨e, -, hstep⟩ | ⟨-, hstep⟩
  · rw [hstep, if_neg (fun h => nomatch h.1), Option.or_none]
  · rw [hstep]
    simp only [get?_bindFree, Except.isOk, Except.toBool, true_and]

lemma size_step :
    (registry.step call).1.size = registry.size + (registry.step call).2.toOption.getD 0 := by
  rcases registry.step_cases call with ⟨e, -, hstep⟩ | ⟨-, hstep⟩
  · rw [hstep]
    rfl
  · rw [hstep]
    exact size_bindFree call.handler call.names

variable {registry}

lemma Sound.step (h : registry.Sound) : (registry.step call).1.Sound := by
  rcases registry.step_cases call with ⟨e, -, hstep⟩ | ⟨hrefusal, hstep⟩
  · rw [hstep]
    exact h
  · rw [hstep]
    exact h.bindFree call.handler (Call.valid_of_refusal?_eq_none hrefusal)

end Step

section Run

variable (registry : Registry)

lemma run_append (before after : List Call) :
    registry.run (before ++ after) =
      (((registry.run before).1.run after).1,
        (registry.run before).2 ++ ((registry.run before).1.run after).2) := by
  induction before generalizing registry with
  | nil => rfl
  | cons call before ih => simp only [List.cons_append, run, ih]

lemma length_run (calls : List Call) : (registry.run calls).2.length = calls.length := by
  induction calls generalizing registry with
  | nil => rfl
  | cons call calls ih => simp only [run, List.length_cons, ih]

lemma run_getElem? (before : List Call) (call : Call) (after : List Call) :
    (registry.run (before ++ call :: after)).2[before.length]? =
      some ((registry.run before).1.step call).2 := by
  rw [run_append, List.getElem?_append_right (Nat.le_of_eq (length_run registry before)),
    length_run, Nat.sub_self]
  rfl

lemma run_concat (before : List Call) (call : Call) :
    (registry.run (before ++ [call])).1 = ((registry.run before).1.step call).1 := by
  rw [run_append]
  rfl

lemma get?_run (calls : List Call) (name : String) :
    (registry.run calls).1.get? name = (registry.get? name).or
      (((calls.zip (registry.run calls).2).find? fun entry =>
        entry.2.isOk && decide (name ∈ entry.1.names)).map fun entry => entry.1.handler) := by
  induction calls generalizing registry with
  | nil => exact (Option.or_none).symm
  | cons call calls ih =>
      simp only [run, List.zip_cons_cons]
      rw [ih, get?_step, Option.or_assoc]
      congr 1
      by_cases htakes : (registry.step call).2.isOk = true ∧ name ∈ call.names
      · rw [if_pos htakes, List.find?_cons_of_pos (by simpa using htakes)]
        rfl
      · rw [if_neg htakes, List.find?_cons_of_neg (by simpa using htakes), Option.none_or]

lemma get?_run_owner (calls : List Call) (name : String) :
    (registry.run calls).1.get? name = (registry.get? name).or (owner? calls name) := by
  induction calls generalizing registry with
  | nil => exact Option.or_none.symm
  | cons call calls ih =>
    simp only [run]
    rw [ih, get?_step, isOk_step, Option.or_assoc, owner?, owner?]
    congr 1
    by_cases htakes : call.takes name = true
    · have hboth : call.refusal?.isNone = true ∧ name ∈ call.names := by
        simpa [Call.takes] using htakes
      rw [if_pos hboth, List.find?_cons, htakes]
      rfl
    · have hboth : ¬(call.refusal?.isNone = true ∧ name ∈ call.names) := by
        simpa [Call.takes] using htakes
      rw [if_neg hboth, List.find?_cons, Bool.eq_false_iff.mpr htakes, Option.none_or]

lemma size_run (calls : List Call) :
    (registry.run calls).1.size =
      registry.size + ((registry.run calls).2.filterMap Except.toOption).sum := by
  induction calls generalizing registry with
  | nil => rfl
  | cons call calls ih =>
      simp only [run]
      rw [ih, size_step]
      cases (registry.step call).2 with
      | error e => rfl
      | ok n =>
        rw [List.filterMap_cons_some (f := Except.toOption) (b := n) rfl, List.sum_cons,
          ← Nat.add_assoc]
        rfl

variable {registry}

lemma Sound.run (h : registry.Sound) (calls : List Call) : (registry.run calls).1.Sound := by
  induction calls generalizing registry with
  | nil => exact h
  | cons call calls ih => exact ih (h.step call)

end Run

section Names

variable {registry : Registry}

lemma mem_names_iff (registry : Registry) (name : String) :
    name ∈ registry.names ↔ registry.contains name = true := by
  rw [names, List.mem_mergeSort, mem_keys_iff]

lemma Sound.names_nodup (h : registry.Sound) : registry.names.Nodup :=
  (List.mergeSort_perm _ _).nodup_iff.mpr h.nodup

lemma Sound.names_ascending (h : registry.Sound) : registry.names.Pairwise (· < ·) := by
  have hsorted : registry.names.Pairwise fun a b => decide (a ≤ b) = true := by
    apply List.pairwise_mergeSort
    · intro a b c hab hbc
      rw [decide_eq_true_eq] at *
      exact le_trans hab hbc
    · intro a b
      rw [Bool.or_eq_true, decide_eq_true_eq, decide_eq_true_eq]
      exact le_total a b
  have hle := hsorted.imp of_decide_eq_true
  exact (hle.and h.names_nodup).imp fun ⟨hle, hne⟩ => lt_of_le_of_ne hle hne

end Names

structure Call.Effect (call : Call) (registry next : Registry)
    (outcome : Except RegistryError Nat) : Prop where
  error_iff : ∀ e, outcome = .error e ↔ call.Refused e
  unchanged : ∀ e, outcome = .error e → next = registry
  count_eq : ∀ n, outcome = .ok n → n = (registry.freeNames call.names).card

structure Ledger (calls : List Call) (registry : Registry)
    (outcomes : List (Except RegistryError Nat)) : Prop where
  length_eq : outcomes.length = calls.length
  effect : ∀ before call after, calls = before ++ call :: after → ∃ outcome,
    outcomes[before.length]? = some outcome ∧
      call.Effect (empty.run before).1 (empty.run (before ++ [call])).1 outcome
  get?_eq : ∀ name, registry.get? name =
    ((calls.zip outcomes).find? fun entry =>
      entry.2.isOk && decide (name ∈ entry.1.names)).map fun entry => entry.1.handler
  size_eq : registry.size = (outcomes.filterMap Except.toOption).sum
  contains_iff : ∀ name,
    registry.contains name = true ↔ ∃ handler, registry.get? name = some handler
  ascending : registry.names.Pairwise (· < ·)
  bytes_ascending : registry.names.Pairwise fun a b =>
    a.toByteArray.data.toList < b.toByteArray.data.toList
  nodup : registry.names.Nodup
  mem_iff : ∀ name, name ∈ registry.names ↔ ∃ handler, registry.get? name = some handler
  valid : ∀ name ∈ registry.names, ValidName name
  isEmpty_iff : registry.isEmpty = true ↔ ∀ n, Except.ok n ∈ outcomes → n = 0

theorem ledger_run (calls : List Call) :
    Ledger calls (empty.run calls).1 (empty.run calls).2 := by
  have hsound := Sound.empty.run calls
  have hsize : (empty.run calls).1.size =
      ((empty.run calls).2.filterMap Except.toOption).sum := by
    rw [size_run]
    exact Nat.zero_add _
  have hcontains : ∀ name, (empty.run calls).1.contains name = true ↔
      ∃ handler, (empty.run calls).1.get? name = some handler :=
    fun name => Option.isSome_iff_exists
  refine ⟨length_run empty calls, ?_, ?_, hsize, hcontains, hsound.names_ascending, ?_,
    hsound.names_nodup, ?_, ?_, ?_⟩
  · rintro before call after rfl
    refine ⟨_, run_getElem? empty before call after, ?_⟩
    rw [run_concat]
    exact ⟨step_eq_error_iff _ call, fun e => step_unchanged _ call, fun n => step_count _ call⟩
  · intro name
    rw [get?_run]
    exact Option.none_or
  · exact hsound.names_ascending.imp fun h => (lt_iff_bytes_lt _ _).mp h
  · intro name
    rw [mem_names_iff, hcontains]
  · intro name hname
    rw [mem_names_iff, ← mem_keys_iff] at hname
    exact hsound.valid name hname
  · have hempty : (empty.run calls).1.isEmpty = true ↔ (empty.run calls).1.size = 0 := by
      rw [isEmpty, size, List.isEmpty_iff, List.length_eq_zero_iff]
    rw [hempty, hsize, List.sum_eq_zero_iff_forall_eq_nat]
    refine ⟨fun h n hn => h n (List.mem_filterMap.mpr ⟨_, hn, rfl⟩), fun h n hn => ?_⟩
    obtain ⟨outcome, houtcome, hn⟩ := List.mem_filterMap.mp hn
    cases outcome with
    | error e => exact nomatch hn
    | ok m =>
      cases hn
      exact h n houtcome

end Highlighting.Registry
