import Highlighting.Json.Decode
import Highlighting.Proofs.Json.Reading
import Mathlib.Data.List.Nodup

namespace Highlighting

namespace Tree

inductive IsText : Tree → String → Prop
  | mk (s : String) : IsText (string (some s)) s

inductive IsFlag : Tree → Bool → Prop
  | mk (b : Bool) : IsFlag (bool b) b

inductive Optional {α : Type} (stands : Tree → α → Prop) : Tree → Option α → Prop
  | none : Optional stands null none
  | some {t : Tree} {a : α} (h : stands t a) : Optional stands t (some a)

inductive Named {α : Type} (names : List (String × α)) : Tree → α → Prop
  | alone {name : String} {a : α} (h : (name, a) ∈ names) : Named names (string (some name)) a
  | key {name : String} {a : α} (h : (name, a) ∈ names) :
      Named names (object [(some name, null)] .closed) a

/-- Of the trees without faults those are decoded that stand for a value, and as that value. -/
def Decodes {α : Type} (decode : Tree → Except DecodeError α) (stands : Tree → α → Prop) : Prop :=
  ∀ t, t.fault? = none → ∀ a, decode t = .ok a ↔ stands t a

section Values

variable {α : Type} {decode : Tree → Except DecodeError α} {stands : Tree → α → Prop}

lemma map_eq_ok_iff {β ε : Type} {x : Except ε α} {f : α → β} {b : β} :
    x.map f = .ok b ↔ ∃ a, x = .ok a ∧ f a = b := by
  cases x with
  | error e => exact ⟨nofun, nofun⟩
  | ok a => simp [Except.map]

lemma bind_eq_ok_iff {β ε : Type} {x : Except ε α} {f : α → Except ε β} {b : β} :
    x.bind f = .ok b ↔ ∃ a, x = .ok a ∧ f a = .ok b := by
  cases x with
  | error e => exact ⟨nofun, nofun⟩
  | ok a => simp [Except.bind]

lemma mismatch_ne_ok (t : Tree) (expected : String) (a : α) : t.mismatch expected ≠ .ok a := by
  unfold mismatch
  cases t.describe <;> exact nofun

lemma Decodes.unique (h : Decodes decode stands) {t : Tree} (ht : t.fault? = none) {a b : α}
    (ha : stands t a) (hb : stands t b) : a = b :=
  Except.ok.inj (((h t ht a).mpr ha).symm.trans ((h t ht b).mpr hb))

lemma decodes_asString : Decodes asString IsText := by
  intro t _ s
  constructor
  · intro h
    cases t with
    | string s' =>
      cases s' with
      | some s' =>
        cases h
        exact .mk s
      | none => exact absurd h (mismatch_ne_ok _ _ _)
    | null | bool | number | array | object | broken => exact absurd h (mismatch_ne_ok _ _ _)
  · rintro ⟨⟩
    rfl

lemma decodes_asBool : Decodes asBool IsFlag := by
  intro t _ b
  constructor
  · intro h
    cases t with
    | bool b' =>
      cases h
      exact .mk b
    | null | string | number | array | object | broken => exact absurd h (mismatch_ne_ok _ _ _)
  · rintro ⟨⟩
    rfl

lemma eq_null_of_asUnit {t : Tree} {u : Unit} (h : t.asUnit = .ok u) : t = null := by
  cases t with
  | null => rfl
  | bool | number | string | array | object | broken => exact absurd h (mismatch_ne_ok _ _ _)

lemma Decodes.option (h : Decodes decode stands) (hnull : ∀ a, ¬stands null a) :
    Decodes (Tree.option decode) (Optional stands) := by
  intro t ht o
  have hvalue : t ≠ null → t.option decode = (decode t).map some := by
    intro hne
    cases t with
    | null => exact absurd rfl hne
    | broken beginning b => exact nomatch ht
    | bool | number | string | array | object => rfl
  constructor
  · intro ho
    by_cases hne : t = null
    · subst hne
      cases ho
      exact .none
    · rw [hvalue hne, map_eq_ok_iff] at ho
      obtain ⟨a, ha, rfl⟩ := ho
      exact .some ((h t ht a).mp ha)
  · intro ho
    cases ho with
    | none => rfl
    | @some _ a ha =>
      have hne : t ≠ null := by
        rintro rfl
        exact hnull a ha
      rw [hvalue hne, (h t ht a).mpr ha]
      rfl

lemma find?_key_eq_some_iff {key : α → String} {l : List α} (h : (l.map key).Nodup) {name : String}
    {a : α} : l.find? (key · == name) = some a ↔ a ∈ l ∧ key a = name := by
  constructor
  · intro hfind
    exact ⟨List.mem_of_find?_eq_some hfind, by simpa using List.find?_some hfind⟩
  · rintro ⟨hmem, rfl⟩
    cases hfind : l.find? (key · == key a) with
    | none => exact absurd (beq_self_eq_true _) (List.find?_eq_none.mp hfind a hmem)
    | some b =>
      have hkey : key b = key a := by simpa using List.find?_some hfind
      rw [List.inj_on_of_nodup_map h (List.mem_of_find?_eq_some hfind) hmem hkey]

lemma decodes_variant {known : List String} {ofName? : String → Option α}
    {names : List (String × α)}
    (hnames : ∀ name a, ofName? name = some a ↔ (name, a) ∈ names) :
    Decodes (variant known ofName?) (Named names) := by
  have hnamed : ∀ name a, variant.named known ofName? name = .ok a ↔ (name, a) ∈ names := by
    intro name a
    rw [← hnames]
    unfold variant.named
    cases ofName? name with
    | none => exact ⟨nofun, nofun⟩
    | some b =>
      constructor
      · exact fun h => congrArg some (Except.ok.inj h)
      · exact fun h => congrArg Except.ok (Option.some.inj h)
  intro t _ a
  constructor
  · intro h
    unfold variant at h
    split at h
    · exact .alone ((hnamed _ a).mp h)
    · exact nomatch h
    · split at h
      · exact nomatch h
      · obtain ⟨b, hb, h⟩ := bind_eq_ok_iff.mp h
        obtain ⟨_, hunit, h⟩ := bind_eq_ok_iff.mp h
        cases eq_null_of_asUnit hunit
        split at h
        · cases h
          exact .key ((hnamed _ a).mp hb)
        all_goals exact nomatch h
    all_goals exact nomatch h
  · intro h
    cases h with
    | alone hmem => exact (hnamed _ a).mpr hmem
    | key hmem =>
      unfold variant
      simp only [(hnamed _ a).mpr hmem]
      rfl

end Values

section Faults

variable {members : List (Option String × Tree)} {items : List Tree} {ending : Ending}

lemma faultOfItems?_eq_none_iff :
    faultOfItems? items ending = none ↔ ending = .closed ∧ ∀ t ∈ items, t.fault? = none := by
  induction items with
  | nil => cases ending <;> simp [faultOfItems?]
  | cons t items ih =>
    rw [faultOfItems?, Option.or_eq_none_iff, ih, List.forall_mem_cons]
    exact and_left_comm

lemma faultOfMembers?_eq_none_iff : faultOfMembers? members ending = none ↔
    ending = .closed ∧ ∀ member ∈ members, member.2.fault? = none := by
  induction members with
  | nil => cases ending <;> simp [faultOfMembers?]
  | cons member members ih =>
    rw [faultOfMembers?, Option.or_eq_none_iff, ih, List.forall_mem_cons]
    exact and_left_comm

lemma fault?_array_iff : (array items ending).fault? = none ↔
    ending = .closed ∧ ∀ t ∈ items, t.fault? = none := by
  rw [fault?, faultOfItems?_eq_none_iff]

lemma fault?_object_iff : (object members ending).fault? = none ↔
    ending = .closed ∧ ∀ member ∈ members, member.2.fault? = none := by
  rw [fault?, faultOfMembers?_eq_none_iff]

def Part.Sound : Part → Prop
  | .value t => t.fault? = none
  | .items ts => ∀ t ∈ ts, t.fault? = none
  | .members ms => ∀ member ∈ ms, member.2.fault? = none

lemma sound_of_spelled {p : Part} {text : List Char} (h : Spelled p text) : p.Sound := by
  induction h with
  | null | bool | number | string => rfl
  | noItems => exact fault?_array_iff.mpr ⟨rfl, fun _ ht => absurd ht List.not_mem_nil⟩
  | array _ ih => exact fault?_array_iff.mpr ⟨rfl, ih⟩
  | lastItem _ _ _ ih => exact List.forall_mem_singleton.mpr ih
  | item _ _ _ _ ih ihmore => exact List.forall_mem_cons.mpr ⟨ih, ihmore⟩
  | noMembers => exact fault?_object_iff.mpr ⟨rfl, fun _ hm => absurd hm List.not_mem_nil⟩
  | object _ ih => exact fault?_object_iff.mpr ⟨rfl, ih⟩
  | lastMember _ _ _ _ _ _ ih => exact List.forall_mem_singleton.mpr ih
  | member _ _ _ _ _ _ _ ih ihmore => exact List.forall_mem_cons.mpr ⟨ih, ihmore⟩

lemma Document.fault? {t : Tree} {text : String} (h : Document t text) : t.fault? = none := by
  obtain ⟨-, h, -⟩ := h
  exact sound_of_spelled h

lemma decode_of_document {α : Type} (decoder : Tree → Except DecodeError α) {t : Tree}
    {text : String} (h : Document t text) : decode decoder text = decoder t := by
  obtain ⟨rest, htext, hrest⟩ := ofText_of_document h
  unfold decode
  simp only [htext, hrest, List.isEmpty_nil, if_true]
  exact bind_pure _

end Faults

end Tree

end Highlighting
