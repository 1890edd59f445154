import Highlighting.Proofs.Json.Decoding

/-! What decoded records are worth: each slot of a record has the value that is written for its key,
or stays as it is by default. -/

namespace Highlighting

namespace Tree

section Members

variable {ρ : Type} {fields : List (Field ρ)} {seen : List String} {key : String} (t : Tree)
  (record : ρ) (members : List (Option String × Tree)) (ending : Ending)

lemma key_of_find? {field : Field ρ} (hfield : fields.find? (·.key == key) = some field) :
    field.key = key := by
  simpa using List.find?_some hfield

lemma putMembers_of_duplicate {field : Field ρ} (hfield : fields.find? (·.key == key) = some field)
    (hseen : key ∈ seen) : putMembers fields seen record ((some key, t) :: members) ending =
      .error (.duplicateField key) := by
  simp only [putMembers, hfield, hseen, if_true]

lemma putMembers_of_fresh {field : Field ρ} (hfield : fields.find? (·.key == key) = some field)
    (hseen : key ∉ seen) : putMembers fields seen record ((some key, t) :: members) ending =
      (field.put t record).bind fun next =>
        putMembers fields (key :: seen) next members ending := by
  simp only [putMembers, hfield, hseen, if_false]
  rfl

lemma putMembers_of_unknown (hfield : fields.find? (·.key == key) = none)
    (ht : t.fault? = none) : putMembers fields seen record ((some key, t) :: members) ending =
      putMembers fields seen record members ending := by
  simp only [putMembers, hfield, ht]

lemma putMembers_of_fault {f : Fault} (hfield : fields.find? (·.key == key) = none)
    (ht : t.fault? = some f) : putMembers fields seen record ((some key, t) :: members) ending =
      .error (.faulty f) := by
  simp only [putMembers, hfield, ht]

end Members

section Given

variable {α : Type} {stands : Tree → α → Prop} {default a b : α} {key : String} {t t' : Tree}
  {keys : List String} {members members' : List (Option String × Tree)}

structure Keyed (keys : List String) (members : List (Option String × Tree)) : Prop where
  text : none ∉ members.map Prod.fst
  once : ∀ key ∈ keys, (members.map Prod.fst).count (some key) ≤ 1

lemma Keyed.tail {member : Option String × Tree} (h : Keyed keys (member :: members)) :
    Keyed keys members where
  text hmem := h.text (List.mem_cons_of_mem _ hmem)
  once key hkey := Nat.le_trans List.count_le_count_cons (h.once key hkey)

lemma Keyed.notMem (h : Keyed keys ((some key, t) :: members)) (hkey : key ∈ keys) :
    some key ∉ members.map Prod.fst := by
  have honce := h.once key hkey
  rw [List.map_cons, List.count_cons_self] at honce
  exact List.count_eq_zero.mp (by omega)

inductive Given (stands : Tree → α → Prop) (default : α) (key : String)
    (members : List (Option String × Tree)) : α → Prop
  | present {t : Tree} {a : α} (hmem : (some key, t) ∈ members) (h : stands t a) :
      Given stands default key members a
  | absent (h : some key ∉ members.map Prod.fst) : Given stands default key members default

lemma eq_of_mem_of_count_le (hcount : (members.map Prod.fst).count (some key) ≤ 1)
    (h : (some key, t) ∈ members) (h' : (some key, t') ∈ members) : t = t' := by
  induction members with
  | nil => exact absurd h List.not_mem_nil
  | cons member members ih =>
    rw [List.map_cons, List.count_cons] at hcount
    have hlater : ∀ u, (some key, u) ∈ members → member.1 ≠ some key := by
      intro u hu heq
      have hpos : 0 < (members.map Prod.fst).count (some key) :=
        List.count_pos_iff.mpr (List.mem_map_of_mem hu)
      rw [if_pos (beq_iff_eq.mpr heq)] at hcount
      omega
    rcases List.mem_cons.mp h with hhead | htail
    · rcases List.mem_cons.mp h' with hhead' | htail'
      · exact congrArg Prod.snd (hhead.trans hhead'.symm)
      · exact absurd (congrArg Prod.fst hhead).symm (hlater t' htail')
    · rcases List.mem_cons.mp h' with hhead' | htail'
      · exact absurd (congrArg Prod.fst hhead').symm (hlater t htail)
      · exact ih (by omega) htail htail'

lemma Given.stands_of_mem (h : Given stands default key members a)
    (hcount : (members.map Prod.fst).count (some key) ≤ 1) (hmem : (some key, t) ∈ members) :
    stands t a := by
  cases h with
  | present hmem' h => exact eq_of_mem_of_count_le hcount hmem' hmem ▸ h
  | absent habsent => exact absurd (List.mem_map_of_mem hmem) habsent

lemma Given.cons (h : Given stands default key members a) {other : Option String}
    (hother : other ≠ some key) : Given stands default key ((other, t) :: members) a := by
  cases h with
  | present hmem h => exact .present (List.mem_cons_of_mem _ hmem) h
  | absent habsent =>
    apply Given.absent
    rw [List.map_cons, List.mem_cons, not_or]
    exact ⟨hother.symm, habsent⟩

lemma Given.eq_default (h : Given stands default key members a)
    (habsent : some key ∉ members.map Prod.fst) : a = default := by
  cases h with
  | present hmem => exact absurd (List.mem_map_of_mem hmem) habsent
  | absent => rfl

lemma Given.unique (ha : Given stands default key members a)
    (hb : Given stands default key members b) (hcount : (members.map Prod.fst).count (some key) ≤ 1)
    (hunique : ∀ t, (some key, t) ∈ members → ∀ a b, stands t a → stands t b → a = b) : a = b := by
  cases ha with
  | present hmem ha => exact hunique _ hmem a b ha (hb.stands_of_mem hcount hmem)
  | absent habsent => exact (hb.eq_default habsent).symm

end Given

structure Slot (ρ : Type) where
  key : String
  α : Type
  stands : Tree → α → Prop
  get : ρ → α

section Slots

variable {ρ : Type} {fields : List (Field ρ)} {slots : List (Slot ρ)} {field : Field ρ}
  {slot : Slot ρ} {key : String} {t : Tree} {record next last default : ρ}
  {members : List (Option String × Tree)}

def Describes (slots : List (Slot ρ)) (default : ρ) (members : List (Option String × Tree))
    (record : ρ) : Prop :=
  Keyed (slots.map Slot.key) members ∧
    ∀ slot ∈ slots, Given slot.stands (slot.get default) slot.key members (slot.get record)

def Admits (slots : List (Slot ρ)) (members : List (Option String × Tree)) : Prop :=
  Keyed (slots.map Slot.key) members ∧
    ∀ slot ∈ slots, ∀ t, (some slot.key, t) ∈ members → ∃ a, slot.stands t a

lemma Admits.tail {member : Option String × Tree} (h : Admits slots (member :: members)) :
    Admits slots members :=
  ⟨h.1.tail, fun slot hslot t ht => h.2 slot hslot t (List.mem_cons_of_mem _ ht)⟩

lemma Describes.admits (h : Describes slots default members record) : Admits slots members :=
  ⟨h.1, fun slot hslot _ hmem => ⟨slot.get record,
    (h.2 slot hslot).stands_of_mem (h.1.once _ (List.mem_map_of_mem hslot)) hmem⟩⟩

inductive RecordOf (slots : List (Slot ρ)) (default : ρ) : Tree → ρ → Prop
  | object {members : List (Option String × Tree)} {record : ρ}
      (h : Describes slots default members record) :
      RecordOf slots default (object members .closed) record
  | array {items : List Tree} {record : ρ} (hlength : items.length ≤ slots.length)
      (h : Describes slots default ((slots.map (some ·.key)).zip items) record) :
      RecordOf slots default (array items .closed) record

inductive Keeps (field : Field ρ) (slot : Slot ρ) : Prop
  | intro (decode : Tree → Except DecodeError slot.α) (set : slot.α → ρ → ρ)
      (hkey : field.key = slot.key) (hdecode : Decodes decode slot.stands)
      (hput : ∀ t record, field.put t record = (decode t).map (set · record))
      (hget : ∀ a record, slot.get (set a record) = a)

def Spares (field : Field ρ) (slot : Slot ρ) : Prop :=
  ∀ t record next, field.put t record = .ok next → slot.get next = slot.get record

/-- Each field keeps its own slot and spares the others, and the slots make up the record. -/
structure Fits (fields : List (Field ρ)) (slots : List (Slot ρ)) : Prop where
  keeps : List.Forall₂ Keeps fields slots
  spares : ∀ field ∈ fields, ∀ slot ∈ slots, field.key ≠ slot.key → Spares field slot
  nodup : (slots.map Slot.key).Nodup
  ext : ∀ record next : ρ, (∀ slot ∈ slots, slot.get record = slot.get next) → record = next

inductive Taken (fields : List (Field ρ)) : ρ → List (Option String × Tree) → ρ → Prop
  | nil {record : ρ} : Taken fields record [] record
  | known {field : Field ρ} {key : String} {t : Tree} {record next last : ρ}
      {members : List (Option String × Tree)}
      (hfield : fields.find? (·.key == key) = some field) (hput : field.put t record = .ok next)
      (hfresh : some key ∉ members.map Prod.fst) (h : Taken fields next members last) :
      Taken fields record ((some key, t) :: members) last
  | unknown {key : String} {t : Tree} {record last : ρ} {members : List (Option String × Tree)}
      (hfield : fields.find? (·.key == key) = none) (ht : t.fault? = none)
      (h : Taken fields record members last) :
      Taken fields record ((some key, t) :: members) last

lemma taken_known_iff (hfield : fields.find? (·.key == key) = some field) :
    Taken fields record ((some key, t) :: members) last ↔ some key ∉ members.map Prod.fst ∧
      ∃ next, field.put t record = .ok next ∧ Taken fields next members last := by
  constructor
  · intro h
    cases h with
    | known hfield' hput hfresh h =>
      cases hfield.symm.trans hfield'
      exact ⟨hfresh, _, hput, h⟩
    | unknown hfield' => exact nomatch hfield.symm.trans hfield'
  · rintro ⟨hfresh, next, hput, h⟩
    exact .known hfield hput hfresh h

lemma taken_unknown_iff (hfield : fields.find? (·.key == key) = none) :
    Taken fields record ((some key, t) :: members) last ↔
      t.fault? = none ∧ Taken fields record members last := by
  constructor
  · intro h
    cases h with
    | known hfield' => exact nomatch hfield.symm.trans hfield'
    | unknown _ ht h => exact ⟨ht, h⟩
  · rintro ⟨ht, h⟩
    exact .unknown hfield ht h

lemma putMembers_eq_ok_iff {seen : List String} :
    putMembers fields seen record members .closed = .ok last ↔ Taken fields record members last ∧
      ∀ key ∈ seen, fields.find? (·.key == key) ≠ none → some key ∉ members.map Prod.fst := by
  -- `seen` grows along the run, but only what is seen and known has to stay away from later keys.
  induction members generalizing seen record with
  | nil =>
    constructor
    · rintro ⟨⟩
      exact ⟨.nil, fun _ _ _ => List.not_mem_nil⟩
    · rintro ⟨⟨⟩, -⟩
      rfl
  | cons member members ih =>
    obtain ⟨_ | key, t⟩ := member
    · exact ⟨nofun, fun h => nomatch h.1⟩
    simp only [List.map_cons, List.mem_cons, Option.some.injEq, not_or]
    cases hfield : fields.find? (·.key == key) with
    | none =>
      rw [taken_unknown_iff hfield]
      cases ht : t.fault? with
      | some f =>
        rw [putMembers_of_fault _ _ _ _ hfield ht]
        exact ⟨nofun, fun h => nomatch h.1.1⟩
      | none =>
        rw [putMembers_of_unknown _ _ _ _ hfield ht, ih]
        constructor
        · rintro ⟨h, hseen⟩
          refine ⟨⟨rfl, h⟩, fun other hother hknown => ⟨?_, hseen other hother hknown⟩⟩
          rintro rfl
          exact hknown hfield
        · rintro ⟨⟨-, h⟩, hseen⟩
          exact ⟨h, fun other hother hknown => (hseen other hother hknown).2⟩
    | some field =>
      have hknown : fields.find? (·.key == key) ≠ none := hfield ▸ Option.some_ne_none field
      rw [taken_known_iff hfield]
      by_cases hkey : key ∈ seen
      · rw [putMembers_of_duplicate _ _ _ _ hfield hkey]
        exact ⟨nofun, fun h => absurd rfl (h.2 key hkey hknown).1⟩
      · rw [putMembers_of_fresh _ _ _ _ hfield hkey, bind_eq_ok_iff]
        simp only [ih, List.forall_mem_cons]
        constructor
        · rintro ⟨next, hput, h, hfresh, hseen⟩
          refine ⟨⟨hfresh hknown, next, hput, h⟩, fun other hother hknown' => ⟨?_, ?_⟩⟩
          · rintro rfl
            exact hkey hother
          · exact hseen other hother hknown'
        · rintro ⟨⟨hfresh, next, hput, h⟩, hseen⟩
          exact ⟨next, hput, h, fun _ => hfresh, fun other hother hknown' =>
            (hseen other hother hknown').2⟩

lemma Keeps.key_eq (h : Keeps field slot) : field.key = slot.key := by
  obtain ⟨_, _, hkey, -, -, -⟩ := h
  exact hkey

lemma Keeps.stands_of_put (h : Keeps field slot) (ht : t.fault? = none)
    (hput : field.put t record = .ok next) : slot.stands t (slot.get next) := by
  obtain ⟨decode, set, -, hdecode, hset, hget⟩ := h
  rw [hset, map_eq_ok_iff] at hput
  obtain ⟨a, ha, rfl⟩ := hput
  rw [hget]
  exact (hdecode t ht a).mp ha

lemma Keeps.exists_put (h : Keeps field slot) (ht : t.fault? = none) {a : slot.α}
    (ha : slot.stands t a) (record : ρ) : ∃ next, field.put t record = .ok next := by
  obtain ⟨decode, set, -, hdecode, hset, -⟩ := h
  exact ⟨set a record, (hset t record).trans (map_eq_ok_iff.mpr ⟨a, (hdecode t ht a).mpr ha, rfl⟩)⟩

lemma Keeps.unique (h : Keeps field slot) (ht : t.fault? = none) {a b : slot.α}
    (ha : slot.stands t a) (hb : slot.stands t b) : a = b := by
  obtain ⟨decode, set, -, hdecode, -, -⟩ := h
  exact hdecode.unique ht ha hb

section Set

variable {α β : Type} {decode : Tree → Except DecodeError α} {stands : Tree → α → Prop}
  {set : α → ρ → ρ} {get : ρ → α}

lemma keeps_of_set (hdecode : Decodes decode stands) (hget : ∀ a record, get (set a record) = a) :
    Keeps ⟨key, fun t record => return set (← decode t) record⟩ ⟨key, α, stands, get⟩ := by
  refine ⟨decode, set, rfl, hdecode, fun t record => ?_, hget⟩
  dsimp only
  cases decode t <;> rfl

lemma spares_of_set (hset : ∀ a record, slot.get (set a record) = slot.get record) :
    Spares ⟨key, fun t record => return set (← decode t) record⟩ slot := by
  intro t record next hput
  dsimp only at hput
  cases ht : decode t with
  | error e =>
    rw [ht] at hput
    exact nomatch hput
  | ok a =>
    rw [ht] at hput
    cases hput
    exact hset a record

end Set

namespace Fits

variable (hfits : Fits fields slots)

include hfits

lemma map_key : fields.map Field.key = slots.map Slot.key := by
  obtain ⟨hkeeps, -, -, -⟩ := hfits
  induction hkeeps with
  | nil => rfl
  | cons hkeep _ ih => rw [List.map_cons, List.map_cons, hkeep.key_eq, ih]

lemma exists_field (hslot : slot ∈ slots) :
    ∃ field, fields.find? (·.key == slot.key) = some field ∧ Keeps field slot := by
  obtain ⟨hkeeps, -, hnodup, -⟩ := hfits
  induction hkeeps with
  | nil => exact absurd hslot List.not_mem_nil
  | @cons field first fields slots hkeep _ ih =>
    rw [List.map_cons, List.nodup_cons] at hnodup
    rcases List.mem_cons.mp hslot with rfl | hlater
    · exact ⟨field, List.find?_cons_of_pos (beq_iff_eq.mpr hkeep.key_eq), hkeep⟩
    · have hne : field.key ≠ slot.key := by
        rw [hkeep.key_eq]
        rintro heq
        exact hnodup.1 (heq ▸ List.mem_map_of_mem hlater)
      rw [List.find?_cons_of_neg (by simpa using hne)]
      exact ih hlater hnodup.2

lemma exists_slot (hfield : fields.find? (·.key == key) = some field) :
    ∃ slot ∈ slots, slot.key = key ∧ Keeps field slot := by
  have hkey := key_of_find? hfield
  have hmem : key ∈ slots.map Slot.key := by
    rw [← hfits.map_key, ← hkey]
    exact List.mem_map_of_mem (List.mem_of_find?_eq_some hfield)
  obtain ⟨slot, hslot, rfl⟩ := List.mem_map.mp hmem
  obtain ⟨field', hfield', hkeep⟩ := hfits.exists_field hslot
  cases hfield.symm.trans hfield'
  exact ⟨slot, hslot, rfl, hkeep⟩

lemma given_of_taken (hslot : slot ∈ slots) (hfault : ∀ member ∈ members, member.2.fault? = none)
    (h : Taken fields record members last) :
    Given slot.stands (slot.get record) slot.key members (slot.get last) := by
  obtain ⟨own, hown, hkeep⟩ := hfits.exists_field hslot
  -- Behind its own key, which does not come again, the slot stays, since other fields spare it.
  induction h with
  | nil => exact .absent List.not_mem_nil
  | @known field key t record next last members hfield hput hfresh _ ih =>
    obtain ⟨ht, hfault⟩ := List.forall_mem_cons.mp hfault
    have hlast := ih hfault
    by_cases hkey : key = slot.key
    · subst hkey
      cases hfield.symm.trans hown
      rw [hlast.eq_default hfresh]
      exact .present List.mem_cons_self (hkeep.stands_of_put ht hput)
    · have hname := key_of_find? hfield
      have hspare := hfits.spares field (List.mem_of_find?_eq_some hfield) slot hslot
        (hname ▸ hkey) t record next hput
      rw [hspare] at hlast
      exact hlast.cons (by simpa using hkey)
  | @unknown key t record last members hfield _ _ ih =>
    apply (ih (List.forall_mem_cons.mp hfault).2).cons
    rintro ⟨⟩
    exact nomatch hfield.symm.trans hown

lemma keyed_of_taken (h : Taken fields record members last) :
    Keyed (slots.map Slot.key) members := by
  induction h with
  | nil => exact ⟨List.not_mem_nil, fun key _ => Nat.zero_le 1⟩
  | @known field key t record next last members hfield _ hfresh _ ih =>
    refine ⟨by simpa using ih.text, fun other hother => ?_⟩
    rw [List.map_cons, List.count_cons]
    by_cases hkey : key = other
    · rw [← hkey, List.count_eq_zero_of_not_mem hfresh]
      simp
    · simpa [hkey] using ih.once other hother
  | @unknown key t record last members hfield _ _ ih =>
    refine ⟨by simpa using ih.text, fun other hother => ?_⟩
    have hkey : key ≠ other := by
      rintro rfl
      obtain ⟨slot, hslot, rfl⟩ := List.mem_map.mp hother
      obtain ⟨field, hfield', -⟩ := hfits.exists_field hslot
      exact nomatch hfield.symm.trans hfield'
    rw [List.map_cons, List.count_cons]
    simpa [hkey] using ih.once other hother

lemma exists_taken (hfault : ∀ member ∈ members, member.2.fault? = none)
    (h : Admits slots members) (record : ρ) : ∃ last, Taken fields record members last := by
  induction members generalizing record with
  | nil => exact ⟨record, .nil⟩
  | cons member members ih =>
    obtain ⟨_ | key, t⟩ := member
    · exact absurd List.mem_cons_self h.1.text
    obtain ⟨ht, hlater⟩ := List.forall_mem_cons.mp hfault
    cases hfield : fields.find? (·.key == key) with
    | none =>
      obtain ⟨last, hlast⟩ := ih hlater h.tail record
      exact ⟨last, .unknown hfield ht hlast⟩
    | some field =>
      obtain ⟨slot, hslot, rfl, hkeep⟩ := hfits.exists_slot hfield
      obtain ⟨a, ha⟩ := h.2 slot hslot t List.mem_cons_self
      obtain ⟨next, hput⟩ := hkeep.exists_put ht ha record
      obtain ⟨last, hlast⟩ := ih hlater h.tail next
      exact ⟨last, .known hfield hput (h.1.notMem (List.mem_map_of_mem hslot)) hlast⟩

lemma taken_iff_describes (hfault : ∀ member ∈ members, member.2.fault? = none) :
    Taken fields default members record ↔ Describes slots default members record := by
  constructor
  · intro h
    exact ⟨hfits.keyed_of_taken h, fun slot hslot => hfits.given_of_taken hslot hfault h⟩
  · intro h
    -- Some run goes through, and no two records can be described by the same members.
    obtain ⟨last, hlast⟩ := hfits.exists_taken hfault h.admits default
    have heq : last = record := by
      apply hfits.ext
      intro slot hslot
      obtain ⟨field, -, hkeep⟩ := hfits.exists_field hslot
      exact (hfits.given_of_taken hslot hfault hlast).unique (h.2 slot hslot)
        (h.1.once _ (List.mem_map_of_mem hslot))
        fun t hmem a b => hkeep.unique (hfault _ hmem)
    exact heq ▸ hlast

lemma nodup_key : (fields.map Field.key).Nodup :=
  hfits.map_key ▸ hfits.nodup

end Fits

lemma notMem_zip (h : key ∉ fields.map Field.key) (items : List Tree) :
    some key ∉ ((fields.map (some ·.key)).zip items).map Prod.fst := by
  intro hmem
  obtain ⟨member, hmem, hkey⟩ := List.mem_map.mp hmem
  obtain ⟨field, hfield, heq⟩ := List.mem_map.mp (List.of_mem_zip hmem).1
  exact h (Option.some.inj (heq.trans hkey) ▸ List.mem_map_of_mem hfield)

lemma Fits.putItems_eq_ok_iff (hfits : Fits fields slots) {rest : List (Field ρ)}
    (hrest : rest <:+ fields) {items : List Tree} :
    putItems record rest items .closed = .ok last ↔ items.length ≤ rest.length ∧
      Taken fields record ((rest.map (some ·.key)).zip items) last := by
  induction items generalizing record rest with
  | nil =>
    have hput : putItems record rest [] .closed = .ok record := by
      cases rest <;> rfl
    rw [hput, List.zip_nil_right]
    constructor
    · rintro ⟨⟩
      exact ⟨Nat.zero_le _, .nil⟩
    · rintro ⟨-, ⟨⟩⟩
      rfl
  | cons item items ih =>
    cases rest with
    | nil => exact ⟨nofun, fun h => absurd h.1 (Nat.not_succ_le_zero _)⟩
    | cons field rest =>
      have hfield := (find?_key_eq_some_iff hfits.nodup_key).mpr
        ⟨hrest.subset List.mem_cons_self, rfl⟩
      have hnodup := hfits.nodup_key.sublist (hrest.sublist.map Field.key)
      rw [List.map_cons, List.nodup_cons] at hnodup
      have hput : putItems record (field :: rest) (item :: items) .closed =
          (field.put item record).bind fun next => putItems next rest items .closed := rfl
      rw [hput, bind_eq_ok_iff, List.map_cons, List.zip_cons_cons, taken_known_iff hfield,
        List.length_cons, List.length_cons, Nat.add_le_add_iff_right]
      simp only [ih ((List.suffix_cons field rest).trans hrest), notMem_zip hnodup.1 items,
        not_false_eq_true, true_and]
      constructor
      · rintro ⟨next, hnext, hlength, h⟩
        exact ⟨hlength, next, hnext, h⟩
      · rintro ⟨hlength, next, hnext, h⟩
        exact ⟨next, hnext, hlength, h⟩

theorem Fits.decodes_record (hfits : Fits fields slots) (expected : String) (default : ρ) :
    Decodes (Tree.record expected fields default) (RecordOf slots default) := by
  intro t ht record
  cases t with
  | object members ending =>
    obtain ⟨rfl, hfault⟩ := fault?_object_iff.mp ht
    rw [Tree.record, putMembers_eq_ok_iff, hfits.taken_iff_describes hfault]
    constructor
    · exact fun h => .object h.1
    · rintro ⟨h⟩
      exact ⟨h, fun _ hmem => absurd hmem List.not_mem_nil⟩
  | array items ending =>
    obtain ⟨rfl, hfault⟩ := fault?_array_iff.mp ht
    have hmembers : ∀ member ∈ (slots.map (some ·.key)).zip items, member.2.fault? = none :=
      fun member hmem => hfault _ (List.of_mem_zip hmem).2
    have hkeys : fields.map (some ·.key) = slots.map (some ·.key) := by
      simpa only [List.map_map, Function.comp_def] using congrArg (List.map some) hfits.map_key
    rw [Tree.record, hfits.putItems_eq_ok_iff List.suffix_rfl, hkeys,
      hfits.taken_iff_describes hmembers, hfits.keeps.length_eq]
    constructor
    · rintro ⟨hlength, h⟩
      exact .array hlength h
    · rintro (_ | ⟨hlength, h⟩)
      exact ⟨hlength, h⟩
  | null | bool | number | string | broken =>
    exact ⟨fun h => absurd h (mismatch_ne_ok _ _ _), nofun⟩

end Slots

def known (keys : List String) (members : List (Option String × Tree)) :
    List (Option String × Tree) :=
  members.filter fun member => member.1.all (· ∈ keys)

section Known

variable {ρ : Type} {fields : List (Field ρ)} {members : List (Option String × Tree)}

end Known

end Tree

end Highlighting
