namespace Highlighting

/-- A place in `text`: `offset` characters stand before it and `rest` stands after it. -/
structure Cursor (text : List Char) where
  offset : Nat
  rest : List Char
  rest_eq : text.drop offset = rest
  offset_le : offset ≤ text.length

namespace Cursor

variable {text : List Char}

theorem ext_offset {c d : Cursor text} (h : c.offset = d.offset) : c = d := by
  obtain ⟨_, rest, hrest, _⟩ := c
  obtain ⟨_, rest', hrest', _⟩ := d
  cases h
  cases hrest
  cases hrest'
  rfl

instance : DecidableEq (Cursor text) := fun c d =>
  if h : c.offset = d.offset then isTrue (ext_offset h)
  else isFalse fun e => h (e ▸ rfl)

def start (text : List Char) : Cursor text :=
  ⟨0, text, rfl, Nat.zero_le _⟩

def next? (c : Cursor text) : Option (Char × Cursor text) :=
  match h : c.rest with
  | [] => none
  | x :: rest =>
    some (x, ⟨c.offset + 1, rest,
      by rw [← List.drop_drop, c.rest_eq, h]; rfl,
      by
        have hl := congrArg List.length (c.rest_eq.trans h)
        simp only [List.length_drop, List.length_cons] at hl
        omega⟩)

def before? (c : Cursor text) : Option Char :=
  if c.offset = 0 then none else text[c.offset - 1]?

def after? (c : Cursor text) : Option Char :=
  c.rest.head?

theorem offset_of_next? {c d : Cursor text} {x : Char} (h : c.next? = some (x, d)) :
    d.offset = c.offset + 1 := by
  unfold next? at h
  split at h
  · simp at h
  · simp only [Option.some.injEq, Prod.mk.injEq] at h
    rw [← h.2]

end Cursor

end Highlighting
