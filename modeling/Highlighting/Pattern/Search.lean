import Highlighting.Pattern.Regex

/-!
Matching, as in an automaton that tries its preferred way first and is in each of its states but
once at a place of the text. `Regex.ends` lists where an expression can stop, the preferred place
first and none twice. Where no round of a repetition is empty, the stops of its rounds are all that
counts. Where one can be, so does what was tried within the rounds, and the expression is walked
through.
-/

namespace Highlighting

/-- Places in a text, the latest found first and none twice. Their offsets are at least `low` and
below `high`. -/
structure Found (text : List Char) where
  places : List (Cursor text)
  low : Nat
  high : Nat
  bounds : ∀ c ∈ places, low ≤ c.offset ∧ c.offset < high

namespace Found

variable {text : List Char}

def empty : Found text :=
  ⟨[], 0, 0, by simp⟩

def contains (found : Found text) (c : Cursor text) : Bool :=
  found.low ≤ c.offset && c.offset < found.high && found.places.contains c

theorem contains_iff {found : Found text} {c : Cursor text} :
    found.contains c = true ↔ c ∈ found.places := by
  constructor
  · intro h
    simp only [contains, Bool.and_eq_true, List.contains_iff_mem] at h
    exact h.2
  · intro h
    have := found.bounds c h
    simp [contains, this, h]

def add (found : Found text) (c : Cursor text) : Found text :=
  if found.contains c then found
  else
    ⟨c :: found.places, if found.places.isEmpty then c.offset else min found.low c.offset,
      max found.high (c.offset + 1), by
        intro d hd
        rcases List.mem_cons.1 hd with rfl | hd
        · constructor
          · split <;> omega
          · omega
        · have := found.bounds d hd
          constructor
          · rw [if_neg (by cases h : found.places <;> simp_all)]
            omega
          · omega⟩

theorem contains_empty (c : Cursor text) : (empty : Found text).contains c = false := by
  simp [contains, empty]

theorem places_add {found : Found text} {c : Cursor text} (h : found.contains c = false) :
    (found.add c).places = c :: found.places := by
  simp [add, h]

def toList (found : Found text) : List (Cursor text) :=
  found.places.reverse

end Found

def Cursor.distinct {text : List Char} (places : List (Cursor text)) : List (Cursor text) :=
  match places with
  | [] => []
  | [c] => [c]
  | _ => (places.foldl Found.add .empty).toList

/-- What a walk has come upon: the choices it has met, each with the place in the text, and the
stops, the latest first. A choice is known by the turns that lead to it within the expression. -/
structure Trail (text : List Char) where
  met : List (List Bool × Cursor text)
  stops : List (Cursor text)

namespace Trail

variable {text : List Char}

def start : Trail text :=
  ⟨[], []⟩

def stop (c : Cursor text) (trail : Trail text) : Trail text :=
  if c ∈ trail.stops then trail else { trail with stops := c :: trail.stops }

/-- Goes both ways, `further` first if `greedy`. A choice that was met at this place before has been
made there. -/
def fork (choice : List Bool) (c : Cursor text) (greedy : Bool)
    (further past : Trail text → Trail text) (trail : Trail text) : Trail text :=
  if (choice, c) ∈ trail.met then trail
  else
    let trail := { trail with met := (choice, c) :: trail.met }
    if greedy then past (further trail) else further (past trail)

/-- Rounds one after the other. There are no more of them within one another than places in the
text, for at a place where the choice was met before there is no further round: that bounds
`fuel`. -/
def rounds (choice : List Bool) (greedy : Bool)
    (round : (Cursor text → Trail text → Trail text) → Cursor text → Trail text → Trail text)
    (next : Cursor text → Trail text → Trail text) : Nat → Cursor text → Trail text → Trail text
  | 0, _ => id
  | fuel + 1, c =>
    fork choice c greedy (round (rounds choice greedy round next fuel) c) (next c)

end Trail

namespace Regex

open Trail

variable {text : List Char}

/-- Adds what repeating `step` reaches from `c`. Every round has to get further, and a place that
was found before is not entered again. -/
def explore (greedy : Bool) (step : Cursor text → List (Cursor text)) (found : Found text)
    (c : Cursor text) : Found text :=
  if found.contains c then found
  else
    let further (found : Found text) : Found text :=
      (step c).foldl
        (fun found d => if _h : c.offset < d.offset then explore greedy step found d else found)
        found
    if greedy then (further found).add c else further (found.add c)
termination_by text.length - c.offset
decreasing_by
  have := d.offset_le
  omega

/-- Goes through an expression at `choice` from the place `c`, and on by `next` wherever it comes
out. -/
def walk : Regex → List Bool → (Cursor text → Trail text → Trail text) →
    Cursor text → Trail text → Trail text
  | empty, _, next, c => next c
  | set s, _, next, c =>
    match c.next? with
    | some (x, d) => if s.contains x then next d else id
    | none => id
  | assert a, _, next, c => if a.holds c then next c else id
  | cat r s, choice, next, c => r.walk (true :: choice) (s.walk (false :: choice) next) c
  | alt r s, choice, next, c =>
    fork choice c true (r.walk (true :: choice) next c) (s.walk (false :: choice) next c)
  | opt greedy r, choice, next, c => fork choice c greedy (r.walk (true :: choice) next c) (next c)
  | star greedy r, choice, next, c =>
    let further := rounds choice greedy (r.walk (true :: choice)) next (text.length + 1)
    -- Where a round can be empty, whether to begin is a choice apart from whether to go on.
    if r.nullable then fork (false :: choice) c greedy (r.walk (true :: choice) further c) (next c)
    else further c
  | plus greedy r, choice, next, c =>
    r.walk (true :: choice)
      (rounds choice greedy (r.walk (true :: choice)) next (text.length + 1)) c

def walkedEnds (r : Regex) (c : Cursor text) : List (Cursor text) :=
  (r.walk [] stop c .start).stops.reverse

/-- The places where a match from `c` can end, in order of preference. -/
def ends : Regex → Cursor text → List (Cursor text)
  | empty, c => [c]
  | set s, c =>
    match c.next? with
    | some (x, d) => if s.contains x then [d] else []
    | none => []
  | assert a, c => if a.holds c then [c] else []
  | cat r s, c => Cursor.distinct ((ends r c).flatMap (ends s))
  | alt r s, c => Cursor.distinct (ends r c ++ ends s c)
  | opt true r, c =>
    let further := ends r c
    if c ∈ further then further else further ++ [c]
  | opt false r, c => c :: (ends r c).filter (· ≠ c)
  | star greedy r, c =>
    if r.nullable then (star greedy r).walkedEnds c
    else (explore greedy (ends r) .empty c).toList
  | plus greedy r, c =>
    if r.nullable then (plus greedy r).walkedEnds c
    else ((ends r c).foldl (explore greedy (ends r)) .empty).toList

def findFrom (r : Regex) (c : Cursor text) : Option (Cursor text × Cursor text) :=
  match (r.ends c).head? with
  | some d => some (c, d)
  | none =>
    match _h : c.next? with
    | some (_, d) => findFrom r d
    | none => none
termination_by text.length - c.offset
decreasing_by
  have := Cursor.offset_of_next? _h
  have := d.offset_le
  omega

/-- The leftmost match, as its two places. Only the start is tried when no other place can do. -/
def find? (r : Regex) (text : List Char) : Option (Cursor text × Cursor text) :=
  if r.anchored then (r.ends (Cursor.start text)).head?.map (Cursor.start text, ·)
  else r.findFrom (Cursor.start text)

end Regex

end Highlighting
