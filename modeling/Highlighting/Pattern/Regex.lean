import Highlighting.Pattern.Assertion

/-!
Regular expressions with preferences: alternatives stand in the order in which they are tried, and
a repetition goes on for as long, or for as short, as it can.
-/

namespace Highlighting

inductive Regex where
  | empty
  | set (s : CharSet)
  | assert (a : Assertion)
  | cat (r s : Regex)
  | alt (r s : Regex)
  | opt (greedy : Bool) (r : Regex)
  | star (greedy : Bool) (r : Regex)
  | plus (greedy : Bool) (r : Regex)
  deriving DecidableEq, Repr

namespace Regex

/-- Whether there is a way through that takes no character, assertions permitting. -/
def nullable : Regex → Bool
  | empty => true
  | set _ => false
  | assert _ => true
  | cat r s => r.nullable && s.nullable
  | alt r s => r.nullable || s.nullable
  | opt _ _ => true
  | star _ _ => true
  | plus _ r => r.nullable

def anchored : Regex → Bool
  | assert .textStart => true
  | cat r s => r.anchored || s.anchored
  | alt r s => r.anchored && s.anchored
  | plus _ r => r.anchored
  | _ => false

def copies (r : Regex) : Nat → Regex
  | 0 => empty
  | 1 => r
  | n + 1 => cat (copies r n) r

def atMost (greedy : Bool) (r : Regex) : Nat → Regex
  | 0 => empty
  | 1 => opt greedy r
  | n + 1 => opt greedy (cat r (atMost greedy r n))

def atLeast (greedy : Bool) (r : Regex) : Nat → Regex
  | 0 => star greedy r
  | 1 => plus greedy r
  | n + 1 => cat (copies r n) (plus greedy r)

def between (greedy : Bool) (r : Regex) (least most : Nat) : Regex :=
  if least = most then copies r least
  else if least = 0 then atMost greedy r most
  else cat (copies r least) (atMost greedy r (most - least))

end Regex

end Highlighting
