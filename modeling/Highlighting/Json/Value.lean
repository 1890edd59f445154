namespace Highlighting

inductive Json where
  | null
  | bool (b : Bool)
  | number (n : Nat)
  | string (s : String)
  | array (items : List Json)
  | object (members : List (String × Json))
  deriving Repr

namespace Json

def hexPair (n : Nat) : List Char :=
  [Nat.digitChar (n / 16), Nat.digitChar (n % 16)]

def escapeChar (c : Char) : List Char :=
  if c = '"' then ['\\', '"']
  else if c = '\\' then ['\\', '\\']
  else if c = '\x08' then ['\\', 'b']
  else if c = '\t' then ['\\', 't']
  else if c = '\n' then ['\\', 'n']
  else if c = '\x0c' then ['\\', 'f']
  else if c = '\r' then ['\\', 'r']
  else if c.toNat < 0x20 then ['\\', 'u', '0', '0'] ++ hexPair c.toNat
  else [c]

def escape (s : String) : List Char :=
  '"' :: s.toList.flatMap escapeChar ++ ['"']

def newLine (level : Nat) : List Char :=
  '\n' :: List.replicate (2 * level) ' '

mutual

def pretty (level : Nat) : Json → List Char
  | null => "null".toList
  | bool b => (toString b).toList
  | number n => (toString n).toList
  | string s => escape s
  | array [] => "[]".toList
  | array (x :: xs) =>
    '[' :: newLine (level + 1) ++ pretty (level + 1) x ++ prettyItems level xs ++
      newLine level ++ [']']
  | object [] => ['\x7b', '\x7d']
  | object ((k, x) :: ms) =>
    '\x7b' :: newLine (level + 1) ++ escape k ++ ": ".toList ++ pretty (level + 1) x ++
      prettyMembers level ms ++ newLine level ++ ['\x7d']

def prettyItems (level : Nat) : List Json → List Char
  | [] => []
  | x :: xs => ',' :: newLine (level + 1) ++ pretty (level + 1) x ++ prettyItems level xs

def prettyMembers (level : Nat) : List (String × Json) → List Char
  | [] => []
  | (k, x) :: ms =>
    ',' :: newLine (level + 1) ++ escape k ++ ": ".toList ++ pretty (level + 1) x ++
      prettyMembers level ms

end

mutual

def compact : Json → List Char
  | null => "null".toList
  | bool b => (toString b).toList
  | number n => (toString n).toList
  | string s => escape s
  | array [] => "[]".toList
  | array (x :: xs) => '[' :: compact x ++ compactItems xs ++ [']']
  | object [] => ['\x7b', '\x7d']
  | object ((k, x) :: ms) =>
    '\x7b' :: escape k ++ ':' :: compact x ++ compactMembers ms ++ ['\x7d']

def compactItems : List Json → List Char
  | [] => []
  | x :: xs => ',' :: compact x ++ compactItems xs

def compactMembers : List (String × Json) → List Char
  | [] => []
  | (k, x) :: ms => ',' :: escape k ++ ':' :: compact x ++ compactMembers ms

end

def ofOption (s : Option String) : Json :=
  match s with
  | some s => string s
  | none => null

end Json

end Highlighting
