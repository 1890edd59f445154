import Highlighting.Json.Tree
import Highlighting.Text.Quoted

/-!
Decoding JSON trees into strings, flags, names out of a list, and records. The tree is walked from
left to right, and the first thing that is wrong is the error.
-/

namespace Highlighting

inductive DecodeError where
  | invalidType (found expected : String)
  | unknownVariant (name : String) (known : List String)
  | duplicateField (name : String)
  | faulty (f : Fault)
  deriving DecidableEq, Repr

namespace DecodeError

def message : DecodeError → String
  | invalidType found expected => "invalid type: " ++ found ++ ", expected " ++ expected
  | unknownVariant name known =>
    "unknown variant `" ++ name ++ "`, expected one of " ++
      ", ".intercalate (known.map fun k => "`" ++ k ++ "`")
  | duplicateField name => "duplicate field `" ++ name ++ "`"
  | faulty .malformed => "malformed JSON"
  | faulty .truncated => "unexpected end of JSON"

end DecodeError

namespace Tree

def describe : Tree → Except DecodeError String
  | null => .ok "null"
  | bool b => .ok ("boolean `" ++ toString b ++ "`")
  | number n =>
    match n.describe? with
    | some s => .ok s
    | none => .error (.faulty .malformed)
  | string (some s) => .ok ("string " ++ quote s)
  | string none => .error (.faulty .malformed)
  | array _ _ => .ok "sequence"
  | object _ _ => .ok "map"
  | broken _ b => .error (.faulty b.needed)

def mismatch {α : Type} (expected : String) (t : Tree) : Except DecodeError α := do
  .error (.invalidType (← t.describe) expected)

def asString : Tree → Except DecodeError String
  | string (some s) => .ok s
  | t => t.mismatch "a string"

def asBool : Tree → Except DecodeError Bool
  | bool b => .ok b
  | t => t.mismatch "a boolean"

def asUnit : Tree → Except DecodeError Unit
  | null => .ok ()
  | t => t.mismatch "unit"

def option {α : Type} (decode : Tree → Except DecodeError α) :
    Tree → Except DecodeError (Option α)
  | null => .ok none
  | broken .null b => .error (.faulty b.needed)
  | t => (decode t).map some

/-- Something that one of the known names stands for: a string, or an object that has it for its
only key and null for a value. -/
def variant {α : Type} (known : List String) (ofName? : String → Option α) :
    Tree → Except DecodeError α
  | string (some s) => named s
  | string none => .error (.faulty .malformed)
  | object ((key, value) :: members) ending => do
    match key with
    | none => .error (.faulty .malformed)
    | some key =>
      let a ← named key
      value.asUnit
      match members, ending with
      | [], .closed => return a
      | [], .broken b => .error (.faulty b.needed)
      | _, _ => .error (.faulty .malformed)
  | object [] (.broken b) => .error (.faulty b.needed)
  | broken .string b => .error (.faulty b.needed)
  | broken .nothing b => .error (.faulty b.needed)
  | _ => .error (.faulty .malformed)
where
  named (name : String) : Except DecodeError α :=
    match ofName? name with
    | some a => .ok a
    | none => .error (.unknownVariant name known)

structure Field (ρ : Type) where
  key : String
  put : Tree → ρ → Except DecodeError ρ

def putMembers {ρ : Type} (fields : List (Field ρ)) (seen : List String) (record : ρ) :
    List (Option String × Tree) → Ending → Except DecodeError ρ
  | [], .closed => .ok record
  | [], .broken b => .error (.faulty b.needed)
  | [], .trailing b => .error (.faulty b.needed)
  | (none, _) :: _, _ => .error (.faulty .malformed)
  | (some key, value) :: members, ending =>
    match fields.find? (·.key == key) with
    | some field =>
      if key ∈ seen then .error (.duplicateField key)
      else do putMembers fields (key :: seen) (← field.put value record) members ending
    | none =>
      match value.fault? with
      | some f => .error (.faulty f)
      | none => putMembers fields seen record members ending

def putItems {ρ : Type} (record : ρ) :
    List (Field ρ) → List Tree → Ending → Except DecodeError ρ
  | field :: fields, item :: items, ending => do
    putItems (← field.put item record) fields items ending
  | [], _ :: _, _ => .error (.faulty .malformed)
  | _, [], .closed => .ok record
  | _, [], .broken b => .error (.faulty b.needed)
  | _ :: _, [], .trailing b => .error (.faulty b.needed)
  | [], [], .trailing _ => .error (.faulty .malformed)

def record {ρ : Type} (expected : String) (fields : List (Field ρ)) (default : ρ) :
    Tree → Except DecodeError ρ
  | object members ending => putMembers fields [] default members ending
  | array items ending => putItems default fields items ending
  | t => t.mismatch expected

def decode {α : Type} (decoder : Tree → Except DecodeError α) (text : String) :
    Except DecodeError α := do
  let (tree, rest) := ofText text.toList
  let a ← decoder tree
  if (trim rest).isEmpty then return a else .error (.faulty .malformed)

end Tree

end Highlighting
