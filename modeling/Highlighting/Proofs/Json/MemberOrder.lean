import Highlighting.Proofs.Json.Records
import Mathlib.Logic.Relation

namespace Highlighting

namespace Tree

inductive Swap : Tree → Tree → Prop
  | here {members members' : List (Option String × Tree)} {ending : Ending}
      (h : members.Perm members') : Swap (object members ending) (object members' ending)
  | item {before after : List Tree} {t t' : Tree} {ending : Ending} (h : Swap t t') :
      Swap (array (before ++ t :: after) ending) (array (before ++ t' :: after) ending)
  | value {before after : List (Option String × Tree)} {key : Option String} {t t' : Tree}
      {ending : Ending} (h : Swap t t') :
      Swap (object (before ++ (key, t) :: after) ending)
        (object (before ++ (key, t') :: after) ending)

def Reordered : Tree → Tree → Prop :=
  Relation.ReflTransGen Swap

section Steps

variable {t t' : Tree}

lemma Swap.symm (h : Swap t t') : Swap t' t := by
  induction h with
  | here h => exact .here h.symm
  | item _ ih => exact .item ih
  | value _ ih => exact .value ih

lemma Reordered.symm (h : Reordered t t') : Reordered t' t := by
  induction h with
  | refl => exact .refl
  | tail _ h ih => exact .head h.symm ih

end Steps

section Values

variable {α : Type} {stands : Tree → α → Prop}

end Values

section Members

variable {α ρ : Type} {stands : Tree → α → Prop} {default a : α} {key : String} {t t' : Tree}
  {keys : List String} {members members' : List (Option String × Tree)}

variable {slots : List (Slot ρ)} {start record : ρ}

end Members

end Tree

end Highlighting
