import Highlighting.Proofs.Json.Grammar
import Highlighting.Proofs.Number.Digits
import Mathlib.Tactic.SplitIfs

namespace Highlighting

namespace Tree

open Json (Blanks)

inductive StringText : List StringPart → List Char → Prop
  | nil : StringText [] []
  | char {c : Char} {parts : List StringPart} {text : List Char} (hquote : c ≠ '"')
      (hbackslash : c ≠ '\\') (hcontrol : ¬c.toNat < 0x20) (h : StringText parts text) :
      StringText (.char c :: parts) (c :: text)
  | escape {e c : Char} {parts : List StringPart} {text : List Char} (he : escaped? e = some c)
      (h : StringText parts text) : StringText (.char c :: parts) ('\\' :: e :: text)
  | unit {a b c d : Char} {n : Nat} {parts : List StringPart} {text : List Char}
      (hn : hexUnit? a b c d = some n) (h : StringText parts text) :
      StringText (.unit n :: parts) ('\\' :: 'u' :: a :: b :: c :: d :: text)

inductive Quoted : Option String → List Char → Prop
  | mk {parts : List StringPart} {text : List Char} (h : StringText parts text) :
      Quoted ((StringPart.chars? parts).map String.ofList) ('"' :: (text ++ ['"']))

def Digits (ds : List Char) : Prop :=
  ds ≠ [] ∧ ∀ c ∈ ds, c.isDigit = true

inductive FractionText : List Char → List Char → Prop
  | none : FractionText [] []
  | some {ds : List Char} (h : Digits ds) : FractionText ds ('.' :: ds)

inductive SignText : Bool → List Char → Prop
  | none : SignText false []
  | plus : SignText false ['+']
  | minus : SignText true ['-']

inductive ExponentText : Option (Bool × List Char) → List Char → Prop
  | none : ExponentText none []
  | some {e : Char} {down : Bool} {sign ds : List Char} (he : e = 'e' ∨ e = 'E')
      (hsign : SignText down sign) (h : Digits ds) :
      ExponentText (some (down, ds)) (e :: (sign ++ ds))

inductive NumeralText : Numeral → List Char → Prop
  | mk {negative : Bool} {whole fraction fractionText exponentText : List Char}
      {exponent : Option (Bool × List Char)} (hwhole : Digits whole)
      (hzero : whole.head? = some '0' → whole = ['0'])
      (hfraction : FractionText fraction fractionText)
      (hexponent : ExponentText exponent exponentText) :
      NumeralText ⟨negative, whole, fraction, exponent⟩
        ((if negative then ['-'] else []) ++ (whole ++ (fractionText ++ exponentText)))

inductive Part where
  | value (t : Tree)
  | items (ts : List Tree)
  | members (ms : List (Option String × Tree))

open Tree.Part

inductive Spelled : Part → List Char → Prop
  | null : Spelled (value .null) "null".toList
  | bool (b : Bool) : Spelled (value (.bool b)) (toString b).toList
  | number {n : Numeral} {text : List Char} (h : NumeralText n text) :
      Spelled (value (.number n)) text
  | string {s : Option String} {text : List Char} (h : Quoted s text) :
      Spelled (value (.string s)) text
  | noItems {blanks : List Char} (h : Blanks blanks) :
      Spelled (value (.array [] .closed)) ('[' :: (blanks ++ [']']))
  | array {ts : List Tree} {text : List Char} (h : Spelled (items ts) text) :
      Spelled (value (.array ts .closed)) ('[' :: text)
  | lastItem {t : Tree} {before text after : List Char} (hbefore : Blanks before)
      (h : Spelled (value t) text) (hafter : Blanks after) :
      Spelled (items [t]) (before ++ (text ++ (after ++ [']'])))
  | item {t : Tree} {ts : List Tree} {before text after more : List Char}
      (hbefore : Blanks before) (h : Spelled (value t) text) (hafter : Blanks after)
      (hmore : Spelled (items ts) more) :
      Spelled (items (t :: ts)) (before ++ (text ++ (after ++ ',' :: more)))
  | noMembers {blanks : List Char} (h : Blanks blanks) :
      Spelled (value (.object [] .closed)) ('\x7b' :: (blanks ++ ['\x7d']))
  | object {ms : List (Option String × Tree)} {text : List Char} (h : Spelled (members ms) text) :
      Spelled (value (.object ms .closed)) ('\x7b' :: text)
  | lastMember {k : Option String} {t : Tree} {before key colon blanks text after : List Char}
      (hbefore : Blanks before) (hkey : Quoted k key) (hcolon : Blanks colon)
      (hblanks : Blanks blanks) (h : Spelled (value t) text) (hafter : Blanks after) :
      Spelled (members [(k, t)])
        (before ++ (key ++ (colon ++ ':' :: (blanks ++ (text ++ (after ++ ['\x7d']))))))
  | member {k : Option String} {t : Tree} {ms : List (Option String × Tree)}
      {before key colon blanks text after more : List Char} (hbefore : Blanks before)
      (hkey : Quoted k key) (hcolon : Blanks colon) (hblanks : Blanks blanks)
      (h : Spelled (value t) text) (hafter : Blanks after) (hmore : Spelled (members ms) more) :
      Spelled (members ((k, t) :: ms))
        (before ++ (key ++ (colon ++ ':' :: (blanks ++ (text ++ (after ++ ',' :: more))))))

inductive Document : Tree → String → Prop
  | mk {t : Tree} {before text after : List Char} (hbefore : Blanks before)
      (h : Spelled (value t) text) (hafter : Blanks after) :
      Document t (String.ofList (before ++ (text ++ after)))

section Strings

open StringPart

def partOf (c : Char) : StringPart :=
  if c.toNat < 0x20 ∧ c ∉ ['\x08', '\t', '\n', '\x0c', '\r'] then .unit c.toNat else .char c

lemma chars?_unit {n : Nat} (hn : n < 0x20) (parts : List StringPart) :
    chars? (.unit n :: parts) = (chars? parts).map (Char.ofNat n :: ·) := by
  have htrailing : isTrailing n = false := by
    simp [isTrailing]
    omega
  have hleading : isLeading n = false := by
    simp [isLeading]
    omega
  rw [chars?.eq_def]
  simp only [htrailing, hleading, Bool.false_eq_true, if_false]

lemma chars?_map_partOf (s : List Char) : chars? (s.map partOf) = some s := by
  induction s with
  | nil => rfl
  | cons c s ih =>
    rw [List.map_cons, partOf]
    split_ifs with hc
    · rw [chars?_unit hc.1, ih, Char.ofNat_toNat]
      rfl
    · rw [chars?, ih]
      rfl

lemma hexUnit?_hexPair {n : Nat} (hn : n < 256) :
    hexUnit? '0' '0' (Nat.digitChar (n / 16)) (Nat.digitChar (n % 16)) = some n := by
  have hzero : hexDigit? '0' = some 0 := rfl
  have hfirst := hexDigit?_digitChar (d := n / 16) (by omega)
  have hsecond := hexDigit?_digitChar (d := n % 16) (by omega)
  simp only [hexUnit?, hzero, hfirst, hsecond, Option.bind_eq_bind, Option.bind_some,
    Option.pure_def, Option.some.injEq]
  omega

lemma stringText_escapeChar (c : Char) {parts : List StringPart} {text : List Char}
    (h : StringText parts text) : StringText (partOf c :: parts) (Json.escapeChar c ++ text) := by
  unfold Json.escapeChar
  split_ifs with hquote hbackslash hbackspace htab hfeed hform hreturn hcontrol
  · subst hquote
    exact .escape rfl h
  · subst hbackslash
    exact .escape rfl h
  · subst hbackspace
    exact .escape rfl h
  · subst htab
    exact .escape rfl h
  · subst hfeed
    exact .escape rfl h
  · subst hform
    exact .escape rfl h
  · subst hreturn
    exact .escape rfl h
  · have hpart : partOf c = .unit c.toNat := if_pos ⟨hcontrol, by simp [*]⟩
    rw [hpart]
    exact .unit (hexUnit?_hexPair (n := c.toNat) (by omega)) h
  · have hpart : partOf c = .char c := if_neg fun hc => hcontrol hc.1
    rw [hpart]
    exact .char hquote hbackslash hcontrol h

lemma stringText_flatMap (s : List Char) :
    StringText (s.map partOf) (s.flatMap Json.escapeChar) := by
  induction s with
  | nil => exact .nil
  | cons c s ih =>
    rw [List.flatMap_cons, List.map_cons]
    exact stringText_escapeChar c ih

lemma quoted_escape (s : String) : Quoted (some s) (Json.escape s) := by
  have hquoted := Quoted.mk (stringText_flatMap s.toList)
  rw [chars?_map_partOf, Option.map_some, String.ofList_toList] at hquoted
  exact hquoted

end Strings

lemma numeralText_toString (n : Nat) :
    NumeralText ⟨false, (toString n).toList, [], none⟩ (toString n).toList := by
  obtain ⟨d, ds, hds, -⟩ := exists_digit_toString n
  have hdigits : Digits (toString n).toList :=
    ⟨hds ▸ List.cons_ne_nil d ds, isDigit_of_mem_toString⟩
  have hzero : (toString n).toList.head? = some '0' → (toString n).toList = ['0'] := by
    intro hhead
    rw [eq_zero_of_head?_toString hhead]
    rfl
  have h := @NumeralText.mk false _ _ _ _ _ hdigits hzero .none .none
  rwa [List.append_nil, List.append_nil] at h

end Tree

namespace Json

open Highlighting.Tree (Part Spelled)

mutual

def tree : Json → Tree
  | null => .null
  | bool b => .bool b
  | number n => .number ⟨false, (toString n).toList, [], none⟩
  | string s => .string (some s)
  | array xs => .array (treeItems xs) .closed
  | object ms => .object (treeMembers ms) .closed

def treeItems : List Json → List Tree
  | [] => []
  | x :: xs => tree x :: treeItems xs

def treeMembers : List (String × Json) → List (Option String × Tree)
  | [] => []
  | (k, x) :: ms => (some k, tree x) :: treeMembers ms

end

lemma treeMembers_eq_map (ms : List (String × Json)) :
    treeMembers ms = ms.map fun m => (some m.1, m.2.tree) := by
  induction ms with
  | nil => rfl
  | cons m ms ih => rw [treeMembers, ih, List.map_cons]

lemma mem_treeMembers {key : String} {j : Json} {ms : List (String × Json)} (h : (key, j) ∈ ms) :
    (some key, j.tree) ∈ treeMembers ms := by
  rw [treeMembers_eq_map]
  exact List.mem_map_of_mem (f := fun m : String × Json => (some m.1, m.2.tree)) h

lemma map_fst_treeMembers (ms : List (String × Json)) :
    (treeMembers ms).map Prod.fst = (ms.map Prod.fst).map some := by
  rw [treeMembers_eq_map, List.map_map, List.map_map]
  rfl

def Piece.part : Piece → Part
  | .value j => .value j.tree
  | .items xs => .items (treeItems xs)
  | .members ms => .members (treeMembers ms)

theorem spelled_of_written {p : Piece} {text : List Char} (h : Written p text) :
    Spelled p.part text := by
  induction h with
  | null => exact .null
  | bool b => exact .bool b
  | number n => exact .number (Tree.numeralText_toString n)
  | string s => exact .string (Tree.quoted_escape s)
  | noItems hblanks => exact .noItems hblanks
  | array _ ih => exact .array ih
  | lastItem hbefore _ hafter ih => exact .lastItem hbefore ih hafter
  | item hbefore _ hafter _ ih ihmore => exact .item hbefore ih hafter ihmore
  | noMembers hblanks => exact .noMembers hblanks
  | object _ ih => exact .object ih
  | @lastMember k _ _ _ _ _ hbefore hcolon _ hafter ih =>
    exact .lastMember hbefore (Tree.quoted_escape k) Blanks.nil hcolon ih hafter
  | @member k _ _ _ _ _ _ _ hbefore hcolon _ hafter _ ih ihmore =>
    exact .member hbefore (Tree.quoted_escape k) Blanks.nil hcolon ih hafter ihmore

end Json

end Highlighting
