import Highlighting.Json.Tree
import Highlighting.Json.Value
import Mathlib.Tactic.Lemma

namespace Highlighting.Json

def Blanks (text : List Char) : Prop :=
  ∀ c ∈ text, Tree.isBlank c = true

lemma Blanks.nil : Blanks [] :=
  fun _ h => absurd h List.not_mem_nil

lemma Blanks.space : Blanks [' '] := by
  intro c hc
  rw [List.mem_singleton.mp hc]
  rfl

lemma Blanks.newLine (level : Nat) : Blanks (newLine level) := by
  intro c hc
  rcases List.mem_cons.mp hc with rfl | hc
  · rfl
  · rw [(List.mem_replicate.mp hc).2]
    rfl

/-- What the text of a value is made of: values, and the items or members behind an opening bracket
up to the closing one. -/
inductive Piece where
  | value (j : Json)
  | items (xs : List Json)
  | members (ms : List (String × Json))

open Piece

inductive Written : Piece → List Char → Prop
  | null : Written (value .null) "null".toList
  | bool (b : Bool) : Written (value (.bool b)) (toString b).toList
  | number (n : Nat) : Written (value (.number n)) (toString n).toList
  | string (s : String) : Written (value (.string s)) (escape s)
  | noItems {blanks : List Char} (h : Blanks blanks) :
      Written (value (.array [])) ('[' :: (blanks ++ [']']))
  | array {xs : List Json} {text : List Char} (h : Written (items xs) text) :
      Written (value (.array xs)) ('[' :: text)
  | lastItem {x : Json} {before text after : List Char} (hbefore : Blanks before)
      (h : Written (value x) text) (hafter : Blanks after) :
      Written (items [x]) (before ++ (text ++ (after ++ [']'])))
  | item {x : Json} {xs : List Json} {before text after more : List Char}
      (hbefore : Blanks before) (h : Written (value x) text) (hafter : Blanks after)
      (hmore : Written (items xs) more) :
      Written (items (x :: xs)) (before ++ (text ++ (after ++ ',' :: more)))
  | noMembers {blanks : List Char} (h : Blanks blanks) :
      Written (value (.object [])) ('\x7b' :: (blanks ++ ['\x7d']))
  | object {ms : List (String × Json)} {text : List Char} (h : Written (members ms) text) :
      Written (value (.object ms)) ('\x7b' :: text)
  | lastMember {k : String} {x : Json} {before colon text after : List Char}
      (hbefore : Blanks before) (hcolon : Blanks colon) (h : Written (value x) text)
      (hafter : Blanks after) :
      Written (members [(k, x)])
        (before ++ (escape k ++ ':' :: (colon ++ (text ++ (after ++ ['\x7d'])))))
  | member {k : String} {x : Json} {ms : List (String × Json)}
      {before colon text after more : List Char} (hbefore : Blanks before)
      (hcolon : Blanks colon) (h : Written (value x) text) (hafter : Blanks after)
      (hmore : Written (members ms) more) :
      Written (members ((k, x) :: ms))
        (before ++ (escape k ++ ':' :: (colon ++ (text ++ (after ++ ',' :: more)))))

mutual

lemma written_pretty (level : Nat) : ∀ j : Json, Written (value j) (pretty level j)
  | .null => .null
  | .bool b => .bool b
  | .number n => .number n
  | .string s => .string s
  | .array [] => .noItems Blanks.nil
  | .array (x :: xs) => by
    have hitems := written_prettyItems level xs (written_pretty (level + 1) x)
    rw [pretty]
    simpa only [List.append_assoc, List.cons_append] using Written.array hitems
  | .object [] => .noMembers Blanks.nil
  | .object ((k, x) :: ms) => by
    have hmembers := written_prettyMembers level k ms (written_pretty (level + 1) x)
    have hcolon : ": ".toList = [':', ' '] := rfl
    rw [pretty, hcolon]
    simpa only [List.append_assoc, List.cons_append, List.nil_append] using Written.object hmembers

lemma written_prettyItems (level : Nat) : ∀ (xs : List Json) {x : Json} {text : List Char},
    Written (value x) text → Written (items (x :: xs))
      (newLine (level + 1) ++ (text ++ (prettyItems level xs ++ (newLine level ++ [']']))))
  | [], x, text, h => .lastItem (Blanks.newLine _) h (Blanks.newLine _)
  | y :: ys, x, text, h => by
    have hmore := written_prettyItems level ys (written_pretty (level + 1) y)
    rw [prettyItems]
    simpa only [List.append_assoc, List.cons_append, List.nil_append] using
      Written.item (Blanks.newLine (level + 1)) h Blanks.nil hmore

lemma written_prettyMembers (level : Nat) : ∀ (k : String) (ms : List (String × Json)) {x : Json}
    {text : List Char}, Written (value x) text → Written (members ((k, x) :: ms))
      (newLine (level + 1) ++ (escape k ++ ':' :: ([' '] ++ (text ++
        (prettyMembers level ms ++ (newLine level ++ ['\x7d']))))))
  | k, [], x, text, h => .lastMember (Blanks.newLine _) Blanks.space h (Blanks.newLine _)
  | k, (k', y) :: ms, x, text, h => by
    have hmore := written_prettyMembers level k' ms (written_pretty (level + 1) y)
    have hcolon : ": ".toList = [':', ' '] := rfl
    rw [prettyMembers, hcolon]
    simpa only [List.append_assoc, List.cons_append, List.nil_append] using
      Written.member (Blanks.newLine (level + 1)) Blanks.space h Blanks.nil hmore

end

mutual

lemma written_compact : ∀ j : Json, Written (value j) (compact j)
  | .null => .null
  | .bool b => .bool b
  | .number n => .number n
  | .string s => .string s
  | .array [] => .noItems Blanks.nil
  | .array (x :: xs) => by
    have hitems := written_compactItems xs (written_compact x)
    rw [compact]
    simpa only [List.append_assoc, List.cons_append] using Written.array hitems
  | .object [] => .noMembers Blanks.nil
  | .object ((k, x) :: ms) => by
    have hmembers := written_compactMembers k ms (written_compact x)
    rw [compact]
    simpa only [List.append_assoc, List.cons_append] using Written.object hmembers

lemma written_compactItems : ∀ (xs : List Json) {x : Json} {text : List Char},
    Written (value x) text → Written (items (x :: xs)) (text ++ (compactItems xs ++ [']']))
  | [], x, text, h => .lastItem Blanks.nil h Blanks.nil
  | y :: ys, x, text, h => by
    have hmore := written_compactItems ys (written_compact y)
    rw [compactItems]
    simpa only [List.append_assoc, List.cons_append, List.nil_append] using
      Written.item Blanks.nil h Blanks.nil hmore

lemma written_compactMembers : ∀ (k : String) (ms : List (String × Json)) {x : Json}
    {text : List Char}, Written (value x) text → Written (members ((k, x) :: ms))
      (escape k ++ ':' :: (text ++ (compactMembers ms ++ ['\x7d'])))
  | k, [], x, text, h => .lastMember Blanks.nil Blanks.nil h Blanks.nil
  | k, (k', y) :: ms, x, text, h => by
    have hmore := written_compactMembers k' ms (written_compact y)
    rw [compactMembers]
    simpa only [List.append_assoc, List.cons_append, List.nil_append] using
      Written.member Blanks.nil Blanks.nil h Blanks.nil hmore

end

end Highlighting.Json
