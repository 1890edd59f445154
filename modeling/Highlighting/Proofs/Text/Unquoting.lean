import Highlighting.Proofs.Number.Digits
import Highlighting.Text.Quoted
import Mathlib.Tactic.SplitIfs

namespace Highlighting.Quoted

def escaped? : Char → Option Char
  | '"' => some '"'
  | '\\' => some '\\'
  | 'n' => some '\n'
  | 'r' => some '\r'
  | 't' => some '\t'
  | '0' => some '\x00'
  | _ => none

mutual

def inside? : List Char → Option (List Char × List Char)
  | [] => none
  | '"' :: rest => some ([], rest)
  | '\\' :: 'u' :: '\x7b' :: rest => code? 0 rest
  | '\\' :: c :: rest =>
    match escaped? c with
    | some c => (inside? rest).map fun found => (c :: found.1, found.2)
    | none => none
  | c :: rest => (inside? rest).map fun found => (c :: found.1, found.2)

def code? (n : Nat) : List Char → Option (List Char × List Char)
  | [] => none
  | '\x7d' :: rest => (inside? rest).map fun found => (Char.ofNat n :: found.1, found.2)
  | c :: rest =>
    match hexDigit? c with
    | some d => code? (16 * n + d) rest
    | none => none

end

def decode? : List Char → Option (List Char)
  | '"' :: quoted =>
    match inside? quoted with
    | some (text, []) => some text
    | _ => none
  | _ => none

lemma code?_digitChar {d : Nat} (hd : d < 16) (n : Nat) (rest : List Char) :
    code? n (Nat.digitChar d :: rest) = code? (16 * n + d) rest := by
  have hbrace : Nat.digitChar d ≠ '\x7d' := Nat.digitChar_ne _ (by decide)
  rw [code?, hexDigit?_digitChar hd]
  exact hbrace

lemma code?_hexDigits (n : Nat) (rest : List Char) :
    code? 0 (hexDigits n ++ rest) = code? n rest := by
  unfold hexDigits
  induction n using Nat.base_induction 16 (by decide) generalizing rest with
  | single d hd => rw [Nat.toDigits_of_lt_base hd, List.singleton_append, code?_digitChar hd,
      Nat.mul_zero, Nat.zero_add]
  | digit m d hd hm ih =>
    rw [← Nat.toDigits_append_toDigits (by decide) hm hd, Nat.toDigits_of_lt_base hd,
      List.append_assoc, ih, List.singleton_append, code?_digitChar hd]

lemma inside?_cons {c : Char} (hquote : c ≠ '"') (hbackslash : c ≠ '\\') (rest : List Char) :
    inside? (c :: rest) = (inside? rest).map fun found => (c :: found.1, found.2) := by
  rw [inside?]
  · exact hquote
  · exact fun _ hc _ => hbackslash hc
  · exact fun _ _ hc _ => hbackslash hc

lemma inside?_encodeChar (c : Char) (rest : List Char) :
    inside? (encodeChar c ++ rest) = (inside? rest).map fun found => (c :: found.1, found.2) := by
  unfold encodeChar
  split_ifs with hquote hbackslash hfeed hreturn htab hnull hvisible
  · subst hquote
    rfl
  · subst hbackslash
    rfl
  · subst hfeed
    rfl
  · subst hreturn
    rfl
  · subst htab
    rfl
  · subst hnull
    rfl
  · exact inside?_cons hquote hbackslash rest
  · rw [List.append_assoc, List.append_assoc, List.cons_append, List.cons_append,
      List.singleton_append, inside?, code?_hexDigits, List.singleton_append, code?,
      Char.ofNat_toNat]

lemma inside?_flatMap (s rest : List Char) :
    inside? (s.flatMap encodeChar ++ '"' :: rest) = some (s, rest) := by
  induction s with
  | nil => rfl
  | cons c s ih =>
    rw [List.flatMap_cons, List.append_assoc, inside?_encodeChar, ih]
    rfl

lemma decode?_encode (s : List Char) : decode? (encode s) = some s := by
  simp only [encode, List.cons_append, decode?, inside?_flatMap]

lemma not_mem_hexDigits {x : Char} (hx : x ∈ ['\t', '\n']) (n : Nat) : x ∉ hexDigits n := by
  intro hmem
  obtain ⟨d, hd, rfl⟩ := exists_of_mem_toDigits hmem
  have hdigits : ∀ d < 16, Nat.digitChar d ∉ ['\t', '\n'] := by decide
  exact hdigits d hd hx

lemma not_mem_encodeChar {x : Char} (hx : x ∈ ['\t', '\n']) (c : Char) : x ∉ encodeChar c := by
  have hplain : ∀ cs : List Char, cs.all (· ∉ ['\t', '\n']) = true → x ∉ cs :=
    fun cs hcs hmem => of_decide_eq_true (List.all_eq_true.mp hcs x hmem) hx
  unfold encodeChar
  split_ifs with hquote hbackslash hfeed hreturn htab hnull hvisible
  · exact hplain _ rfl
  · exact hplain _ rfl
  · exact hplain _ rfl
  · exact hplain _ rfl
  · exact hplain _ rfl
  · exact hplain _ rfl
  · apply hplain
    simp [hfeed, htab]
  · rw [List.mem_append, List.mem_append, not_or, not_or]
    exact ⟨⟨hplain _ rfl, not_mem_hexDigits hx c.toNat⟩, hplain _ rfl⟩

lemma not_mem_encode {x : Char} (hx : x ∈ ['\t', '\n']) (s : List Char) : x ∉ encode s := by
  have hmark : x ≠ '"' := by
    rintro rfl
    exact absurd hx (by decide)
  rw [encode, List.cons_append, List.mem_cons, List.mem_append, List.mem_flatMap,
    List.mem_singleton]
  rintro (hopening | ⟨c, -, hmem⟩ | hclosing)
  · exact hmark hopening
  · exact not_mem_encodeChar hx c hmem
  · exact hmark hclosing

end Highlighting.Quoted
