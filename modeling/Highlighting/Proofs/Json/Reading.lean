import Highlighting.Proofs.Json.Syntax
import Mathlib.Data.List.TakeWhile

namespace Highlighting

def Numeral.natural? (n : Numeral) : Option Nat :=
  if n.negative = false ∧ n.fraction = [] ∧ n.exponent = none then Highlighting.natural? n.whole
  else none

namespace Tree

open Json (Blanks)

section Strings

lemma stringParts_cons {c : Char} (hquote : c ≠ '"') (hbackslash : c ≠ '\\')
    (hcontrol : ¬c.toNat < 0x20) (parts : List StringPart) (rest : List Char) :
    stringParts parts (c :: rest) = stringParts (.char c :: parts) rest := by
  rw [stringParts, if_neg hcontrol]
  · exact hquote
  · exact fun _ _ _ _ _ hc _ => hbackslash hc
  · exact fun _ hc _ => hbackslash hc
  · exact fun _ _ hc _ => hbackslash hc
  · exact fun hc _ => hbackslash hc

lemma stringParts_escape {e c : Char} (he : escaped? e = some c) (parts : List StringPart)
    (rest : List Char) :
    stringParts parts ('\\' :: e :: rest) = stringParts (.char c :: parts) rest := by
  have hunit : e ≠ 'u' := by
    rintro rfl
    exact nomatch he
  rw [stringParts]
  · simp only [he]
  · exact fun _ _ _ _ _ hu _ => hunit hu
  · exact fun hu => hunit hu

lemma stringParts_append {parts : List StringPart} {text : List Char} (h : StringText parts text)
    (before : List StringPart) (rest : List Char) :
    stringParts before (text ++ '"' :: rest) = .ok (before.reverse ++ parts, rest) := by
  induction h generalizing before with
  | nil =>
    rw [List.append_nil]
    rfl
  | char hquote hbackslash hcontrol _ ih =>
    rw [List.cons_append, stringParts_cons hquote hbackslash hcontrol, ih, List.reverse_cons,
      List.append_assoc, List.singleton_append]
  | escape he _ ih =>
    rw [List.cons_append, List.cons_append, stringParts_escape he, ih, List.reverse_cons,
      List.append_assoc, List.singleton_append]
  | unit hn _ ih =>
    simp only [List.cons_append, stringParts, hn, ih, List.reverse_cons, List.append_assoc,
      List.nil_append]

lemma exists_readString {s : Option String} {text : List Char} (h : Quoted s text) :
    ∃ tail, text = '"' :: tail ∧ ∀ rest, readString (tail ++ rest) = .ok (s, rest) := by
  obtain ⟨hparts⟩ := h
  refine ⟨_, rfl, fun rest => ?_⟩
  rw [List.append_assoc, List.singleton_append, readString, stringParts_append hparts]
  rfl

end Strings

section Numbers

def Stopped (rest : List Char) : Prop :=
  ∀ c, rest.head? = some c → c.isDigit = false

def Ended (rest : List Char) : Prop :=
  ∀ c, rest.head? = some c → c.isDigit = false ∧ c ∉ ['.', 'e', 'E']

variable {rest : List Char}

lemma Ended.stopped (h : Ended rest) : Stopped rest :=
  fun c hc => (h c hc).1

lemma Digits.exists_cons {ds : List Char} (h : Digits ds) :
    ∃ d tail, ds = d :: tail ∧ d.isDigit = true := by
  obtain ⟨d, tail, rfl⟩ := List.exists_cons_of_ne_nil h.1
  exact ⟨d, tail, rfl, h.2 d List.mem_cons_self⟩

lemma digits_append {ds : List Char} (h : Digits ds) (hrest : Stopped rest) :
    digits (ds ++ rest) = .ok (ds, rest) := by
  have hstop : rest.takeWhile Char.isDigit = [] ∧ rest.dropWhile Char.isDigit = rest := by
    cases rest with
    | nil => exact ⟨rfl, rfl⟩
    | cons c rest =>
      have hc : ¬c.isDigit = true := by simp [hrest c rfl]
      exact ⟨List.takeWhile_cons_of_neg hc, List.dropWhile_cons_of_neg hc⟩
  have htake : (ds ++ rest).takeWhile Char.isDigit = ds := by
    rw [List.takeWhile_append_of_pos h.2, hstop.1, List.append_nil]
  have hdrop : (ds ++ rest).dropWhile Char.isDigit = rest := by
    rw [List.dropWhile_append_of_pos h.2, hstop.2]
  obtain ⟨d, tail, rfl, hd⟩ := h.exists_cons
  rw [List.cons_append] at htake hdrop ⊢
  rw [digits, if_pos hd, htake, hdrop]

lemma wholeDigits_append {ds : List Char} (h : Digits ds) (hzero : ds.head? = some '0' → ds = ['0'])
    (hrest : Stopped rest) : wholeDigits (ds ++ rest) = .ok (ds, rest) := by
  have hplain : ¬(ds.head? = some '0' ∧ ds.length ≠ 1) := by
    rintro ⟨hhead, hlength⟩
    rw [hzero hhead] at hlength
    exact hlength rfl
  simp only [wholeDigits, digits_append h hrest, bind, Except.bind, if_neg hplain]
  rfl

lemma fractionDigits_append {ds text : List Char} (h : FractionText ds text) (hrest : Stopped rest)
    (hpoint : rest.head? ≠ some '.') : fractionDigits (text ++ rest) = .ok (ds, rest) := by
  cases h with
  | none =>
    cases rest with
    | nil => rfl
    | cons c rest =>
      have hc : c ≠ '.' := fun hc => hpoint (congrArg some hc)
      simp [fractionDigits, hc]
  | some hds => exact digits_append hds hrest

lemma exponentPart_append {exponent : Option (Bool × List Char)} {text : List Char}
    (h : ExponentText exponent text) (hrest : Ended rest) :
    exponentPart (text ++ rest) = .ok (exponent, rest) := by
  cases h with
  | none =>
    cases rest with
    | nil => rfl
    | cons c rest =>
      have hc : ¬(c = 'e' ∨ c = 'E') := by
        rintro (hc | hc) <;> exact (hrest c rfl).2 (by simp [hc])
      rw [List.nil_append, exponentPart.eq_def]
      simp only [if_neg hc]
  | some he hsign hds =>
    have hdigits := digits_append hds hrest.stopped
    rw [List.cons_append, List.append_assoc, exponentPart.eq_def]
    simp only [if_pos he]
    cases hsign with
    | plus | minus =>
      simp only [List.cons_append, List.nil_append, hdigits]
      rfl
    | none =>
      obtain ⟨d, tail, rfl, hd⟩ := hds.exists_cons
      rw [List.cons_append] at hdigits
      rw [List.nil_append, List.cons_append]
      split
      next heq =>
        cases heq
        cases hd
      next heq =>
        cases heq
        cases hd
      next =>
        simp only [hdigits]
        rfl

lemma stopped_exponent {exponent : Option (Bool × List Char)} {text : List Char}
    (h : ExponentText exponent text) (hrest : Ended rest) :
    Stopped (text ++ rest) ∧ (text ++ rest).head? ≠ some '.' := by
  cases h with
  | none => exact ⟨hrest.stopped, fun hpoint => (hrest _ hpoint).2 (by simp)⟩
  | some he =>
    rcases he with rfl | rfl
    · exact ⟨by rintro c ⟨⟩; rfl, by simp⟩
    · exact ⟨by rintro c ⟨⟩; rfl, by simp⟩

lemma stopped_fraction {ds text : List Char} (h : FractionText ds text) (hrest : Stopped rest) :
    Stopped (text ++ rest) := by
  cases h with
  | none => exact hrest
  | some => rintro c ⟨⟩; rfl

lemma readNumeral_append {n : Numeral} {text : List Char} (h : NumeralText n text)
    (hrest : Ended rest) : readNumeral (text ++ rest) = .ok (n, rest) := by
  cases h with
  | @mk negative whole _ _ _ _ hwhole hzero hfraction hexponent =>
    obtain ⟨hstopped, hpoint⟩ := stopped_exponent hexponent hrest
    have hwholeDigits := wholeDigits_append hwhole hzero (stopped_fraction hfraction hstopped)
    have hfractionDigits := fractionDigits_append hfraction hstopped hpoint
    have hexponentPart := exponentPart_append hexponent hrest
    simp only [List.append_assoc]
    cases negative with
    | true =>
      simp only [readNumeral, if_true, List.singleton_append, hwholeDigits, hfractionDigits,
        hexponentPart, bind, Except.bind]
      rfl
    | false =>
      obtain ⟨d, tail, rfl, hd⟩ := hwhole.exists_cons
      unfold readNumeral
      split
      next negative cs heq =>
        split at heq
        · next hcs =>
          cases hcs
          cases hd
        · cases heq
          simp only [Bool.false_eq_true, if_false, List.nil_append, hwholeDigits,
            hfractionDigits, hexponentPart, bind, Except.bind]
          rfl

lemma exists_cons_of_numeralText {n : Numeral} {text : List Char} (h : NumeralText n text) :
    ∃ c cs, text = c :: cs ∧ (c = '-' ∨ c.isDigit = true) := by
  cases h with
  | @mk negative whole _ _ _ _ hwhole =>
    cases negative with
    | true => exact ⟨'-', _, rfl, Or.inl rfl⟩
    | false =>
      obtain ⟨d, tail, rfl, hd⟩ := hwhole.exists_cons
      exact ⟨d, _, rfl, Or.inr hd⟩

end Numbers

section Values

open Tree.Part

variable {blanks cs rest : List Char} {fuel : Nat}

lemma trim_cons {c : Char} (h : isBlank c = false) (cs : List Char) : trim (c :: cs) = c :: cs :=
  List.dropWhile_cons_of_neg (by simp [h])

lemma trim_append (h : Blanks blanks) (cs : List Char) : trim (blanks ++ cs) = trim cs :=
  List.dropWhile_append_of_pos h

lemma eq_of_isBlank {c : Char} (h : isBlank c = true) :
    ((c = ' ' ∨ c = '\n') ∨ c = '\t') ∨ c = '\r' := by
  simpa only [isBlank, Bool.or_eq_true, beq_iff_eq] using h

lemma isBlank_of_isDigit {d : Char} (h : d.isDigit = true) : isBlank d = false := by
  rw [Bool.eq_false_iff]
  intro hblank
  obtain ((rfl | rfl) | rfl) | rfl := eq_of_isBlank hblank
  all_goals cases h

lemma read_append (h : Blanks blanks) (fuel : Nat) (cs : List Char) :
    read fuel (blanks ++ cs) = read fuel cs := by
  cases fuel with
  | zero => rfl
  | succ fuel => simp only [read, trim_append h]

lemma ended_nil : Ended [] := by
  intro c hc
  cases hc

lemma ended_cons {c : Char} (hdigit : c.isDigit = false) (hc : c ∉ ['.', 'e', 'E'])
    (rest : List Char) : Ended (c :: rest) := by
  rintro d ⟨⟩
  exact ⟨hdigit, hc⟩

lemma Ended.append (h : Ended rest) (hblanks : Blanks blanks) : Ended (blanks ++ rest) := by
  cases blanks with
  | nil => exact h
  | cons c blanks =>
    obtain ((rfl | rfl) | rfl) | rfl := eq_of_isBlank (hblanks c List.mem_cons_self)
    all_goals exact ended_cons rfl (by decide) _

lemma exists_cons_of_spelled {t : Tree} {text : List Char} (h : Spelled (value t) text) :
    ∃ c cs, text = c :: cs ∧ isBlank c = false ∧ c ≠ ']' := by
  cases h with
  | null => exact ⟨'n', _, rfl, rfl, by decide⟩
  | bool b =>
    cases b
    · exact ⟨'f', _, rfl, rfl, by decide⟩
    · exact ⟨'t', _, rfl, rfl, by decide⟩
  | number hnumeral =>
    obtain ⟨c, cs, rfl, hc⟩ := exists_cons_of_numeralText hnumeral
    refine ⟨c, cs, rfl, ?_, ?_⟩
    · rcases hc with rfl | hdigit
      · rfl
      · exact isBlank_of_isDigit hdigit
    · rintro rfl
      exact absurd hc (by decide)
  | string hquoted =>
    obtain ⟨tail, rfl, -⟩ := exists_readString hquoted
    exact ⟨'"', tail, rfl, rfl, by decide⟩
  | noItems => exact ⟨'[', _, rfl, rfl, by decide⟩
  | array => exact ⟨'[', _, rfl, rfl, by decide⟩
  | noMembers => exact ⟨'\x7b', _, rfl, rfl, by decide⟩
  | object => exact ⟨'\x7b', _, rfl, rfl, by decide⟩

lemma read_number {n : Numeral} {text : List Char} (h : NumeralText n text) (hrest : Ended rest) :
    read (fuel + 1) (text ++ rest) = (number n, rest) := by
  have hnumeral := readNumeral_append h hrest
  obtain ⟨c, cs, rfl, hc⟩ := exists_cons_of_numeralText h
  have hblank : isBlank c = false := by
    rcases hc with rfl | hdigit
    · rfl
    · exact isBlank_of_isDigit hdigit
  rw [List.cons_append] at hnumeral ⊢
  rw [read, trim_cons hblank]
  split
  case h_8 heq =>
    cases heq
    rw [if_pos hc, hnumeral]
  -- No other value starts with a digit or a sign.
  all_goals
    next heq => cases heq <;> exact absurd hc (by decide)

lemma read_string {s : Option String} {text : List Char} (h : Quoted s text) (rest : List Char) :
    read (fuel + 1) (text ++ rest) = (string s, rest) := by
  obtain ⟨tail, rfl, hread⟩ := exists_readString h
  rw [List.cons_append, read, trim_cons rfl]
  simp only [hread]

lemma read_array {c : Char} {tail : List Char} {items : List Tree} {ending : Ending}
    (htrim : trim cs = c :: tail) (hc : c ≠ ']')
    (h : readItems fuel (c :: tail) = (items, ending, rest)) :
    read (fuel + 1) ('[' :: cs) = (array items ending, rest) := by
  rw [read, trim_cons rfl]
  simp only [htrim]
  split
  next heq => exact absurd (List.cons.inj heq).1 hc
  next heq => cases heq
  next => simp only [h]

lemma read_object {tail : List Char} {members : List (Option String × Tree)} {ending : Ending}
    (htrim : trim cs = '"' :: tail) (h : readMembers fuel tail = (members, ending, rest)) :
    read (fuel + 1) ('\x7b' :: cs) = (object members ending, rest) := by
  rw [read, trim_cons rfl]
  simp only [htrim, h]

lemma readItems_last {t : Tree} {more : List Char} (h : read fuel cs = (t, more))
    (hmore : trim more = ']' :: rest) : readItems (fuel + 1) cs = ([t], .closed, rest) := by
  rw [readItems]
  simp only [h, hmore]

lemma readItems_cons {t : Tree} {ts : List Tree} {c : Char} {more next tail : List Char}
    (h : read fuel cs = (t, more)) (hmore : trim more = ',' :: next) (hnext : trim next = c :: tail)
    (hc : c ≠ ']') (hitems : readItems fuel (c :: tail) = (ts, .closed, rest)) :
    readItems (fuel + 1) cs = (t :: ts, .closed, rest) := by
  rw [readItems]
  simp only [h, hmore, hnext]
  split
  next heq => cases heq
  next heq => exact absurd (List.cons.inj heq).1 hc
  next => simp only [hitems]

lemma readMembers_last {key : Option String} {t : Tree} {colon value more : List Char}
    (hkey : readString cs = .ok (key, colon)) (hcolon : trim colon = ':' :: value)
    (h : read fuel value = (t, more)) (hmore : trim more = '\x7d' :: rest) :
    readMembers (fuel + 1) cs = ([(key, t)], .closed, rest) := by
  rw [readMembers]
  simp only [hkey, hcolon, h, hmore]

lemma readMembers_cons {key : Option String} {t : Tree} {members : List (Option String × Tree)}
    {colon value more next tail : List Char} (hkey : readString cs = .ok (key, colon))
    (hcolon : trim colon = ':' :: value) (h : read fuel value = (t, more))
    (hmore : trim more = ',' :: next) (hnext : trim next = '"' :: tail)
    (hmembers : readMembers fuel tail = (members, .closed, rest)) :
    readMembers (fuel + 1) cs = ((key, t) :: members, .closed, rest) := by
  rw [readMembers]
  simp only [hkey, hcolon, h, hmore, hnext, hmembers]

/-- What reading a part comes to, given two steps for each character of its text. -/
def Reads : Part → List Char → Prop
  | .value t, text => ∀ fuel rest, 2 * text.length < fuel → Ended rest →
      read fuel (text ++ rest) = (t, rest)
  | .items ts, text => ∀ rest, ∃ c cs, trim (text ++ rest) = c :: cs ∧ c ≠ ']' ∧
      ∀ fuel, 2 * text.length < fuel → readItems fuel (c :: cs) = (ts, .closed, rest)
  | .members ms, text => ∀ rest, ∃ cs, trim (text ++ rest) = '"' :: cs ∧
      ∀ fuel, 2 * text.length < fuel → readMembers fuel cs = (ms, .closed, rest)

lemma reads_value {t : Tree} {text : List Char} (h : ∀ fuel rest, 2 * text.length ≤ fuel →
    Ended rest → read (fuel + 1) (text ++ rest) = (t, rest)) : Reads (value t) text := by
  rintro (_ | fuel) rest hfuel hrest
  · exact absurd hfuel (Nat.not_lt_zero _)
  · exact h fuel rest (Nat.le_of_lt_succ hfuel) hrest

lemma Reads.delimited {t : Tree} {text after : List Char} (h : Reads (value t) text)
    (hafter : Blanks after) {d : Char} (hd : d ∈ [',', ']', '\x7d']) (rest : List Char) (fuel : Nat)
    (hfuel : 2 * text.length < fuel) :
    ∃ more, read fuel (text ++ (after ++ d :: rest)) = (t, more) ∧ trim more = d :: rest := by
  have hended : Ended (d :: rest) ∧ isBlank d = false := by
    simp only [List.mem_cons, List.not_mem_nil, or_false] at hd
    obtain rfl | rfl | rfl := hd
    all_goals exact ⟨ended_cons rfl (by decide) rest, rfl⟩
  refine ⟨after ++ d :: rest, h fuel _ hfuel (hended.1.append hafter), ?_⟩
  rw [trim_append hafter, trim_cons hended.2]

lemma exists_trim_eq {t : Tree} {before text : List Char} (hbefore : Blanks before)
    (h : Spelled (value t) text) (rest : List Char) :
    ∃ c cs, trim (before ++ (text ++ rest)) = c :: cs ∧ c :: cs = text ++ rest ∧ c ≠ ']' := by
  obtain ⟨c, cs, rfl, hblank, hc⟩ := exists_cons_of_spelled h
  refine ⟨c, cs ++ rest, ?_, rfl, hc⟩
  rw [trim_append hbefore, List.cons_append, trim_cons hblank]

lemma reads_noItems (h : Blanks blanks) :
    Reads (value (.array [] .closed)) ('[' :: (blanks ++ [']'])) := by
  apply reads_value
  intro fuel rest _ _
  rw [List.cons_append, List.append_assoc, read, trim_cons rfl]
  simp only [trim_append h, List.singleton_append, trim_cons (c := ']') rfl]

lemma reads_noMembers (h : Blanks blanks) :
    Reads (value (.object [] .closed)) ('\x7b' :: (blanks ++ ['\x7d'])) := by
  apply reads_value
  intro fuel rest _ _
  rw [List.cons_append, List.append_assoc, read, trim_cons rfl]
  simp only [trim_append h, List.singleton_append, trim_cons (c := '\x7d') rfl]

section Composite

variable {t : Tree} {ts : List Tree} {k : Option String} {ms : List (Option String × Tree)}
  {before key colon text after more : List Char}

lemma Reads.array (h : Reads (items ts) text) :
    Reads (value (.array ts .closed)) ('[' :: text) := by
  apply reads_value
  intro fuel rest hfuel _
  rw [List.length_cons] at hfuel
  obtain ⟨c, cs, htrim, hc, h⟩ := h rest
  exact read_array htrim hc (h fuel (by omega))

lemma Reads.object (h : Reads (members ms) text) :
    Reads (value (.object ms .closed)) ('\x7b' :: text) := by
  apply reads_value
  intro fuel rest hfuel _
  rw [List.length_cons] at hfuel
  obtain ⟨cs, htrim, h⟩ := h rest
  exact read_object htrim (h fuel (by omega))

lemma Reads.lastItem (hbefore : Blanks before) (ht : Spelled (value t) text)
    (h : Reads (value t) text) (hafter : Blanks after) :
    Reads (items [t]) (before ++ (text ++ (after ++ [']']))) := by
  intro rest
  obtain ⟨c, cs, htrim, hcs, hc⟩ := exists_trim_eq hbefore ht (after ++ ']' :: rest)
  simp only [List.append_assoc, List.singleton_append, List.length_append, List.length_singleton,
    htrim]
  refine ⟨c, cs, rfl, hc, ?_⟩
  rintro (_ | fuel) hfuel
  · exact absurd hfuel (Nat.not_lt_zero _)
  · obtain ⟨next, hnext, htrim'⟩ := h.delimited hafter (d := ']') (by decide) rest fuel (by omega)
    rw [hcs]
    exact readItems_last hnext htrim'

lemma Reads.item (hbefore : Blanks before) (ht : Spelled (value t) text)
    (h : Reads (value t) text) (hafter : Blanks after) (hmore : Reads (items ts) more) :
    Reads (items (t :: ts)) (before ++ (text ++ (after ++ ',' :: more))) := by
  intro rest
  obtain ⟨c, cs, htrim, hcs, hc⟩ := exists_trim_eq hbefore ht (after ++ ',' :: (more ++ rest))
  simp only [List.append_assoc, List.cons_append, List.length_append, List.length_cons, htrim]
  refine ⟨c, cs, rfl, hc, ?_⟩
  rintro (_ | fuel) hfuel
  · exact absurd hfuel (Nat.not_lt_zero _)
  · obtain ⟨next, hnext, htrim'⟩ := h.delimited hafter (d := ',') (by decide) (more ++ rest) fuel
      (by omega)
    obtain ⟨c', cs', htrim'', hc', hmore⟩ := hmore rest
    rw [hcs]
    exact readItems_cons hnext htrim' htrim'' hc' (hmore fuel (by omega))

variable {blanks : List Char}

lemma Reads.lastMember (hbefore : Blanks before) (hkey : Quoted k key) (hcolon : Blanks colon)
    (hblanks : Blanks blanks) (h : Reads (value t) text) (hafter : Blanks after) :
    Reads (members [(k, t)])
      (before ++ (key ++ (colon ++ ':' :: (blanks ++ (text ++ (after ++ ['\x7d'])))))) := by
  intro rest
  obtain ⟨tail, rfl, hread⟩ := exists_readString hkey
  simp only [List.append_assoc, List.cons_append, List.nil_append, List.length_append,
    List.length_cons, trim_append hbefore, trim_cons (c := '"') rfl]
  refine ⟨_, rfl, ?_⟩
  rintro (_ | fuel) hfuel
  · exact absurd hfuel (Nat.not_lt_zero _)
  · obtain ⟨next, hnext, htrim⟩ := h.delimited hafter (d := '\x7d') (by decide) rest fuel (by omega)
    rw [← read_append hblanks] at hnext
    exact readMembers_last (hread _) ((trim_append hcolon _).trans (trim_cons rfl _)) hnext htrim

lemma Reads.member (hbefore : Blanks before) (hkey : Quoted k key) (hcolon : Blanks colon)
    (hblanks : Blanks blanks) (h : Reads (value t) text) (hafter : Blanks after)
    (hmore : Reads (members ms) more) :
    Reads (members ((k, t) :: ms))
      (before ++ (key ++ (colon ++ ':' :: (blanks ++ (text ++ (after ++ ',' :: more)))))) := by
  intro rest
  obtain ⟨tail, rfl, hread⟩ := exists_readString hkey
  simp only [List.append_assoc, List.cons_append, List.length_append, List.length_cons,
    trim_append hbefore, trim_cons (c := '"') rfl]
  refine ⟨_, rfl, ?_⟩
  rintro (_ | fuel) hfuel
  · exact absurd hfuel (Nat.not_lt_zero _)
  · obtain ⟨next, hnext, htrim⟩ := h.delimited hafter (d := ',') (by decide) (more ++ rest) fuel
      (by omega)
    obtain ⟨cs, htrim', hmore⟩ := hmore rest
    rw [← read_append hblanks] at hnext
    exact readMembers_cons (hread _) ((trim_append hcolon _).trans (trim_cons rfl _)) hnext htrim
      htrim' (hmore fuel (by omega))

end Composite

theorem reads_of_spelled {p : Part} {text : List Char} (h : Spelled p text) : Reads p text := by
  induction h with
  | null => exact reads_value fun _ _ _ _ => rfl
  | bool b =>
    cases b
    · exact reads_value fun _ _ _ _ => rfl
    · exact reads_value fun _ _ _ _ => rfl
  | number h => exact reads_value fun _ _ _ hrest => read_number h hrest
  | string h => exact reads_value fun _ rest _ _ => read_string h rest
  | noItems hblanks => exact reads_noItems hblanks
  | array _ ih => exact ih.array
  | lastItem hbefore h hafter ih => exact ih.lastItem hbefore h hafter
  | item hbefore h hafter _ ih ihmore => exact ih.item hbefore h hafter ihmore
  | noMembers hblanks => exact reads_noMembers hblanks
  | object _ ih => exact ih.object
  | lastMember hbefore hkey hcolon hblanks _ hafter ih =>
    exact ih.lastMember hbefore hkey hcolon hblanks hafter
  | member hbefore hkey hcolon hblanks _ hafter _ ih ihmore =>
    exact ih.member hbefore hkey hcolon hblanks hafter ihmore

lemma ofText_of_document {t : Tree} {text : String} (h : Document t text) :
    ∃ rest, ofText text.toList = (t, rest) ∧ trim rest = [] := by
  cases h with
  | @mk before text after hbefore h hafter =>
    refine ⟨after, ?_, List.dropWhile_eq_nil_iff.mpr hafter⟩
    rw [String.toList_ofList, ofText, read_append hbefore]
    apply reads_of_spelled h
    · simp only [List.length_append]
      omega
    · exact List.append_nil after ▸ ended_nil.append hafter

end Values

section Worth

open Json (Piece)

mutual

def json? : Tree → Option Json
  | null => some .null
  | bool b => some (.bool b)
  | number n => n.natural?.map .number
  | string s => s.map .string
  | array items .closed => (jsonItems? items).map .array
  | object members .closed => (jsonMembers? members).map .object
  | _ => none

def jsonItems? : List Tree → Option (List Json)
  | [] => some []
  | t :: ts => (json? t).bind fun x => (jsonItems? ts).map (x :: ·)

def jsonMembers? : List (Option String × Tree) → Option (List (String × Json))
  | [] => some []
  | (some k, t) :: ms => (json? t).bind fun x => (jsonMembers? ms).map ((k, x) :: ·)
  | (none, _) :: _ => none

end

mutual

lemma json?_tree : ∀ j : Json, json? j.tree = some j
  | .null => rfl
  | .bool _ => rfl
  | .number n => by
    rw [Json.tree, json?]
    simp only [Numeral.natural?, natural?_toString, and_self, if_true, Option.map_some]
  | .string _ => rfl
  | .array xs => by
    rw [Json.tree, json?, jsonItems?_treeItems]
    rfl
  | .object ms => by
    rw [Json.tree, json?, jsonMembers?_treeMembers]
    rfl

lemma jsonItems?_treeItems : ∀ xs : List Json, jsonItems? (Json.treeItems xs) = some xs
  | [] => rfl
  | x :: xs => by
    rw [Json.treeItems, jsonItems?, json?_tree, jsonItems?_treeItems]
    rfl

lemma jsonMembers?_treeMembers :
    ∀ ms : List (String × Json), jsonMembers? (Json.treeMembers ms) = some ms
  | [] => rfl
  | (k, x) :: ms => by
    rw [Json.treeMembers, jsonMembers?, json?_tree, jsonMembers?_treeMembers]
    rfl

end

end Worth

end Tree

def Json.ofText? (text : String) : Option Json :=
  let (tree, rest) := Tree.ofText text.toList
  if (Tree.trim rest).isEmpty then tree.json? else none

lemma Json.document_of_written {j : Json} {text after : List Char} (h : Written (.value j) text)
    (hafter : Blanks after) : Tree.Document j.tree (String.ofList (text ++ after)) :=
  Tree.Document.mk Blanks.nil (spelled_of_written h) hafter

lemma Json.document_compact (j : Json) : Tree.Document j.tree (String.ofList j.compact) := by
  have h := document_of_written j.written_compact Blanks.nil
  rwa [List.append_nil] at h

lemma Json.document_pretty (level : Nat) (j : Json) :
    Tree.Document j.tree (String.ofList (j.pretty level)) := by
  have h := document_of_written (written_pretty level j) Blanks.nil
  rwa [List.append_nil] at h

theorem Json.ofText?_of_written {j : Json} {text after : List Char} (h : Written (.value j) text)
    (hafter : Blanks after) : ofText? (String.ofList (text ++ after)) = some j := by
  obtain ⟨rest, hrest, htrim⟩ := Tree.ofText_of_document (document_of_written h hafter)
  simp only [ofText?, hrest, htrim, List.isEmpty_nil, if_true, Tree.json?_tree]

end Highlighting
