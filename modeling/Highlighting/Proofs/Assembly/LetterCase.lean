import Highlighting.Proofs.Assembly.Quotes
import Mathlib.Data.List.Forall2

namespace Highlighting

section Letters

def flipCase (c : Char) : Char :=
  if c.isUpper then c.toLower else c.toUpper

def flipCaseAt (places : Nat → Bool) (text : String) : String :=
  String.ofList (text.toList.mapIdx fun i c => if places i then flipCase c else c)

lemma forall_ascii {p : Char → Prop} (h : ∀ n < 128, p (Char.ofNat n)) {c : Char}
    (hc : c.toNat < 128) : p c := by
  have hp := h c.toNat hc
  rwa [Char.ofNat_toNat] at hp

lemma toLower_of_not_ascii {c : Char} (hc : ¬c.toNat < 128) : c.toLower = c := by
  unfold Char.toLower
  apply dif_neg
  rintro ⟨-, hle⟩
  exact hc (Nat.lt_of_le_of_lt hle (by decide))

lemma flipCase_of_not_ascii {c : Char} (hc : ¬c.toNat < 128) : flipCase c = c := by
  have hupper : c.toUpper = c := by
    unfold Char.toUpper
    apply dif_neg
    rintro ⟨-, hle⟩
    exact hc (Nat.lt_of_le_of_lt hle (by decide))
  rw [flipCase, hupper, toLower_of_not_ascii hc, ite_self]

lemma apply_toLower {α : Type} {f : Char → α}
    (h : ∀ n < 128, f (Char.ofNat n).toLower = f (Char.ofNat n)) (c : Char) :
    f c.toLower = f c := by
  by_cases hc : c.toNat < 128
  · exact forall_ascii (p := fun c => f c.toLower = f c) h hc
  · rw [toLower_of_not_ascii hc]

def Caseless (p : Char → Bool) : Prop :=
  ∀ c, p c.toLower = p c

instance (p : Char → Bool) : Decidable (Caseless p) :=
  decidable_of_iff (∀ n < 128, p (Char.ofNat n).toLower = p (Char.ofNat n))
    ⟨apply_toLower, fun h n _ => h (Char.ofNat n)⟩

lemma Caseless.toLower_eq_iff {x : Char} (h : Caseless (· == x)) (c : Char) :
    c.toLower = x ↔ c = x := by
  have hc : (c.toLower == x) = (c == x) := h c
  rw [← beq_iff_eq, hc, beq_iff_eq]

lemma toLower_flipCase (c : Char) : (flipCase c).toLower = c.toLower := by
  by_cases hc : c.toNat < 128
  · exact forall_ascii (p := fun c => (flipCase c).toLower = c.toLower) (by decide) hc
  · rw [flipCase_of_not_ascii hc]

lemma map_toLower_mapIdx_flipCase (places : Nat → Bool) (text : List Char) :
    (text.mapIdx fun i c => if places i then flipCase c else c).map Char.toLower =
      text.map Char.toLower := by
  apply List.ext_getElem?
  intro i
  rw [List.getElem?_map, List.getElem?_map, List.getElem?_mapIdx]
  cases text[i]? with
  | none => rfl
  | some c =>
    by_cases hi : places i = true
    · simp [hi, toLower_flipCase]
    · simp [hi]

end Letters

namespace Position

lemma advance_toLower (p : Position) (c : Char) : p.advance c.toLower = p.advance c := by
  have hfeed : c.toLower = '\n' ↔ c = '\n' := Caseless.toLower_eq_iff (by decide) c
  have hbytes : c.toLower.utf8Size = c.utf8Size := apply_toLower (f := Char.utf8Size) (by decide) c
  have hunits : utf16Size c.toLower = utf16Size c := apply_toLower (f := utf16Size) (by decide) c
  simp only [advance, hbytes, hunits, hfeed]

lemma advanceBy_toLower (p : Position) (text : List Char) :
    p.advanceBy (text.map Char.toLower) = p.advanceBy text := by
  induction text generalizing p with
  | nil => rfl
  | cons c text ih => rw [List.map_cons, advanceBy_cons, advance_toLower, ih, advanceBy_cons]

end Position

namespace Taking

def IgnoresCase (f : List Char → Option (List Char)) : Prop :=
  ∀ text, f (text.map Char.toLower) = (f text).map (List.map Char.toLower)

namespace IgnoresCase

lemma nothing : IgnoresCase nothing :=
  fun _ => rfl

lemma ending : IgnoresCase ending := by
  intro text
  cases text <;> rfl

lemma run {q : Char → Bool} (hq : Caseless q) : IgnoresCase (run q) := by
  intro text
  rw [Taking.run, List.takeWhile_map, Function.comp_def, funext hq]
  rfl

lemma first {p : Char → Bool} {f : List Char → Option (List Char)}
    (hp : Caseless p) (hf : IgnoresCase f) : IgnoresCase (first p f) := by
  intro text
  cases text with
  | nil => rfl
  | cons c text =>
    rw [List.map_cons, Taking.first, Taking.first, hp, hf]
    split
    · simp [Function.comp_def]
    · rfl

lemma either {f g : List Char → Option (List Char)} (hf : IgnoresCase f) (hg : IgnoresCase g) :
    IgnoresCase (either f g) := by
  intro text
  rw [Taking.either, Taking.either, hf, hg]
  cases f text <;> rfl

end IgnoresCase

end Taking

namespace Assembly

open Taking

lemma ignoresCase_headed {p q : Char → Bool} (hp : Caseless p) (hq : Caseless q) :
    IgnoresCase (headed? p q) := by
  rw [headed?_eq]
  exact (IgnoresCase.run hq).first hp

lemma ignoresCase_throughQuote : IgnoresCase throughQuote? := by
  intro text
  fun_induction throughQuote? text with
  | case1 | case2 | case3 => rfl
  | case4 c cs ih =>
    have hbackslash : '\\'.toLower = '\\' := rfl
    rw [List.map_cons, List.map_cons, hbackslash, throughQuote?, ih]
    simp [Function.comp_def, hbackslash]
  | case5 c cs hquote hlast hescape ih =>
    have hquote' : c.toLower ≠ '"' := mt (Caseless.toLower_eq_iff (by decide) c).mp hquote
    have hbackslash' : c.toLower ≠ '\\' :=
      mt (Caseless.toLower_eq_iff (by decide) c).mp (ne_backslash hlast hescape)
    rw [List.map_cons, throughQuote?_cons hquote' hbackslash', ih]
    simp [Function.comp_def]

lemma ignoresCase_string : IgnoresCase string? := by
  have hquoted : IgnoresCase (first (· == '"') throughQuote?) :=
    ignoresCase_throughQuote.first (by decide)
  rw [string?_eq]
  apply IgnoresCase.either
  · exact hquoted.first (by decide)
  · exact hquoted

lemma ignoresCase_sigil : IgnoresCase sigil? := by
  apply IgnoresCase.first (by decide)
  apply IgnoresCase.either
  · exact ignoresCase_headed (by decide) (by decide)
  · exact ignoresCase_headed (by decide) (by decide)

lemma ignoresCase_digits : IgnoresCase digits? := by
  apply IgnoresCase.either
  · rw [hexadecimal?_eq]
    apply IgnoresCase.first (by decide)
    apply IgnoresCase.first (by decide)
    apply IgnoresCase.first (by decide)
    exact IgnoresCase.run (by decide)
  · exact ignoresCase_headed (by decide) (by decide)

lemma ignoresCase_number : IgnoresCase number? := by
  rw [number?_eq]
  apply IgnoresCase.either
  · exact ignoresCase_digits.first (by decide)
  · exact ignoresCase_digits

lemma ignoresCase_punctuation : IgnoresCase punctuation? := by
  have hdot : Caseless (· == '.') := by decide
  apply IgnoresCase.either
  · exact IgnoresCase.nothing.first (by decide)
  · exact ((IgnoresCase.ending.first hdot).first hdot).first hdot

lemma ignoresCase_of_mem : ∀ form ∈ forms, IgnoresCase form.2 := by
  simp only [forms, List.forall_mem_cons]
  refine ⟨?_, ignoresCase_string, ?_, ignoresCase_sigil, ?_, ignoresCase_number,
    ignoresCase_punctuation, fun form hform => absurd hform List.not_mem_nil⟩
  · exact ignoresCase_headed (by decide) (by decide)
  · exact ignoresCase_headed (by decide) (by decide)
  · exact ignoresCase_headed (by decide) (by decide)

lemma scan_toLower (text : List Char) : scan (text.map Char.toLower) =
    (scan text).map fun found => (found.1, found.2.map Char.toLower) := by
  cases text with
  | nil => rfl
  | cons c cs =>
    rcases scan_cases c cs with ⟨form, hform, taken, htaken, hscan⟩ | ⟨hnone, hscan⟩
    · rw [hscan, Option.map_some]
      apply scan_of_mem hform
      rw [ignoresCase_of_mem form hform, htaken, Option.map_some]
    · rw [hscan, Option.map_some]
      apply scan_of_none
      intro form hform
      rw [← List.map_cons, ignoresCase_of_mem form hform, hnone form hform, Option.map_none]

end Assembly

def Token.lowered (t : Token) : Token :=
  { t with text := String.ofList (t.text.toList.map Char.toLower) }

lemma Token.lowered_startingAt (p : Position) (category : Category) (text : List Char) :
    (startingAt p category text).lowered = startingAt p category (text.map Char.toLower) := by
  simp [lowered, startingAt, Position.advanceBy_toLower]

lemma Decoration.merged_lowered (current : Option Category) (tokens : List Token) :
    merged current (tokens.map Token.lowered) = merged current tokens := by
  induction tokens generalizing current with
  | nil => rfl
  | cons t tokens ih =>
    simp only [List.map_cons, merged, ih]
    rfl

lemma Decoration.ofTokens_lowered (merge : Bool) (tokens : List Token) :
    ofTokens merge (tokens.map Token.lowered) = ofTokens merge tokens := by
  cases merge with
  | true => exact merged_lowered none tokens
  | false => exact List.map_map

namespace Assembly

lemma run_lowered {p : Position} {text : List Char} {tokens : List Token}
    (h : table.Run p text tokens) :
    table.Run p (text.map Char.toLower) (tokens.map Token.lowered) := by
  induction h with
  | stop p => exact Lexer.Run.stop p
  | @step p taken rest category tokens hclass _ ih =>
    have hscan := (classify_table_eq_some_iff category taken rest).mp hclass
    rw [List.map_append, List.map_cons, Token.lowered_startingAt]
    apply run_step
    · rw [← List.map_append, scan_toLower, hscan, Option.map_some]
    · rwa [Position.advanceBy_toLower]

lemma tokenize_lowered {source source' : String}
    (h : source.toList.map Char.toLower = source'.toList.map Char.toLower) :
    (table.tokenize source).value.map Token.lowered =
      (table.tokenize source').value.map Token.lowered := by
  have hrun := run_lowered (table.run_tokenize source)
  have hrun' := run_lowered (table.run_tokenize source')
  rw [h] at hrun
  exact hrun.unique hrun'

theorem tokenize_flipCaseAt : ∃ lexer, Assembly.lexer = .ok lexer ∧
    ∀ (source : String) (places : Nat → Bool),
      let tokens := (lexer.tokenize source).value
      let flipped := (lexer.tokenize (flipCaseAt places source)).value
      flipped.length = tokens.length ∧
        List.Forall₂ (fun t t' => t.category = t'.category ∧ t.span = t'.span) flipped tokens ∧
        ∀ merge, Decoration.ofTokens merge flipped = Decoration.ofTokens merge tokens := by
  refine ⟨table, lexer_eq_table, fun source places => ?_⟩
  intro tokens flipped
  have hlowered : flipped.map Token.lowered = tokens.map Token.lowered := by
    apply tokenize_lowered
    rw [flipCaseAt, String.toList_ofList, map_toLower_mapIdx_flipCase]
  refine ⟨?_, ?_, fun merge => ?_⟩
  · simpa using congrArg List.length hlowered
  · have hpairs : List.Forall₂ (· = ·) (flipped.map Token.lowered) (tokens.map Token.lowered) := by
      rw [List.forall₂_eq_eq_eq]
      exact hlowered
    rw [List.forall₂_map_left_iff, List.forall₂_map_right_iff] at hpairs
    apply hpairs.imp
    intro t t' hsame
    have hcategory : t.lowered.category = t'.lowered.category := congrArg Token.category hsame
    have hspan : t.lowered.span = t'.lowered.span := congrArg Token.span hsame
    exact ⟨hcategory, hspan⟩
  · rw [← Decoration.ofTokens_lowered, hlowered, Decoration.ofTokens_lowered]

end Assembly

end Highlighting
