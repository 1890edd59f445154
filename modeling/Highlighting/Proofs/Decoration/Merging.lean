import Highlighting.Proofs.Decoration.Painting
import Highlighting.Proofs.Lexer.Partition

/-! Decorations of tokens. They show each byte as the token that it belongs to, also when those are
left out that would repeat the category before them, and then no shorter list does. -/

namespace Highlighting

namespace Token

def Covers (t : Token) (b : Nat) : Prop :=
  t.span.start.byteOffset ≤ b ∧ b < t.span.stop.byteOffset

structure Consecutive (tokens : List Token) : Prop where
  adjacent : tokens.IsChain fun t t' => t.span.stop = t'.span.start
  start_lt_stop : ∀ t ∈ tokens, t.span.start.byteOffset < t.span.stop.byteOffset

lemma Partition.consecutive {source : String} {tokens : List Token}
    (h : Partition source tokens) : Consecutive tokens :=
  ⟨h.adjacent, fun t ht => Nat.lt_of_sub_pos (h.cut t ht).length_pos⟩

section Consecutive

variable {t : Token} {tokens : List Token}

lemma Consecutive.tail (h : Consecutive (t :: tokens)) : Consecutive tokens :=
  ⟨(List.isChain_cons.mp h.adjacent).2, fun u hu => h.start_lt_stop u (List.mem_cons_of_mem t hu)⟩

lemma Consecutive.stop_eq {u : Token} (h : Consecutive (t :: tokens)) (hu : tokens.head? = some u) :
    t.span.stop = u.span.start :=
  (List.isChain_cons.mp h.adjacent).1 u hu

lemma Consecutive.stop_le (h : Consecutive tokens) :
    tokens.Pairwise fun t u => t.span.stop.byteOffset ≤ u.span.start.byteOffset := by
  induction tokens with
  | nil => exact List.Pairwise.nil
  | cons t tokens ih =>
    have htail := ih h.tail
    refine List.pairwise_cons.mpr ⟨fun u hu => ?_, htail⟩
    cases tokens with
    | nil => exact nomatch hu
    | cons v tokens =>
      have hnext : t.span.stop = v.span.start := h.stop_eq rfl
      rcases List.mem_cons.mp hu with rfl | hu
      · rw [hnext]
      · have hv := h.start_lt_stop v (List.mem_cons_of_mem t List.mem_cons_self)
        have hle := (List.pairwise_cons.mp htail).1 u hu
        rw [hnext]
        omega

lemma Consecutive.exists_covers (h : Consecutive tokens) {b : Nat}
    (hfirst : ∀ t, tokens.head? = some t → t.span.start.byteOffset ≤ b)
    (hlast : ∃ t, tokens.getLast? = some t ∧ b < t.span.stop.byteOffset) :
    ∃ t ∈ tokens, t.Covers b := by
  induction tokens with
  | nil => exact nomatch hlast
  | cons t tokens ih =>
    by_cases hb : b < t.span.stop.byteOffset
    · exact ⟨t, List.mem_cons_self, hfirst t rfl, hb⟩
    · obtain ⟨last, hlast, hbefore⟩ := hlast
      have hnext : ∃ u, tokens.getLast? = some u ∧ b < u.span.stop.byteOffset := by
        cases tokens with
        | nil =>
          cases hlast
          exact absurd hbefore hb
        | cons u tokens => exact ⟨last, by rwa [List.getLast?_cons_cons] at hlast, hbefore⟩
      have hstart : ∀ u, tokens.head? = some u → u.span.start.byteOffset ≤ b := by
        intro u hu
        rw [← h.stop_eq hu]
        omega
      obtain ⟨u, hu, hcovers⟩ := ih h.tail hstart hnext
      exact ⟨u, List.mem_cons_of_mem t hu, hcovers⟩

lemma Consecutive.eq_of_covers (h : Consecutive tokens) {b : Nat} {u : Token} (ht : t ∈ tokens)
    (hu : u ∈ tokens) (htb : t.Covers b) (hub : u.Covers b) : t = u := by
  obtain ⟨before, after, rfl⟩ := List.append_of_mem ht
  obtain ⟨-, hrest, hbefore⟩ := List.pairwise_append.mp h.stop_le
  have hafter := (List.pairwise_cons.mp hrest).1
  obtain ⟨hstart, hstop⟩ := htb
  obtain ⟨hstart', hstop'⟩ := hub
  rcases List.mem_append.mp hu with hu | hu
  · have := hbefore u hu t List.mem_cons_self
    omega
  · rcases List.mem_cons.mp hu with rfl | hu
    · rfl
    · have := hafter u hu
      omega

end Consecutive

end Token

namespace Decoration

open Token

section Merged

variable (current : Option Category)

lemma merged_sublist (tokens : List Token) :
    (merged current tokens).Sublist (tokens.map ofToken) := by
  induction tokens generalizing current with
  | nil => exact List.Sublist.slnil
  | cons t tokens ih =>
    rw [merged]
    split
    · exact (ih current).cons (ofToken t)
    · exact (ih (some t.category)).cons_cons (ofToken t)

lemma merged_changing (tokens : List Token) :
    (∀ d, (merged current tokens).head? = some d → current ≠ some d.category) ∧
      Changing (merged current tokens) := by
  induction tokens generalizing current with
  | nil => exact ⟨nofun, List.IsChain.nil⟩
  | cons t tokens ih =>
    rw [merged]
    split
    next => exact ih current
    next hcurrent =>
      obtain ⟨hhead, hchanging⟩ := ih (some t.category)
      refine ⟨fun d hd => ?_, List.isChain_cons.mpr ⟨fun d hd => ?_, hchanging⟩⟩
      · cases hd
        exact hcurrent
      · exact fun he => hhead d hd (congrArg some he)

lemma categoryAt?_merged {tokens : List Token}
    (h : (tokens.map ofToken).Pairwise fun d e => d.offset < e.offset) (b : Nat) :
    (categoryAt? (merged current tokens) b).or current =
      (categoryAt? (tokens.map ofToken) b).or current := by
  induction tokens generalizing current with
  | nil => rfl
  | cons t tokens ih =>
    obtain ⟨hlater, htail⟩ := List.pairwise_cons.mp h
    rw [merged, List.map_cons, categoryAt?_cons]
    split
    next hcurrent =>
      -- What is left out has the category that is painted where it stands anyway.
      rw [ih current htail, Option.or_assoc]
      congr 1
      split
      · exact hcurrent
      · rfl
    next =>
      rw [categoryAt?_cons]
      by_cases hb : (ofToken t).offset ≤ b
      · rw [if_pos hb]
        exact congrArg (·.or current) (ih (some t.category) htail)
      · have hnone : ∀ d ∈ tokens.map ofToken, b < d.offset := by
          intro d hd
          have := hlater d hd
          omega
        rw [categoryAt?_eq_none hnone, categoryAt?_eq_none fun d hd =>
          hnone d ((merged_sublist (some t.category) tokens).subset hd)]

end Merged

lemma head?_merged (tokens : List Token) :
    (merged none tokens).head? = (tokens.map ofToken).head? := by
  cases tokens with
  | nil => rfl
  | cons t tokens =>
    rw [merged, if_neg nofun]
    rfl

def pieces (source : String) : List Decoration → List (Category × String)
  | [] => []
  | d :: ds =>
    (d.category, String.Pos.Raw.extract source ⟨d.offset⟩
      (ds.head?.elim source.rawEndPos fun e => ⟨e.offset⟩)) :: pieces source ds

lemma pieces_map_ofToken {source : String} {tokens : List Token} (h : Consecutive tokens)
    (hcut : ∀ t ∈ tokens, t.CutFrom source)
    (hlast : ∀ t, tokens.getLast? = some t → t.span.stop.byteOffset = source.utf8ByteSize) :
    pieces source (tokens.map ofToken) = tokens.map fun t => (t.category, t.text) := by
  induction tokens with
  | nil => rfl
  | cons t tokens ih =>
    have hpieces := ih h.tail (fun u hu => hcut u (List.mem_cons_of_mem t hu)) fun u hu =>
      hlast u (by rw [List.getLast?_cons, hu]; rfl)
    have hstop : (tokens.map ofToken).head?.elim source.rawEndPos (fun e => ⟨e.offset⟩) =
        (⟨t.span.stop.byteOffset⟩ : String.Pos.Raw) := by
      cases tokens with
      | nil => exact congrArg String.Pos.Raw.mk (hlast t rfl).symm
      | cons u tokens =>
        have hnext : t.span.stop = u.span.start := h.stop_eq rfl
        rw [hnext]
        rfl
    rw [List.map_cons, List.map_cons, pieces, hpieces, hstop,
      ← (hcut t List.mem_cons_self).extract_eq]
    rfl

structure Shows (bytes : Nat) (tokens : List Token) (ds : List Decoration) : Prop
    extends Layout bytes ds where
  empty : bytes = 0 → ds = []
  covered : ∀ b < bytes, ∃! t, t ∈ tokens ∧ t.Covers b
  category_eq : ∀ b t, t ∈ tokens → t.Covers b → categoryAt? ds b = some t.category

structure Canonical (bytes : Nat) (ds : List Decoration) : Prop where
  changing : Changing ds
  length_le : ∀ es, Layout bytes es → (∀ b < bytes, categoryAt? es b = categoryAt? ds b) →
    ds.length ≤ es.length
  unique : ∀ es, Layout bytes es → (∀ b < bytes, categoryAt? es b = categoryAt? ds b) →
    Changing es → es = ds

end Decoration

namespace Token.Partition

open Decoration

variable {source : String} {tokens : List Token}

lemma stop_last (h : Partition source tokens) {t : Token} (ht : tokens.getLast? = some t) :
    t.span.stop.byteOffset = source.utf8ByteSize := by
  rw [h.last t ht, Position.advancedBy, Position.byteOffset_start_advanceBy, ← utf8ByteSize_ofList,
    String.ofList_toList]

lemma exists_cons (h : Partition source tokens) (hsource : 0 < source.utf8ByteSize) :
    ∃ t rest, tokens = t :: rest ∧ t.span.start = .start := by
  cases tokens with
  | nil =>
    rw [← h.concatText_eq] at hsource
    exact absurd hsource (Nat.lt_irrefl 0)
  | cons t rest => exact ⟨t, rest, rfl, h.first t rfl⟩

lemma layout (h : Partition source tokens) :
    Layout source.utf8ByteSize (tokens.map ofToken) where
  first hsource := by
    obtain ⟨t, rest, rfl, hstart⟩ := h.exists_cons hsource
    exact congrArg (fun p => some p.byteOffset) hstart
  increasing := by
    refine List.pairwise_map.mpr (h.consecutive.stop_le.imp_of_mem fun {t u} ht _ hle => ?_)
    exact Nat.lt_of_lt_of_le (h.consecutive.start_lt_stop t ht) hle
  within := by
    intro d hd
    obtain ⟨t, ht, rfl⟩ := List.mem_map.mp hd
    exact Nat.lt_of_lt_of_le (h.consecutive.start_lt_stop t ht) (h.cut t ht).stop_valid.le_rawEndPos

lemma categoryAt?_ofToken (h : Partition source tokens) {b : Nat} {t : Token} (ht : t ∈ tokens)
    (hb : t.Covers b) : categoryAt? (tokens.map ofToken) b = some t.category := by
  have hstop := h.consecutive.stop_le
  obtain ⟨before, after, rfl⟩ := List.append_of_mem ht
  have hafter := (List.pairwise_cons.mp (List.pairwise_append.mp hstop).2.1).1
  rw [List.map_append, List.map_cons]
  refine categoryAt?_append_cons _ hb.1 fun d hd => ?_
  obtain ⟨u, hu, rfl⟩ := List.mem_map.mp hd
  exact Nat.lt_of_lt_of_le hb.2 (hafter u hu)

lemma existsUnique_covers (h : Partition source tokens) {b : Nat}
    (hb : b < source.utf8ByteSize) : ∃! t, t ∈ tokens ∧ t.Covers b := by
  obtain ⟨first, rest, rfl, hstart⟩ := h.exists_cons (Nat.zero_lt_of_lt hb)
  have hlast := List.getLast?_eq_some_getLast (List.cons_ne_nil first rest)
  obtain ⟨t, ht, hcovers⟩ := h.consecutive.exists_covers (b := b)
    (fun t ht => by
      cases ht
      rw [hstart]
      exact Nat.zero_le b)
    ⟨_, hlast, by rwa [h.stop_last hlast]⟩
  exact ⟨t, ⟨ht, hcovers⟩, fun u ⟨hu, hub⟩ => h.consecutive.eq_of_covers hu ht hub hcovers⟩

end Token.Partition

namespace Decoration

lemma categoryAt?_merged_none {source : String} {tokens : List Token}
    (h : Token.Partition source tokens) (b : Nat) :
    categoryAt? (merged none tokens) b = categoryAt? (tokens.map ofToken) b := by
  have heq := categoryAt?_merged none h.layout.increasing b
  rwa [Option.or_none, Option.or_none] at heq

lemma shows_of_categoryAt? {source : String} {tokens : List Token} {ds : List Decoration}
    (h : Token.Partition source tokens) (hlayout : Layout source.utf8ByteSize ds)
    (hpaint : ∀ b, categoryAt? ds b = categoryAt? (tokens.map ofToken) b) :
    Shows source.utf8ByteSize tokens ds where
  toLayout := hlayout
  empty hsource := by
    rw [hsource] at hlayout
    exact hlayout.eq_nil
  covered b hb := h.existsUnique_covers hb
  category_eq b t ht hb := by
    rw [hpaint]
    exact h.categoryAt?_ofToken ht hb

lemma shows_ofTokens {source : String} {tokens : List Token} (h : Token.Partition source tokens)
    (merge : Bool) : Shows source.utf8ByteSize tokens (ofTokens merge tokens) := by
  cases merge with
  | false => exact shows_of_categoryAt? h h.layout fun b => rfl
  | true =>
    have hmerged : Layout source.utf8ByteSize (merged none tokens) :=
      h.layout.sublist (merged_sublist none tokens) (head?_merged tokens)
    exact shows_of_categoryAt? h hmerged (categoryAt?_merged_none h)

lemma canonical_ofTokens {source : String} {tokens : List Token}
    (h : Token.Partition source tokens) :
    Canonical source.utf8ByteSize (ofTokens true tokens) := by
  have hlayout := (shows_ofTokens h true).toLayout
  have hchanging : Changing (ofTokens true tokens) := (merged_changing none tokens).2
  refine ⟨hchanging, fun es hes hpaint => ?_, fun es hes hpaint hes' => ?_⟩
  · exact hlayout.length_le hes hchanging fun b hb => (hpaint b hb).symm
  · exact hes.eq_of_categoryAt? hlayout hes' hchanging hpaint

theorem ofTokens_tokenize (lexer : Lexer) (source : String) :
    let tokens := (lexer.tokenize source).value
    (∀ merge, Shows source.utf8ByteSize tokens (ofTokens merge tokens)) ∧
      pieces source (ofTokens false tokens) = tokens.map (fun t => (t.category, t.text)) ∧
      Canonical source.utf8ByteSize (ofTokens true tokens) := by
  intro tokens
  have hpartition : Token.Partition source tokens := (lexer.run_tokenize source).partition
  refine ⟨shows_ofTokens hpartition, ?_, canonical_ofTokens hpartition⟩
  exact pieces_map_ofToken hpartition.consecutive hpartition.cut fun t => hpartition.stop_last

end Decoration

end Highlighting
