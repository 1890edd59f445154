import Highlighting.Lexer
import Mathlib.Tactic.Lemma

namespace Highlighting.Lexer

lemma scan_eq_none_iff {rules : List Rule} {rest : List Char} :
    scan rules rest = none ↔ ∀ rule ∈ rules, rule.extent rest = none := by
  simp only [scan, List.findSome?_eq_none_iff, Option.map_eq_none_iff]

lemma exists_of_scan_eq_some {rules : List Rule} {rest : List Char} {category : Category} {n : Nat}
    (h : scan rules rest = some (category, n)) :
    ∃ rule ∈ rules, rule.category = category ∧ rule.extent rest = some n := by
  obtain ⟨rule, hr, he⟩ := List.exists_of_findSome?_eq_some h
  obtain ⟨m, hm, hp⟩ := Option.map_eq_some_iff.mp he
  obtain ⟨rfl, rfl⟩ := Prod.mk.inj hp
  exact ⟨rule, hr, rfl, hm⟩

lemma classify_cons (lexer : Lexer) (c : Char) (cs : List Char) :
    lexer.classify (c :: cs) =
      some (((scan (lexer.shortcutFor c).toList (c :: cs)).or
        (scan lexer.rules (c :: cs))).getD (.plain, 1)) := by
  simp only [classify]
  cases scan (lexer.shortcutFor c).toList (c :: cs) <;> rfl

lemma classify_cons_cases (lexer : Lexer) (c : Char) (cs : List Char)
    (hs : ∀ rule, lexer.shortcutFor c = some rule → rule ∈ lexer.rules) :
    (∃ rule ∈ lexer.rules, ∃ n, rule.extent (c :: cs) = some n ∧
        lexer.classify (c :: cs) = some (rule.category, n)) ∨
      (∀ rule ∈ lexer.rules, rule.extent (c :: cs) = none) ∧
        lexer.classify (c :: cs) = some (.plain, 1) := by
  rw [classify_cons]
  cases hshort : scan (lexer.shortcutFor c).toList (c :: cs) with
  | some found =>
    obtain ⟨rule, hr, hc, hn⟩ := exists_of_scan_eq_some hshort
    refine Or.inl ⟨rule, hs rule (Option.mem_toList.mp hr), found.2, hn, ?_⟩
    rw [hc]
    rfl
  | none =>
    cases hscan : scan lexer.rules (c :: cs) with
    | some found =>
      obtain ⟨rule, hr, hc, hn⟩ := exists_of_scan_eq_some hscan
      refine Or.inl ⟨rule, hr, found.2, hn, ?_⟩
      rw [hc]
      rfl
    | none => exact Or.inr ⟨scan_eq_none_iff.mp hscan, rfl⟩

end Highlighting.Lexer
