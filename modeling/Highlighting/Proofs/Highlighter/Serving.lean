import Highlighting.Highlighter.Basic
import Mathlib.Tactic.Lemma

namespace Highlighting

namespace Registry

section Resolve

variable {registry : Registry} {name : String} {fallback : Option String}

lemma resolve_of_some {handler : Handler}
    (h : (registry.get? name).or (fallback.bind registry.get?) = some handler) :
    registry.resolve name fallback = ⟨.ok handler,
      if (registry.get? name).isSome then [] else [.fellBack name handler.name]⟩ := by
  unfold resolve
  cases hname : registry.get? name with
  | some bound =>
    rw [hname] at h
    cases h
    rfl
  | none =>
    rw [hname, Option.none_or] at h
    simp only [h]
    rfl

lemma resolve_of_none (h : (registry.get? name).or (fallback.bind registry.get?) = none) :
    registry.resolve name fallback = pure (.error (.unknownLanguage name)) := by
  obtain ⟨hname, hfallback⟩ := Option.or_eq_none_iff.mp h
  simp only [resolve, hname, hfallback]

end Resolve

end Registry

namespace Highlighter

section Highlight

variable {h : Highlighter} {language : String} (source : String)

def server? (h : Highlighter) (language : String) : Option Handler :=
  (h.registry.get? language).or (h.config.fallbackLanguage.bind h.registry.get?)

def Serves (h : Highlighter) (language : String) : Prop :=
  h.registry.contains language = true ∨
    ∃ fallback, h.config.fallbackLanguage = some fallback ∧ h.registry.contains fallback = true

lemma serves_iff (h : Highlighter) (language : String) :
    h.Serves language ↔ ∃ handler, h.server? language = some handler := by
  rw [← Option.isSome_iff_exists, server?, Option.isSome_or, Bool.or_eq_true, Option.isSome_bind,
    Option.any_eq_true]
  exact Iff.rfl

lemma highlight_of_server? {handler : Handler} (hserver : h.server? language = some handler) :
    (h.highlight language source).value =
      .ok ⟨language, handler.name, (handler.tokenize source).value⟩ := by
  rw [highlight, Registry.resolve_of_some hserver]
  rfl

lemma highlight_of_server?_eq_none (hserver : h.server? language = none) :
    h.highlight language source = pure (.error (.registry (.unknownLanguage language))) := by
  rw [highlight, Registry.resolve_of_none hserver]
  rfl

lemma server?_of_ok {out : Highlighted} (hout : (h.highlight language source).value = .ok out) :
    ∃ handler, h.server? language = some handler ∧
      out = ⟨language, handler.name, (handler.tokenize source).value⟩ := by
  cases hserver : h.server? language with
  | some handler =>
    rw [highlight_of_server? source hserver] at hout
    exact ⟨handler, rfl, (Except.ok.inj hout).symm⟩
  | none =>
    rw [highlight_of_server?_eq_none source hserver] at hout
    exact nomatch hout

lemma server?_of_error {e : HighlightError} (he : (h.highlight language source).value = .error e) :
    h.server? language = none := by
  cases hserver : h.server? language with
  | some handler =>
    rw [highlight_of_server? source hserver] at he
    exact nomatch he
  | none => rfl

end Highlight

end Highlighter

end Highlighting
