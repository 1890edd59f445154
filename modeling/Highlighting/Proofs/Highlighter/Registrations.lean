import Highlighting.Proofs.Assembly.Table
import Highlighting.Proofs.Highlighter.Serving
import Highlighting.Proofs.Lexer.Partition
import Highlighting.Proofs.Registry.Run

/-! Highlighters that are given one language after the other. Whoever takes a name first serves it
for good, and the fallback serves the names that nobody has taken. -/

namespace Highlighting

inductive Registration where
  | custom (call : Registry.Call)
  | builtins

namespace Registration

def call (assembly : Lexer) : Registration → Registry.Call
  | custom call => call
  | builtins => ⟨assembly.handler, Assembly.aliases⟩

end Registration

namespace Highlighter

def register (h : Highlighter) : Registration → Highlighter × Except HighlightError Nat
  | .custom call =>
    let (registry, outcome) := (h.registry.register call.handler call.names).value
    ({ h with registry }, outcome.mapError .registry)
  | .builtins =>
    let (registry, outcome) := h.registry.registerBuiltins.value
    ({ h with registry }, outcome)

def registerAll (h : Highlighter) (registrations : List Registration) : Highlighter :=
  registrations.foldl (fun h r => (h.register r).1) h

lemma registerAll_cons (h : Highlighter) (r : Registration) (registrations : List Registration) :
    h.registerAll (r :: registrations) = (h.register r).1.registerAll registrations :=
  rfl

section Register

open Assembly

lemma registerBuiltins_value (registry : Registry) :
    registry.registerBuiltins.value =
      ((registry.register table.handler aliases).value.1,
        (registry.register table.handler aliases).value.2.mapError .registry) := by
  unfold Registry.registerBuiltins Assembly.register
  split
  next e he => exact nomatch he.symm.trans lexer_eq_table
  next lexer hlexer =>
    obtain rfl : lexer = table := eq_table_of_lexer_eq hlexer
    rfl

lemma register_eq (h : Highlighter) (r : Registration) :
    h.register r = ({ h with registry := (h.registry.step (r.call table)).1 },
      (h.registry.step (r.call table)).2.mapError .registry) := by
  cases r with
  | custom call => rfl
  | builtins =>
    rw [register, registerBuiltins_value]
    rfl

lemma registerAll_eq (h : Highlighter) (registrations : List Registration) :
    h.registerAll registrations =
      { h with registry := (h.registry.run (registrations.map (·.call table))).1 } := by
  induction registrations generalizing h with
  | nil => rfl
  | cons r registrations ih =>
    rw [registerAll_cons, ih, register_eq]
    rfl

end Register

/-- What a highlighter with this configuration answers when its languages come of `calls`. That a
request fails is all that it does: it gives no other highlighter, and it is not even logged. -/
structure Answers (config : HighlightConfig) (calls : List Registry.Call) (h : Highlighter) :
    Prop where
  contains_iff : ∀ name, h.registry.contains name = true ↔ ∃ call ∈ calls, call.takes name = true
  succeeds_iff : ∀ language source, (∃ out, (h.highlight language source).value = .ok out) ↔
    h.registry.contains language = true ∨
      ∃ fallback, config.fallbackLanguage = some fallback ∧ h.registry.contains fallback = true
  success : ∀ language source out, (h.highlight language source).value = .ok out →
    out.language = language ∧ ∃ handler,
      (Registry.owner? calls language).or
        (config.fallbackLanguage.bind (Registry.owner? calls)) = some handler ∧
      out.handler = handler.name ∧ out.tokens = (handler.tokenize source).value ∧
      ∀ lexer : Lexer, handler = lexer.handler → Token.concatText out.tokens = source
  failure : ∀ language source e, (h.highlight language source).value = .error e →
    h.highlight language source = pure (.error (.registry (.unknownLanguage language)))

lemma Answers.of_get? {h : Highlighter} {calls : List Registry.Call}
    (hget : ∀ name, h.registry.get? name = Registry.owner? calls name) :
    Answers h.config calls h where
  contains_iff name := by
    rw [Registry.contains, hget, Registry.isSome_owner?_iff]
  succeeds_iff language source := by
    refine Iff.trans ?_ (h.serves_iff language).symm
    constructor
    · rintro ⟨out, hout⟩
      obtain ⟨handler, hhandler, -⟩ := server?_of_ok source hout
      exact ⟨handler, hhandler⟩
    · rintro ⟨handler, hhandler⟩
      exact ⟨_, highlight_of_server? source hhandler⟩
  success language source out hout := by
    obtain ⟨handler, hserver, rfl⟩ := server?_of_ok source hout
    rw [server?, funext hget] at hserver
    refine ⟨rfl, handler, hserver, rfl, rfl, ?_⟩
    rintro lexer rfl
    exact (lexer.run_tokenize source).partition.concatText_eq
  failure language source e he :=
    highlight_of_server?_eq_none source (server?_of_error source he)

/-- What `h` highlights `next` highlights too, and in the same way unless the language was served by
the fallback and has a handler of its own now. -/
def Extends (h next : Highlighter) : Prop :=
  ∀ language source out, (h.highlight language source).value = .ok out →
    ∃ out', (next.highlight language source).value = .ok out' ∧
      (out' = out ∨
        h.registry.contains language = false ∧ next.registry.contains language = true)

lemma get?_register {h : Highlighter} {name : String} {handler : Handler} (r : Registration)
    (hget : h.registry.get? name = some handler) :
    (h.register r).1.registry.get? name = some handler := by
  rw [register_eq, Registry.get?_step, hget, Option.some_or]

lemma extends_register (h : Highlighter) (r : Registration) : Extends h (h.register r).1 := by
  intro language source out hout
  obtain ⟨handler, hserver, rfl⟩ := server?_of_ok source hout
  have hconfig : (h.register r).1.config = h.config := by rw [register_eq]
  cases hown : h.registry.get? language with
  | some own =>
    rw [server?, hown, Option.some_or] at hserver
    cases hserver
    refine ⟨_, highlight_of_server? source ?_, Or.inl rfl⟩
    rw [server?, get?_register r hown, Option.some_or]
  | none =>
    rw [server?, hown, Option.none_or, Option.bind_eq_some_iff] at hserver
    obtain ⟨fallback, hfallback, hget⟩ := hserver
    -- The fallback served the language. It still does, unless the call has bound it.
    cases hnext : (h.register r).1.registry.get? language with
    | some own =>
      have hserver : (h.register r).1.server? language = some own := by
        rw [server?, hnext, Option.some_or]
      refine ⟨_, highlight_of_server? source hserver, Or.inr ⟨?_, ?_⟩⟩
      · rw [Registry.contains, hown]
        rfl
      · rw [Registry.contains, hnext]
        rfl
    | none =>
      refine ⟨_, highlight_of_server? source ?_, Or.inl rfl⟩
      rw [server?, hnext, Option.none_or, hconfig, hfallback]
      exact get?_register r hget

section Builtins

open Assembly

lemma refusal?_builtins : (Registration.builtins.call table).refusal? = none :=
  rfl

lemma register_builtins (h : Highlighter) :
    (h.register .builtins).2 = .ok (aliases.countP fun name => !h.registry.contains name) := by
  have hcard : (h.registry.freeNames aliases).card =
      aliases.countP fun name => !h.registry.contains name :=
    Registry.card_freeNames h.registry (by decide)
  rcases h.registry.step_cases (Registration.builtins.call table) with
    ⟨e, hrefusal, -⟩ | ⟨-, hstep⟩
  · exact nomatch hrefusal.symm.trans refusal?_builtins
  · rw [register_eq, hstep, ← hcard]
    exact congrArg Except.ok (Registry.count_bindFree h.registry table.handler aliases)

lemma withBuiltins_value (config : HighlightConfig) :
    (withBuiltins config).value =
      .ok ((⟨.empty, config⟩ : Highlighter).register .builtins).1 := by
  have hok := register_builtins ⟨.empty, config⟩
  rw [register] at hok ⊢
  unfold withBuiltins
  generalize Registry.empty.registerBuiltins = found at hok ⊢
  obtain ⟨⟨registry, outcome⟩, events⟩ := found
  cases outcome with
  | error e => exact nomatch hok
  | ok bound => rfl

lemma answers_registerAll_empty (config : HighlightConfig) (registrations : List Registration) :
    Answers config (registrations.map (·.call table))
      ((⟨.empty, config⟩ : Highlighter).registerAll registrations) := by
  rw [registerAll_eq]
  refine Answers.of_get? (h := ⟨_, config⟩) fun name => ?_
  exact (Registry.get?_run_owner .empty _ name).trans Option.none_or

lemma highlight_alias (config : HighlightConfig) (registrations : List Registration)
    {name : String} (hname : name ∈ aliases) (source : String) :
    (((⟨.empty, config⟩ : Highlighter).registerAll (.builtins :: registrations)).highlight name
        source).value = .ok ⟨name, Assembly.name, (table.tokenize source).value⟩ := by
  have htakes : (Registration.builtins.call table).takes name = true := by
    rw [Registry.Call.takes, refusal?_builtins, Bool.and_eq_true]
    exact ⟨rfl, decide_eq_true hname⟩
  have hserver : ((⟨.empty, config⟩ : Highlighter).registerAll
      (.builtins :: registrations)).server? name = some table.handler := by
    rw [registerAll_eq, server?, Registry.get?_run_owner, Registry.owner?, List.map_cons,
      List.find?_cons, htakes]
    rfl
  exact highlight_of_server? source hserver

theorem answers_registerAll : ∃ lexer, Assembly.lexer = .ok lexer ∧
    (∀ h : Highlighter,
      (h.register .builtins).2 = .ok (aliases.countP fun name => !h.registry.contains name) ∧
        ∀ r, Extends h (h.register r).1) ∧
    ∀ config, ∃ start, (withBuiltins config).value = .ok start ∧ ∀ registrations,
      Answers config (registrations.map (Registration.call lexer))
          ((⟨.empty, config⟩ : Highlighter).registerAll registrations) ∧
        Answers config ((Registration.builtins :: registrations).map (Registration.call lexer))
          (start.registerAll registrations) ∧
        ∀ source,
          ((start.registerAll registrations).highlight "asm" source).value =
              .ok ⟨"asm", "asm", (lexer.tokenize source).value⟩ ∧
            ((start.registerAll registrations).highlight "att" source).value =
              .ok ⟨"att", "asm", (lexer.tokenize source).value⟩ := by
  refine ⟨table, lexer_eq_table, fun h => ⟨h.register_builtins, h.extends_register⟩,
    fun config => ⟨_, withBuiltins_value config, fun registrations => ?_⟩⟩
  rw [← registerAll_cons]
  refine ⟨answers_registerAll_empty config registrations,
    answers_registerAll_empty config (.builtins :: registrations), fun source => ⟨?_, ?_⟩⟩
  · exact highlight_alias config registrations List.mem_cons_self source
  · exact highlight_alias config registrations (List.mem_cons_of_mem _ List.mem_cons_self) source

end Builtins

end Highlighter

end Highlighting
