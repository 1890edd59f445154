import Highlighting.CommandLine.Run
import Highlighting.Proofs.Assembly.Standalone
import Highlighting.Proofs.Highlighter.Registrations
import Highlighting.Proofs.Settings.Levels

/-! What a run answers: a text, or else the first of the errors and no text. Nothing that is about
logging has a part in it. -/

namespace Highlighting

inductive Outcome.Tells (o : Outcome) : Except RunError String → Prop
  | text {text : String} (houtput : o.output = text) (herror : o.error = none)
    (hcode : o.exitCode = 0) : Tells o (.ok text)
  | error {e : RunError} (houtput : o.output = "") (herror : o.error = some e)
    (hcode : o.exitCode = 1) : Tells o (.error e)

inductive Arguments.Chooses (args : Arguments) (config : FileConfig) : Option String → Prop
  | asked {language : String} (h : args.language = some language) :
    Chooses args config (some language)
  | configured {language : String} (hargs : args.language = none)
    (h : config.language = some language) : Chooses args config (some language)
  | assembly {file extension : String} (hargs : args.language = none)
    (hconfig : config.language = none) (hfile : args.file = some file)
    (hextension : Path.extension? file = some extension)
    (h : extension.toList.map Char.toLower = ['s']) : Chooses args config (some "asm")
  | extension {file extension : String} (hargs : args.language = none)
    (hconfig : config.language = none) (hfile : args.file = some file)
    (hextension : Path.extension? file = some extension)
    (h : extension.toList.map Char.toLower ≠ ['s']) :
    Chooses args config (some (String.ofList (extension.toList.map Char.toLower)))
  | nothing (hargs : args.language = none) (hconfig : config.language = none)
    (h : ∀ file, args.file = some file → Path.extension? file = none) : Chooses args config none

inductive Arguments.Formats (args : Arguments) (config : FileConfig) : OutputFormat → Prop
  | asked {format : OutputFormat} (h : args.format = some format) : Formats args config format
  | configured {format : OutputFormat} (hargs : args.format = none)
    (h : config.format = some format) : Formats args config format
  | neither (hargs : args.format = none) (hconfig : config.format = none) :
    Formats args config .text

inductive Arguments.Writes (args : Arguments) (config : FileConfig) (out : Highlighted) :
    String → Prop
  | text (h : args.Formats config .text) : Writes args config out (Output.text out)
  | json (h : args.Formats config .json) : Writes args config out (Output.json out)
  | decorations (h : args.Formats config .decorations) : Writes args config out
    (Output.decorations (out.decorations config.highlight.mergeDecorations))

namespace Surroundings

def configFile? (world : Surroundings) (args : Arguments) : Option String :=
  args.config.or (if world.isFile "hilite.json" then some "hilite.json" else none)

inductive Configures (world : Surroundings) (args : Arguments) : Except RunError FileConfig → Prop
  | absent (h : world.configFile? args = none) : Configures world args (.ok {})
  | unreadable {path : String} {e : ReadError} (hpath : world.configFile? args = some path)
    (h : world.read path = .error e) : Configures world args (.error (.read path e))
  | unparsable {path text : String} {e : DecodeError} (hpath : world.configFile? args = some path)
    (htext : world.read path = .ok text) (h : Tree.decode FileConfig.ofTree text = .error e) :
    Configures world args (.error (.config path e))
  | parsed {path text : String} {config : FileConfig} (hpath : world.configFile? args = some path)
    (htext : world.read path = .ok text) (h : Tree.decode FileConfig.ofTree text = .ok config) :
    Configures world args (.ok config)

inductive Supplies (world : Surroundings) (args : Arguments) : Except RunError String → Prop
  | file {path source : String} (hfile : args.file = some path) (h : world.read path = .ok source) :
    Supplies world args (.ok source)
  | unreadable {path : String} {e : ReadError} (hfile : args.file = some path)
    (h : world.read path = .error e) : Supplies world args (.error (.read path e))
  | input {source : String} (hfile : args.file = none) (h : world.input = .ok source) :
    Supplies world args (.ok source)
  | noInput {e : ReadError} (hfile : args.file = none) (h : world.input = .error e) :
    Supplies world args (.error (.read "<stdin>" e))

inductive Answer (world : Surroundings) (args : Arguments) : Except RunError String → Prop
  | misconfigured {e : RunError} (h : world.Configures args (.error e)) :
    Answer world args (.error e)
  | listed {config : FileConfig} (hconfig : world.Configures args (.ok config))
    (h : args.list = true) : Answer world args (.ok "asm\natt\n")
  | noLanguage {config : FileConfig} (hconfig : world.Configures args (.ok config))
    (hlist : args.list = false) (h : args.Chooses config none) :
    Answer world args (.error .missingLanguage)
  | noSource {config : FileConfig} {language : String} {e : RunError}
    (hconfig : world.Configures args (.ok config)) (hlist : args.list = false)
    (hlanguage : args.Chooses config (some language)) (h : world.Supplies args (.error e)) :
    Answer world args (.error e)
  | unknownLanguage {config : FileConfig} {language source : String}
    (hconfig : world.Configures args (.ok config)) (hlist : args.list = false)
    (hlanguage : args.Chooses config (some language)) (hsource : world.Supplies args (.ok source))
    (h : language ∉ Assembly.aliases)
    (hfallback : ∀ fallback, config.highlight.fallbackLanguage = some fallback →
      fallback ∉ Assembly.aliases) :
    Answer world args (.error (.highlight (.registry (.unknownLanguage language))))
  | rendered {config : FileConfig} {language source : String} {highlighter : Highlighter}
    {out : Highlighted} {written : String} (hconfig : world.Configures args (.ok config))
    (hlist : args.list = false) (hlanguage : args.Chooses config (some language))
    (hsource : world.Supplies args (.ok source))
    (h : (Highlighter.withBuiltins config.highlight).value = .ok highlighter)
    (hout : (highlighter.highlight language source).value = .ok out)
    (hwritten : args.Writes config out written) : Answer world args (.ok written)

end Surroundings

namespace Outcome.Tells

variable {o o' : Outcome} {answer answer' : Except RunError String}

lemma unique (h : o.Tells answer) (h' : o.Tells answer') : answer = answer' := by
  cases h with
  | text houtput herror =>
    cases h' with
    | text houtput' => rw [← houtput, ← houtput']
    | error _ herror' => exact nomatch herror.symm.trans herror'
  | error houtput herror =>
    cases h' with
    | text _ herror' => exact nomatch herror.symm.trans herror'
    | error _ herror' => rw [Option.some.inj (herror.symm.trans herror')]

lemma same (h : o.Tells answer) (h' : o'.Tells answer) :
    o'.output = o.output ∧ o'.error = o.error ∧ o'.exitCode = o.exitCode := by
  cases h with
  | text houtput herror hcode =>
    cases h' with
    | text houtput' herror' hcode' =>
      exact ⟨houtput'.trans houtput.symm, herror'.trans herror.symm, hcode'.trans hcode.symm⟩
  | error houtput herror hcode =>
    cases h' with
    | error houtput' herror' hcode' =>
      exact ⟨houtput'.trans houtput.symm, herror'.trans herror.symm, hcode'.trans hcode.symm⟩

end Outcome.Tells

lemma ok_bind {ε α β : Type} (a : α) (f : α → Except ε β) : (Except.ok a).bind f = f a :=
  rfl

lemma error_bind {ε α β : Type} (e : ε) (f : α → Except ε β) :
    (Except.error e).bind f = .error e :=
  rfl

lemma languageOfExtension_eq (extension : String) : languageOfExtension extension =
    if extension.toList.map Char.toLower = ['s'] then "asm"
    else String.ofList (extension.toList.map Char.toLower) := by
  have h : String.ofList (extension.toList.map Char.toLower) = "s" ↔
      extension.toList.map Char.toLower = ['s'] := by
    rw [← String.toList_inj, String.toList_ofList]
    rfl
  simp only [languageOfExtension, h]

namespace Arguments

variable {args : Arguments} {config : FileConfig}

lemma Chooses.eq {language : Option String} (h : args.Chooses config language) :
    chooseLanguage args config = language := by
  unfold chooseLanguage
  cases h with
  | asked h => rw [h, Option.some_or, Option.some_or]
  | configured hargs h => rw [hargs, h, Option.none_or, Option.some_or]
  | assembly hargs hconfig hfile hextension h | extension hargs hconfig hfile hextension h =>
    simp [hargs, hconfig, hfile, hextension, languageOfExtension_eq, h]
  | nothing hargs hconfig h =>
    have hnone : args.file.bind Path.extension? = none := Option.bind_eq_none_iff.mpr h
    rw [hargs, hconfig, hnone]
    rfl

lemma exists_chooses (args : Arguments) (config : FileConfig) :
    ∃ language, args.Chooses config language := by
  cases hargs : args.language with
  | some language => exact ⟨_, .asked hargs⟩
  | none =>
    cases hconfig : config.language with
    | some language => exact ⟨_, .configured hargs hconfig⟩
    | none =>
      cases hbind : args.file.bind Path.extension? with
      | none => exact ⟨_, .nothing hargs hconfig (Option.bind_eq_none_iff.mp hbind)⟩
      | some extension =>
        obtain ⟨file, hfile, hextension⟩ := Option.bind_eq_some_iff.mp hbind
        by_cases h : extension.toList.map Char.toLower = ['s']
        · exact ⟨_, .assembly hargs hconfig hfile hextension h⟩
        · exact ⟨_, .extension hargs hconfig hfile hextension h⟩

lemma Formats.eq {format : OutputFormat} (h : args.Formats config format) :
    (args.format.or config.format).getD default = format := by
  cases h with
  | asked h => rw [h, Option.some_or, Option.getD_some]
  | configured hargs h => rw [hargs, h, Option.none_or, Option.getD_some]
  | neither hargs hconfig =>
    rw [hargs, hconfig]
    rfl

lemma exists_formats (args : Arguments) (config : FileConfig) :
    ∃ format, args.Formats config format := by
  cases hargs : args.format with
  | some format => exact ⟨_, .asked hargs⟩
  | none =>
    cases hconfig : config.format with
    | some format => exact ⟨_, .configured hargs hconfig⟩
    | none => exact ⟨_, .neither hargs hconfig⟩

lemma Writes.eq {out : Highlighted} {written : String} (h : args.Writes config out written) :
    Output.render ((args.format.or config.format).getD default) config.highlight.mergeDecorations
      out = written := by
  cases h with
  | text h | json h | decorations h =>
    rw [h.eq]
    rfl

lemma exists_writes (args : Arguments) (config : FileConfig) (out : Highlighted) :
    ∃ written, args.Writes config out written := by
  obtain ⟨format, hformat⟩ := args.exists_formats config
  cases format with
  | text => exact ⟨_, .text hformat⟩
  | json => exact ⟨_, .json hformat⟩
  | decorations => exact ⟨_, .decorations hformat⟩

end Arguments

namespace Surroundings

section Stages

variable {world : Surroundings} {args : Arguments}

lemma loadConfig_of_configFile? {path : String} (h : world.configFile? args = some path) :
    world.loadConfig args.config = world.readConfig path := by
  unfold configFile? at h
  unfold loadConfig
  cases hargs : args.config with
  | some named =>
    rw [hargs, Option.some_or] at h
    cases h
    rfl
  | none =>
    rw [hargs, Option.none_or, Option.ite_none_right_eq_some] at h
    obtain ⟨hfile, hpath⟩ := h
    cases hpath
    exact if_pos hfile

lemma loadConfig_of_configFile?_eq_none (h : world.configFile? args = none) :
    world.loadConfig args.config = .ok {} := by
  obtain ⟨hargs, hfile⟩ := Option.or_eq_none_iff.mp h
  rw [hargs]
  apply if_neg
  intro hisFile
  exact nomatch (if_pos hisFile).symm.trans hfile

lemma Configures.eq {found : Except RunError FileConfig} (h : world.Configures args found) :
    world.loadConfig args.config = found := by
  cases h with
  | absent h => exact loadConfig_of_configFile?_eq_none h
  | unreadable hpath h =>
    rw [loadConfig_of_configFile? hpath, readConfig, h]
  | unparsable hpath htext h | parsed hpath htext h =>
    simp only [loadConfig_of_configFile? hpath, readConfig, htext, h]
    rfl

lemma exists_configures (world : Surroundings) (args : Arguments) :
    ∃ found, world.Configures args found := by
  cases hpath : world.configFile? args with
  | none => exact ⟨_, .absent hpath⟩
  | some path =>
    cases htext : world.read path with
    | error e => exact ⟨_, .unreadable hpath htext⟩
    | ok text =>
      cases h : Tree.decode FileConfig.ofTree text with
      | error e => exact ⟨_, .unparsable hpath htext h⟩
      | ok config => exact ⟨_, .parsed hpath htext h⟩

lemma Supplies.eq {found : Except RunError String} (h : world.Supplies args found) :
    world.source args.file = found := by
  unfold source
  cases h with
  | file hfile h | unreadable hfile h | input hfile h | noInput hfile h =>
    rw [hfile]
    simp only [h]
    rfl

lemma exists_supplies (world : Surroundings) (args : Arguments) :
    ∃ found, world.Supplies args found := by
  cases hfile : args.file with
  | some path =>
    cases h : world.read path with
    | error e => exact ⟨_, .unreadable hfile h⟩
    | ok source => exact ⟨_, .file hfile h⟩
  | none =>
    cases h : world.input with
    | error e => exact ⟨_, .noInput hfile h⟩
    | ok source => exact ⟨_, .input hfile h⟩

end Stages

end Surroundings

namespace Assembly

def registry : Registry :=
  (Registry.empty.bind "asm" table.handler).bind "att" table.handler

lemma names_registry : registry.names = ["asm", "att"] := by
  have hsorted : ["asm", "att"].Pairwise fun a b => decide (a ≤ b) = true := by decide
  exact List.mergeSort_of_pairwise hsorted

lemma get?_registry (name : String) :
    registry.get? name = if name ∈ aliases then some table.handler else none := by
  have hbound : (Registry.empty.bind "asm" table.handler).get? name =
      if name = "asm" then some table.handler else none := Registry.get?_bind name rfl
  have hatt : (Registry.empty.bind "asm" table.handler).get? "att" = none := rfl
  rw [registry, Registry.get?_bind name hatt, hbound]
  by_cases hname : name = "att"
  · simp [aliases, hname]
  · simp [aliases, hname]

lemma withBuiltins_value_eq (config : HighlightConfig) :
    (Highlighter.withBuiltins config).value = .ok ⟨registry, config⟩ := by
  rw [Highlighter.withBuiltins_value, Highlighter.register_eq]
  rfl

lemma server?_eq_none_iff (config : HighlightConfig) (language : String) :
    (⟨registry, config⟩ : Highlighter).server? language = none ↔ language ∉ aliases ∧
      ∀ fallback, config.fallbackLanguage = some fallback → fallback ∉ aliases := by
  simp only [Highlighter.server?, Option.or_eq_none_iff, Option.bind_eq_none_iff, get?_registry,
    ite_eq_right_iff, reduceCtorEq, imp_false]

end Assembly

namespace Surroundings

variable (world : Surroundings) (args : Arguments)

def result : Except RunError String :=
  (world.loadConfig args.config).bind fun config => (world.work args config).value

section Load

variable {world args} {config : FileConfig}

lemma result_of_loadConfig (h : world.loadConfig args.config = .ok config) :
    world.result args = (world.work args config).value := by
  rw [result, h, ok_bind]

lemma result_of_loadConfig_error {e : RunError} (h : world.loadConfig args.config = .error e) :
    world.result args = .error e := by
  rw [result, h, error_bind]

lemma run_of_loadConfig_error {e : RunError} (h : world.loadConfig args.config = .error e) :
    world.run args = ⟨"", [], args.logJson, some e⟩ := by
  rw [run, h]

lemma tells_of_work {work : FileConfig → Logged (Except RunError String)}
    (h : world.loadConfig args.config = .ok config) (hwork : world.work args = work) :
    (world.run args).Tells (work config).value := by
  -- Only what the work comes to counts; under its own name it would be unfolded.
  rw [run, h, hwork]
  dsimp only
  cases (work config).value with
  | error e => exact .error rfl rfl rfl
  | ok text => exact .text rfl rfl rfl

end Load

lemma tells_result : (world.run args).Tells (world.result args) := by
  cases hload : world.loadConfig args.config with
  | error e =>
    rw [run_of_loadConfig_error hload, result_of_loadConfig_error hload]
    exact .error rfl rfl rfl
  | ok config =>
    rw [result_of_loadConfig hload]
    exact tells_of_work hload rfl

lemma work_value (config : FileConfig) : (world.work args config).value =
    if args.list then .ok "asm\natt\n"
    else (world.highlight args config ⟨Assembly.registry, config.highlight⟩).value := by
  have hlist : String.join (Assembly.registry.names.map (· ++ "\n")) = "asm\natt\n" := by
    rw [Assembly.names_registry]
    decide
  have hbuilt := Assembly.withBuiltins_value_eq config.highlight
  unfold work
  generalize Highlighter.withBuiltins config.highlight = built at hbuilt ⊢
  obtain ⟨value, events⟩ := built
  cases hbuilt
  rw [← hlist]
  cases args.list <;> rfl

section Highlight

variable {world : Surroundings} {args : Arguments} {config : FileConfig} {h : Highlighter}
  {language source : String}

lemma highlight_of_noLanguage (hlanguage : args.Chooses config none) :
    (world.highlight args config h).value = .error .missingLanguage := by
  rw [highlight, hlanguage.eq]
  rfl

lemma highlight_of_noSource {e : RunError} (hlanguage : args.Chooses config (some language))
    (hsource : world.Supplies args (.error e)) :
    (world.highlight args config h).value = .error e := by
  rw [highlight, hlanguage.eq]
  simp only [hsource.eq]
  rfl

lemma highlight_of_server?_eq_none (hlanguage : args.Chooses config (some language))
    (hsource : world.Supplies args (.ok source)) (hserver : h.server? language = none) :
    (world.highlight args config h).value =
      .error (.highlight (.registry (.unknownLanguage language))) := by
  rw [highlight, hlanguage.eq]
  simp only [hsource.eq]
  rw [Highlighter.highlight_of_server?_eq_none source hserver]
  rfl

lemma highlight_of_ok {out : Highlighted} {written : String}
    (hlanguage : args.Chooses config (some language)) (hsource : world.Supplies args (.ok source))
    (hout : (h.highlight language source).value = .ok out) (hconfig : h.config = config.highlight)
    (hwritten : args.Writes config out written) :
    (world.highlight args config h).value = .ok written := by
  rw [← hwritten.eq, ← hconfig, highlight, hlanguage.eq]
  simp only [hsource.eq]
  generalize h.highlight language source = found at hout ⊢
  obtain ⟨value, events⟩ := found
  cases hout
  rfl

end Highlight

section Answers

variable {world args} {config : FileConfig}

lemma result_of_list (hconfig : world.Configures args (.ok config)) (hlist : args.list = true) :
    world.result args = .ok "asm\natt\n" := by
  rw [result_of_loadConfig hconfig.eq, work_value, hlist, if_pos rfl]

lemma result_of_highlight (hconfig : world.Configures args (.ok config))
    (hlist : args.list = false) : world.result args =
      (world.highlight args config ⟨Assembly.registry, config.highlight⟩).value := by
  rw [result_of_loadConfig hconfig.eq, work_value, hlist, if_neg Bool.false_ne_true]

lemma Answer.eq {answer : Except RunError String} (h : world.Answer args answer) :
    world.result args = answer := by
  cases h with
  | misconfigured h => exact result_of_loadConfig_error h.eq
  | listed hconfig h => exact result_of_list hconfig h
  | noLanguage hconfig hlist h =>
    exact (result_of_highlight hconfig hlist).trans (highlight_of_noLanguage h)
  | noSource hconfig hlist hlanguage h =>
    exact (result_of_highlight hconfig hlist).trans (highlight_of_noSource hlanguage h)
  | unknownLanguage hconfig hlist hlanguage hsource h hfallback =>
    apply (result_of_highlight hconfig hlist).trans
    apply highlight_of_server?_eq_none hlanguage hsource
    exact (Assembly.server?_eq_none_iff _ _).mpr ⟨h, hfallback⟩
  | rendered hconfig hlist hlanguage hsource h hout hwritten =>
    obtain rfl := Except.ok.inj ((Assembly.withBuiltins_value_eq _).symm.trans h)
    apply (result_of_highlight hconfig hlist).trans
    exact highlight_of_ok hlanguage hsource hout rfl hwritten

lemma exists_answer (world : Surroundings) (args : Arguments) :
    ∃ answer, world.Answer args answer := by
  obtain ⟨e | config, hconfig⟩ := exists_configures world args
  · exact ⟨_, .misconfigured hconfig⟩
  cases hlist : args.list with
  | true => exact ⟨_, .listed hconfig hlist⟩
  | false =>
    obtain ⟨_ | language, hlanguage⟩ := Arguments.exists_chooses args config
    · exact ⟨_, .noLanguage hconfig hlist hlanguage⟩
    obtain ⟨e | source, hsource⟩ := exists_supplies world args
    · exact ⟨_, .noSource hconfig hlist hlanguage hsource⟩
    have hbuilt := Assembly.withBuiltins_value_eq config.highlight
    cases hserver : (⟨Assembly.registry, config.highlight⟩ : Highlighter).server? language with
    | none =>
      obtain ⟨hunknown, hfallback⟩ := (Assembly.server?_eq_none_iff _ _).mp hserver
      exact ⟨_, .unknownLanguage hconfig hlist hlanguage hsource hunknown hfallback⟩
    | some handler =>
      have hout := Highlighter.highlight_of_server? source hserver
      obtain ⟨written, hwritten⟩ := args.exists_writes config _
      exact ⟨_, .rendered hconfig hlist hlanguage hsource hbuilt hout hwritten⟩

lemma answer_iff_tells (world : Surroundings) (args : Arguments)
    (answer : Except RunError String) :
    world.Answer args answer ↔ (world.run args).Tells answer := by
  have htells := world.tells_result args
  constructor
  · intro h
    rwa [← h.eq]
  · intro h
    obtain ⟨answer', h'⟩ := exists_answer world args
    rwa [h.unique htells, h'.eq]

end Answers

/-- Two runs that differ in what they log, and perhaps in the settings of a file that say so. -/
structure SameButLevels (world world' : Surroundings) (args args' : Arguments) : Prop where
  file : args'.file = args.file
  language : args'.language = args.language
  format : args'.format = args.format
  list : args'.list = args.list
  config : (world'.loadConfig args'.config).map FileConfig.withoutLevels =
    (world.loadConfig args.config).map FileConfig.withoutLevels
  source : world'.source args'.file = world.source args.file

lemma eq_or_of_map_eq {ε α β : Type} {f : α → β} {x y : Except ε α} (h : x.map f = y.map f) :
    (∃ e, x = .error e ∧ y = .error e) ∨ ∃ a b, x = .ok a ∧ y = .ok b ∧ f a = f b := by
  cases x with
  | error e =>
    cases y with
    | error e' => exact Or.inl ⟨e, rfl, congrArg Except.error (Except.error.inj h).symm⟩
    | ok b => exact nomatch h
  | ok a =>
    cases y with
    | error e => exact nomatch h
    | ok b => exact Or.inr ⟨a, b, rfl, rfl, Except.ok.inj h⟩

namespace SameButLevels

variable {world world' : Surroundings} {args args' : Arguments}

lemma work_value_eq (h : SameButLevels world world' args args') {config config' : FileConfig}
    (hconfig : config'.withoutLevels = config.withoutLevels) :
    (world'.work args' config').value = (world.work args config).value := by
  have hlanguage : config'.language = config.language := by
    simpa using congrArg FileConfig.language hconfig
  have hformat : config'.format = config.format := by
    simpa using congrArg FileConfig.format hconfig
  have hhighlight : config'.highlight = config.highlight := by
    simpa using congrArg FileConfig.highlight hconfig
  have hchoice : chooseLanguage args' config' = chooseLanguage args config := by
    rw [chooseLanguage, h.language, hlanguage, h.file]
    rfl
  rw [work_value, work_value, h.list, hhighlight, highlight, highlight, hchoice, h.source, h.format,
    hformat]

lemma result_eq (h : SameButLevels world world' args args') :
    world'.result args' = world.result args := by
  rcases eq_or_of_map_eq h.config with ⟨e, he', he⟩ | ⟨config', config, hok', hok, hconfig⟩
  · rw [result_of_loadConfig_error he', result_of_loadConfig_error he]
  · rw [result_of_loadConfig hok', result_of_loadConfig hok, h.work_value_eq hconfig]

end SameButLevels

lemma readConfig_relevelled {world world' : Surroundings} {path text text' : String}
    (h : world.read path = .ok text) (h' : world'.read path = .ok text')
    (htexts : FileConfig.Relevelled text text') :
    (world'.readConfig path).map FileConfig.withoutLevels =
      (world.readConfig path).map FileConfig.withoutLevels := by
  simp only [readConfig, h, h']
  rcases eq_or_of_map_eq htexts.decode_eq with ⟨e, he', he⟩ | ⟨config', config, hok', hok, hconfig⟩
  · rw [he', he]
  · rw [hok', hok]
    exact congrArg Except.ok hconfig

theorem run_tells :
    (∀ (world : Surroundings) (args : Arguments), (∃ answer, world.Answer args answer) ∧
      ∀ answer, world.Answer args answer ↔ (world.run args).Tells answer) ∧
    (∀ world world' args args', SameButLevels world world' args args' →
      (world'.run args').output = (world.run args).output ∧
        (world'.run args').error = (world.run args).error ∧
        (world'.run args').exitCode = (world.run args).exitCode) ∧
    ∀ (world world' : Surroundings) (path text text' : String), world.read path = .ok text →
      world'.read path = .ok text' → FileConfig.Relevelled text text' →
      (world'.readConfig path).map FileConfig.withoutLevels =
        (world.readConfig path).map FileConfig.withoutLevels := by
  refine ⟨fun world args => ⟨exists_answer world args, answer_iff_tells world args⟩, ?_,
    fun world world' path text text' => readConfig_relevelled⟩
  intro world world' args args' h
  have htells := world'.tells_result args'
  rw [h.result_eq] at htells
  exact (world.tells_result args).same htells

def configuredBy (text : String) : Surroundings where
  read path := if path = "hilite.json" then .ok text else .error .notFound
  isFile path := path == "hilite.json"
  input := .ok "ret"

theorem run_tells_relevelled :
    let text := "\x7b\"language\":\"att\",\"log_level\":\"trace\"\x7d"
    let text' := "\x7b\"log\":\x7b\"lexer\":\"debug\"\x7d,\"language\":\"att\"\x7d"
    let world := configuredBy text
    let world' := configuredBy text'
    let args : Arguments := {}
    let args' : Arguments := { logLevel := some .error, logJson := true }
    FileConfig.Relevelled text text' ∧ SameButLevels world world' args args' ∧
      (world.run args).Tells (.ok "1:1\tkwd\t\"ret\"\n") ∧
      (world'.run args').output = (world.run args).output ∧
      (world'.run args').error = (world.run args).error ∧
      (world'.run args').exitCode = (world.run args).exitCode := by
  intro text text' world world' args args'
  have htext : Tree.ofText text.toList = (.object [(some "language", .string (some "att")),
      (some "log_level", .string (some "trace"))] .closed, []) := by
    simp only [text, String.reduceToList]
    rfl
  have htext' : Tree.ofText text'.toList = (.object
      [(some "log", .object [(some "lexer", .string (some "debug"))] .closed),
        (some "language", .string (some "att"))] .closed, []) := by
    simp only [text', String.reduceToList]
    rfl
  have htexts : FileConfig.Relevelled text text' := by
    refine ⟨_, _, _, _, _, htext, htext', ?_, ?_, rfl, rfl⟩
    · refine ⟨by decide, fun t ht => ?_, fun t ht => ?_⟩
      · obtain rfl : t = .string (some "trace") := by simpa using ht
        exact ⟨some .trace, rfl⟩
      · exact absurd ht (by simp)
    · refine ⟨by decide, fun t ht => ?_, fun t ht => ?_⟩
      · exact absurd ht (by simp)
      · obtain rfl : t = .object [(some "lexer", .string (some "debug"))] .closed := by
          simpa using ht
        exact ⟨{ lexer := some .debug }, rfl⟩
  have hlevels : SameButLevels world world' args args' := by
    refine ⟨rfl, rfl, rfl, rfl, ?_, rfl⟩
    exact run_tells.2.2 world world' "hilite.json" text text' rfl rfl htexts
  have hconfig : Tree.decode FileConfig.ofTree text =
      .ok { language := some "att", logLevel := some .trace } := by
    rw [Tree.decode, htext]
    rfl
  have hserver : (⟨Assembly.registry, {}⟩ : Highlighter).server? "att" =
      some Assembly.table.handler := by
    rw [Highlighter.server?, Assembly.get?_registry]
    rfl
  have hout := Highlighter.highlight_of_server? "ret" hserver
  have htokens : (Assembly.table.handler.tokenize "ret").value =
      [Token.startingAt .start .keyword ['r', 'e', 't']] := Assembly.tokenize_of_scan (by decide)
  rw [htokens] at hout
  have hanswer : world.Answer args (.ok "1:1\tkwd\t\"ret\"\n") :=
    .rendered (.parsed rfl rfl hconfig) rfl (.configured rfl rfl) (.input rfl rfl)
      (Assembly.withBuiltins_value_eq {}) hout (.text (.neither rfl rfl))
  refine ⟨htexts, hlevels, ?_, run_tells.2.1 world world' args args' hlevels⟩
  exact ((run_tells.1 world args).2 _).mp hanswer

end Surroundings

end Highlighting
