import Highlighting.Output
import Highlighting.Proofs.Json.Reading
import Highlighting.Proofs.Lexer.Partition

namespace Highlighting

namespace Json

def member? (key : String) : Json → Option Json
  | object members => (members.find? (·.1 == key)).map Prod.snd
  | _ => none

def natural? : Json → Option Nat
  | number n => some n
  | _ => none

def string? : Json → Option String
  | string s => some s
  | _ => none

def items? : Json → Option (List Json)
  | array items => some items
  | _ => none

end Json

namespace Category

def snakeCase (name : String) : String :=
  match name.toList with
  | [] => ""
  | c :: cs =>
    String.ofList (c.toLower :: cs.flatMap fun c => if c.isUpper then ['_', c.toLower] else [c])

lemma snakeCase_label (c : Category) : snakeCase c.label = c.jsonName := by
  cases c <;> rfl

def ofSnakeCase? (name : String) : Option Category :=
  all.find? fun c => snakeCase c.label == name

lemma ofSnakeCase?_jsonName (c : Category) : ofSnakeCase? c.jsonName = some c := by
  simp only [ofSnakeCase?, snakeCase_label]
  cases c <;> rfl

end Category

def Position.ofJson? (j : Json) : Option Position := do
  return {
    line := ← (← j.member? "line").natural?
    column := ← (← j.member? "column").natural?
    byteOffset := ← (← j.member? "byte_offset").natural?
    utf16Column := ← (← j.member? "utf16_column").natural? }

def Span.ofJson? (j : Json) : Option Span := do
  return {
    start := ← Position.ofJson? (← j.member? "start")
    stop := ← Position.ofJson? (← j.member? "end") }

def Token.ofJson? (j : Json) : Option Token := do
  return {
    category := ← Category.ofSnakeCase? (← (← j.member? "category").string?)
    text := ← (← j.member? "text").string?
    span := ← Span.ofJson? (← j.member? "span") }

def Highlighted.ofJson? (j : Json) : Option Highlighted := do
  return {
    language := ← (← j.member? "language").string?
    handler := ← (← j.member? "handler").string?
    tokens := ← (← (← j.member? "tokens").items?).mapM Token.ofJson? }

lemma Position.ofJson?_toJson (p : Position) : ofJson? p.toJson = some p :=
  rfl

lemma Span.ofJson?_toJson (s : Span) : ofJson? s.toJson = some s :=
  rfl

lemma Token.ofJson?_toJson (t : Token) : ofJson? t.toJson = some t := by
  have hcategory : t.toJson.member? "category" = some (.string t.category.jsonName) := rfl
  have htext : t.toJson.member? "text" = some (.string t.text) := rfl
  have hspan : t.toJson.member? "span" = some t.span.toJson := rfl
  simp only [ofJson?, hcategory, htext, hspan, Json.string?, Category.ofSnakeCase?_jsonName,
    Span.ofJson?_toJson, Option.bind_eq_bind, Option.bind_some, Option.pure_def]

lemma Highlighted.ofJson?_toJson (h : Highlighted) : ofJson? h.toJson = some h := by
  have hlanguage : h.toJson.member? "language" = some (.string h.language) := rfl
  have hhandler : h.toJson.member? "handler" = some (.string h.handler) := rfl
  have htokens : h.toJson.member? "tokens" = some (.array (h.tokens.map Token.toJson)) := rfl
  have hread : (h.tokens.map Token.toJson).mapM Token.ofJson? = some h.tokens := by
    have hcomp : Token.ofJson? ∘ Token.toJson = pure := funext Token.ofJson?_toJson
    rw [List.mapM_map, hcomp, List.mapM_pure, List.map_id']
    rfl
  simp only [ofJson?, hlanguage, hhandler, htokens, hread, Json.string?, Json.items?,
    Option.bind_eq_bind, Option.bind_some, Option.pure_def]

namespace Output

def readJson? (text : String) : Option Highlighted :=
  Json.ofText? text >>= Highlighted.ofJson?

lemma ofText?_json (h : Highlighted) : Json.ofText? (json h) = some h.toJson :=
  Json.ofText?_of_written (Json.written_pretty 0 h.toJson) (Json.Blanks.newLine 0)

lemma readJson?_eq (h : Highlighted) : readJson? (json h) = some h := by
  rw [readJson?, ofText?_json]
  exact h.ofJson?_toJson

theorem readJson?_json :
    (∀ h : Highlighted,
      (∃ members text, json h = String.ofList (text ++ ['\n']) ∧
        Json.Written (.value (.object members)) text ∧
        Json.ofText? (json h) = some (.object members)) ∧
      readJson? (json h) = some h) ∧
    ∀ (lexer : Lexer) (language handler source : String),
      (readJson? (json ⟨language, handler, (lexer.tokenize source).value⟩)).map
        (Token.concatText ·.tokens) = some source := by
  constructor
  · intro h
    refine ⟨⟨_, h.toJson.pretty 0, rfl, ?_, ofText?_json h⟩, readJson?_eq h⟩
    exact Json.written_pretty 0 h.toJson
  · intro lexer language handler source
    rw [readJson?_eq, Option.map_some, (lexer.run_tokenize source).partition.concatText_eq]

end Output

end Highlighting
