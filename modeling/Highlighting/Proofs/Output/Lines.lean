import Highlighting.Output
import Highlighting.Proofs.Lexer.Partition
import Highlighting.Proofs.Text.Unquoting

namespace Highlighting

lemma Category.ofClassName?_className (c : Category) : ofClassName? c.className = some c := by
  cases c <;> rfl

lemma Category.not_mem_className {x : Char} (hx : x ∈ ['\t', '\n']) (c : Category) :
    x ∉ c.className.toList := by
  have hplain : c.className.toList.all (· ∉ ['\t', '\n']) = true := by cases c <;> rfl
  exact fun hmem => of_decide_eq_true (List.all_eq_true.mp hplain x hmem) hx

namespace Output

section Lines

variable {α β : Type}

def HasLines (n : Nat) (text : String) : Prop :=
  ∃ lines : List (List Char), lines.length = n ∧ (∀ line ∈ lines, '\n' ∉ line) ∧
    text.toList = lines.flatMap (· ++ ['\n'])

def readLines? (read? : List Char → Option α) (text : String) : Option (List α) :=
  (text.toList.splitOn '\n').dropLast.mapM read?

def joinLines (write : β → List Char) (items : List β) : String :=
  String.join (items.map fun b => String.ofList (write b ++ ['\n']))

lemma toList_joinLines (write : β → List Char) (items : List β) :
    (joinLines write items).toList = (items.map write).flatMap (· ++ ['\n']) := by
  rw [joinLines, String.toList_join, List.flatMap_map, List.flatMap_map]
  exact List.flatMap_congr fun b _ => String.toList_ofList

lemma splitOn_flatMap {lines : List (List Char)} (h : ∀ line ∈ lines, '\n' ∉ line) :
    (lines.flatMap (· ++ ['\n'])).splitOn '\n' = lines ++ [[]] := by
  induction lines with
  | nil => rfl
  | cons line lines ih =>
    obtain ⟨hline, hlines⟩ := List.forall_mem_cons.mp h
    rw [List.flatMap_cons, List.append_assoc, List.singleton_append,
      List.splitOn_append_cons_self_of_not_mem hline, ih hlines, List.cons_append]

variable {write : β → List Char}

lemma hasLines_joinLines (hwrite : ∀ b, '\n' ∉ write b) (items : List β) :
    HasLines items.length (joinLines write items) := by
  refine ⟨items.map write, List.length_map _, ?_, toList_joinLines write items⟩
  simpa using fun b _ => hwrite b

lemma readLines?_joinLines {read? : List Char → Option α} {view : β → α}
    (hwrite : ∀ b, '\n' ∉ write b) (hread : ∀ b, read? (write b) = some (view b))
    (items : List β) : readLines? read? (joinLines write items) = some (items.map view) := by
  rw [readLines?, toList_joinLines, splitOn_flatMap (by simpa using fun b _ => hwrite b),
    List.dropLast_concat, List.mapM_map]
  have hcomp : read? ∘ write = fun b => pure (view b) := funext hread
  rw [hcomp, List.mapM_pure]
  rfl

end Lines

structure TokenLine where
  line : Nat
  column : Nat
  category : Category
  text : String
  deriving DecidableEq, Repr

def TokenLine.ofToken (t : Token) : TokenLine :=
  ⟨t.span.start.line, t.span.start.column, t.category, t.text⟩

def readToken? (line : List Char) : Option TokenLine :=
  match line.splitOn '\t' with
  | [place, name, quoted] =>
    match place.splitOn ':' with
    | [line, column] => do
      let category ← Category.ofClassName? (String.ofList name)
      let text ← Quoted.decode? quoted
      return ⟨← natural? line, ← natural? column, category, String.ofList text⟩
    | _ => none
  | _ => none

def readDecoration? (line : List Char) : Option Decoration :=
  match line.splitOn '\t' with
  | [offset, name] => do
    return ⟨← natural? offset, ← Category.ofClassName? (String.ofList name)⟩
  | _ => none

def placeFields (p : Position) : List Char :=
  (toString p.line).toList ++ ':' :: (toString p.column).toList

def tokenFields (t : Token) : List Char :=
  placeFields t.span.start ++ '\t' :: (t.category.className.toList ++
    '\t' :: Quoted.encode t.text.toList)

def decorationFields (d : Decoration) : List Char :=
  (toString d.offset).toList ++ '\t' :: d.category.className.toList

lemma text_eq_joinLines (h : Highlighted) : text h = joinLines tokenFields h.tokens := by
  refine congrArg String.join (List.map_congr_left fun t _ => String.toList_injective ?_)
  have hcolon : ":".toList = [':'] := rfl
  have htab : "\t".toList = ['\t'] := rfl
  have hfeed : "\n".toList = ['\n'] := rfl
  simp only [tokenLine, quote, tokenFields, placeFields, String.toList_append, String.toList_ofList,
    hcolon, htab, hfeed, List.append_assoc, List.cons_append, List.nil_append]

lemma decorations_eq_joinLines (ds : List Decoration) :
    decorations ds = joinLines decorationFields ds := by
  refine congrArg String.join (List.map_congr_left fun d _ => String.toList_injective ?_)
  have htab : "\t".toList = ['\t'] := rfl
  have hfeed : "\n".toList = ['\n'] := rfl
  simp only [decorationLine, decorationFields, String.toList_append, String.toList_ofList, htab,
    hfeed, List.append_assoc, List.cons_append, List.nil_append]

lemma not_mem_placeFields {x : Char} (hx : x ∈ ['\t', '\n']) (p : Position) :
    x ∉ placeFields p := by
  have hdigit : x.isDigit = false := by
    rcases List.mem_pair.mp hx with rfl | rfl <;> rfl
  have hcolon : x ≠ ':' := by
    rintro rfl
    exact absurd hx (by decide)
  rw [placeFields, List.mem_append, List.mem_cons, not_or, not_or]
  exact ⟨not_mem_toString hdigit _, hcolon, not_mem_toString hdigit _⟩

lemma feed_not_mem_tokenFields (t : Token) : '\n' ∉ tokenFields t := by
  have hfeed : '\n' ∈ ['\t', '\n'] := by decide
  simp only [tokenFields, List.mem_append, List.mem_cons, not_or]
  exact ⟨not_mem_placeFields hfeed _, by decide, t.category.not_mem_className hfeed, by decide,
    Quoted.not_mem_encode hfeed _⟩

lemma feed_not_mem_decorationFields (d : Decoration) : '\n' ∉ decorationFields d := by
  simp only [decorationFields, List.mem_append, List.mem_cons, not_or]
  exact ⟨not_mem_toString rfl _, by decide, d.category.not_mem_className (by decide)⟩

lemma readToken?_tokenFields (t : Token) :
    readToken? (tokenFields t) = some (TokenLine.ofToken t) := by
  have htab : '\t' ∈ ['\t', '\n'] := by decide
  have hfields : (tokenFields t).splitOn '\t' = [placeFields t.span.start,
      t.category.className.toList, Quoted.encode t.text.toList] := by
    rw [tokenFields, List.splitOn_append_cons_self_of_not_mem (not_mem_placeFields htab _),
      List.splitOn_append_cons_self_of_not_mem (t.category.not_mem_className htab),
      List.splitOn_eq_singleton (Quoted.not_mem_encode htab _)]
  have hplace : (placeFields t.span.start).splitOn ':' =
      [(toString t.span.start.line).toList, (toString t.span.start.column).toList] := by
    rw [placeFields, List.splitOn_append_cons_self_of_not_mem (not_mem_toString rfl _),
      List.splitOn_eq_singleton (not_mem_toString rfl _)]
  simp only [readToken?, hfields, hplace, String.ofList_toList, natural?_toString,
    Category.ofClassName?_className, Quoted.decode?_encode, Option.bind_eq_bind, Option.bind_some]
  rfl

lemma readDecoration?_decorationFields (d : Decoration) :
    readDecoration? (decorationFields d) = some d := by
  have htab : '\t' ∈ ['\t', '\n'] := by decide
  have hfields : (decorationFields d).splitOn '\t' =
      [(toString d.offset).toList, d.category.className.toList] := by
    rw [decorationFields, List.splitOn_append_cons_self_of_not_mem (not_mem_toString rfl _),
      List.splitOn_eq_singleton (d.category.not_mem_className htab)]
  simp only [readDecoration?, hfields, String.ofList_toList, natural?_toString,
    Category.ofClassName?_className, Option.bind_eq_bind, Option.bind_some]
  rfl

lemma readLines?_text (h : Highlighted) :
    readLines? readToken? (text h) = some (h.tokens.map TokenLine.ofToken) := by
  rw [text_eq_joinLines]
  exact readLines?_joinLines feed_not_mem_tokenFields readToken?_tokenFields h.tokens

lemma readLines?_decorations (ds : List Decoration) :
    readLines? readDecoration? (decorations ds) = some ds := by
  have hread : readLines? readDecoration? (joinLines decorationFields ds) = some (ds.map id) :=
    readLines?_joinLines feed_not_mem_decorationFields readDecoration?_decorationFields ds
  rw [decorations_eq_joinLines, hread, List.map_id]

lemma tokenLines_eq_of_text_eq {h h' : Highlighted} (htext : text h = text h') :
    h.tokens.map TokenLine.ofToken = h'.tokens.map TokenLine.ofToken := by
  apply Option.some.inj
  rw [← readLines?_text, ← readLines?_text, htext]

lemma concatText_eq_of_text_eq {h h' : Highlighted} (htext : text h = text h') :
    Token.concatText h.tokens = Token.concatText h'.tokens := by
  have htexts := congrArg (List.map TokenLine.text) (tokenLines_eq_of_text_eq htext)
  rw [List.map_map, List.map_map] at htexts
  exact congrArg String.join htexts

theorem readLines?_text_and_decorations :
    (∀ h : Highlighted, HasLines h.tokens.length (text h) ∧
      readLines? readToken? (text h) = some (h.tokens.map TokenLine.ofToken)) ∧
    (∀ h h' : Highlighted, text h = text h' →
      h.tokens.map TokenLine.ofToken = h'.tokens.map TokenLine.ofToken) ∧
    (∀ (lexer : Lexer) (language language' source source' : String),
      text ⟨language, lexer.name, (lexer.tokenize source).value⟩ =
        text ⟨language', lexer.name, (lexer.tokenize source').value⟩ → source = source') ∧
    (∀ ds : List Decoration, HasLines ds.length (decorations ds) ∧
      readLines? readDecoration? (decorations ds) = some ds) ∧
    ∀ ds ds' : List Decoration, decorations ds = decorations ds' → ds = ds' := by
  refine ⟨fun h => ⟨?_, readLines?_text h⟩, fun h h' => tokenLines_eq_of_text_eq, ?_,
    fun ds => ⟨?_, readLines?_decorations ds⟩, ?_⟩
  · rw [text_eq_joinLines]
    exact hasLines_joinLines feed_not_mem_tokenFields h.tokens
  · intro lexer language language' source source' htext
    have hconcat := concatText_eq_of_text_eq htext
    rwa [(lexer.run_tokenize source).partition.concatText_eq,
      (lexer.run_tokenize source').partition.concatText_eq] at hconcat
  · rw [decorations_eq_joinLines]
    exact hasLines_joinLines feed_not_mem_decorationFields ds
  · intro ds ds' heq
    apply Option.some.inj
    rw [← readLines?_decorations, ← readLines?_decorations, heq]

theorem readLines?_text_and_decorations_tab :
    let t := Token.startingAt ⟨1, 1, 0, 0⟩ .plain ['\t', '"']
    let t' := Token.startingAt ⟨1, 1, 5, 5⟩ .plain ['\t', '"']
    let lexer := Lexer.withoutRules "bare"
    text ⟨"asm", "asm", [t]⟩ = text ⟨"att", "asm", [t']⟩ ∧
      [t].map TokenLine.ofToken = [t'].map TokenLine.ofToken ∧
      text ⟨"asm", lexer.name, (lexer.tokenize "nop").value⟩ =
        text ⟨"att", lexer.name, (lexer.tokenize "nop").value⟩ ∧ "nop" = "nop" ∧
      decorations [⟨0, .plain⟩] = decorations [⟨0, .plain⟩] ∧
      [(⟨0, .plain⟩ : Decoration)] = [⟨0, .plain⟩] := by
  intro t t' lexer
  obtain ⟨-, hlines, hsource, -, hdecorations⟩ := readLines?_text_and_decorations
  have htext : text ⟨"asm", "asm", [t]⟩ = text ⟨"att", "asm", [t']⟩ := rfl
  exact ⟨htext, hlines _ _ htext, rfl, hsource lexer "asm" "att" _ _ rfl, rfl,
    hdecorations _ _ rfl⟩

end Output

end Highlighting
