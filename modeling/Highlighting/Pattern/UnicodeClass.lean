import Highlighting.Pattern.CharSet
import Highlighting.Text.AgeTable
import Highlighting.Text.BreakTable
import Highlighting.Text.ScriptTable

/-!
The classes of characters that patterns name by a Unicode property. A name alone is that of a
property that characters have or have not, of a general category or of a script; behind the name of
another property stands a value of it.
-/

namespace Highlighting.UnicodeClass

open Property
open CharSet (unionOf)

def ofText (text : String) : CharSet :=
  .runs (CodeRun.ofText text)

def separators : List CodeRun :=
  spaceSeparators ++ lineSeparators ++ paragraphSeparators

def unassigned : CharSet :=
  .complement (.runs (letters ++ marks ++ numbers ++ punctuation ++ symbols ++ separators ++
    controls ++ formats ++ privateUse))

def categories : List (List String × CharSet) := [
  (["any"], .complement .empty),
  (["ascii"], .ascii .ascii),
  (["assigned"], .complement unassigned),
  (["c", "other"], .union (.runs (controls ++ formats ++ privateUse)) unassigned),
  (["cc", "control", "cntrl"], .runs controls),
  (["cf", "format"], .runs formats),
  (["cn", "unassigned"], unassigned),
  (["co", "privateuse"], .runs privateUse),
  (["l", "letter"], .runs letters),
  (["lc", "casedletter"], .runs (uppercaseLetters ++ lowercaseLetters ++ titlecaseLetters)),
  (["ll", "lowercaseletter"], .runs lowercaseLetters),
  (["lm", "modifierletter"], .runs modifierLetters),
  (["lo", "otherletter"], .runs otherLetters),
  (["lt", "titlecaseletter"], .runs titlecaseLetters),
  (["lu", "uppercaseletter"], .runs uppercaseLetters),
  (["m", "mark", "combiningmark"], .runs marks),
  (["mc", "spacingmark"], .runs spacingMarks),
  (["me", "enclosingmark"], .runs enclosingMarks),
  (["mn", "nonspacingmark"], .runs nonspacingMarks),
  (["n", "number"], .runs numbers),
  (["nd", "decimalnumber", "digit"], .runs decimalNumbers),
  (["nl", "letternumber"], .runs letterNumbers),
  (["no", "othernumber"], .runs otherNumbers),
  (["p", "punctuation", "punct"], .runs punctuation),
  (["pc", "connectorpunctuation"], .runs connectors),
  (["pd", "dashpunctuation"], .runs dashes),
  (["pe", "closepunctuation"], .runs closePunctuation),
  (["pf", "finalpunctuation"], .runs finalPunctuation),
  (["pi", "initialpunctuation"], .runs initialPunctuation),
  (["po", "otherpunctuation"], .runs otherPunctuation),
  (["ps", "openpunctuation"], .runs openPunctuation),
  (["s", "symbol"], .runs symbols),
  (["sc", "currencysymbol"], .runs currencySymbols),
  (["sk", "modifiersymbol"], .runs modifierSymbols),
  (["sm", "mathsymbol"], .runs mathSymbols),
  (["so", "othersymbol"], .runs otherSymbols),
  (["z", "separator"], .runs separators),
  (["zl", "lineseparator"], .runs lineSeparators),
  (["zp", "paragraphseparator"], .runs paragraphSeparators),
  (["zs", "spaceseparator"], .runs spaceSeparators)]

def scriptClasses : List (List String × CharSet) :=
  (["zyyy", "common"], .runs (common ++ commonElsewhere)) ::
    (["zinh", "inherited", "qaai"], .runs (inherited ++ inheritedElsewhere)) ::
    scripts.map fun s => (s.names, .runs s.runs)

def scriptExtensions : List (List String × CharSet) :=
  (["zyyy", "common"], .runs common) :: (["zinh", "inherited", "qaai"], .runs inherited) ::
    scripts.map fun s => (s.names, .runs (s.runs ++ s.added))

def lowercase : CharSet :=
  .runs (lowercaseLetters ++ otherLowercase)

def uppercase : CharSet :=
  .runs (uppercaseLetters ++ otherUppercase)

def graphemeExtend : CharSet :=
  .runs (nonspacingMarks ++ enclosingMarks ++ otherGraphemeExtend)

def graphemeBase : CharSet :=
  .complement (unionOf [graphemeExtend, unassigned,
    .runs (controls ++ formats ++ privateUse ++ lineSeparators ++ paragraphSeparators)])

def caseIgnorable : CharSet :=
  unionOf [.runs (nonspacingMarks ++ enclosingMarks ++ formats ++ modifierLetters ++
    modifierSymbols ++ midLetter ++ midNumberLetter), .singleton '\'']

def defaultIgnorable : CharSet :=
  .difference (.runs (otherDefaultIgnorable ++ formats ++ variationSelector))
    (.union (.runs (whiteSpace ++ prependedConcatenationMark)) (ofText "FFF9-FFFB 13430-1343F"))

def idStart : CharSet :=
  .difference (.runs (letters ++ letterNumbers ++ otherIdStart))
    (.runs (patternSyntax ++ patternWhiteSpace))

def idContinue : CharSet :=
  .union idStart (.difference (.runs (nonspacingMarks ++ spacingMarks ++ decimalNumbers ++
    connectors ++ otherIdContinue)) (.runs (patternSyntax ++ patternWhiteSpace)))

def xidStart : CharSet :=
  .difference idStart (ofText "37A E33 EB3 309B-309C FC5E-FC63 FDFA-FDFB FE70-FE7E/2 FF9E-FF9F")

def xidContinue : CharSet :=
  .difference idContinue (ofText "37A 309B-309C FC5E-FC63 FDFA-FDFB FE70-FE7E/2")

def properties : List (List String × CharSet) := [
  (["ahex", "asciihexdigit"], .runs asciiHexDigit),
  (["alpha", "alphabetic"], .runs alphabetic),
  (["bidic", "bidicontrol"], .runs bidiControl),
  (["cased"], unionOf [lowercase, uppercase, .runs titlecaseLetters]),
  (["ci", "caseignorable"], caseIgnorable),
  (["cwcf", "changeswhencasefolded"], .runs changesWhenCasefolded),
  (["cwcm", "changeswhencasemapped"],
    .runs (changesWhenLowercased ++ changesWhenUppercased ++ changesWhenTitlecased)),
  (["cwl", "changeswhenlowercased"], .runs changesWhenLowercased),
  (["cwt", "changeswhentitlecased"], .runs changesWhenTitlecased),
  (["cwu", "changeswhenuppercased"], .runs changesWhenUppercased),
  (["dash"], .runs dash),
  (["dep", "deprecated"], .runs deprecated),
  (["di", "defaultignorablecodepoint"], defaultIgnorable),
  (["dia", "diacritic"], .runs diacritic),
  (["ebase", "emojimodifierbase"], .runs emojiModifierBase),
  (["ecomp", "emojicomponent"], .runs emojiComponent),
  (["emod", "emojimodifier"], .runs emojiModifier),
  (["emoji"], .runs emoji),
  (["epres", "emojipresentation"], .runs emojiPresentation),
  (["ext", "extender"], .runs extender),
  (["extpict", "extendedpictographic"], .runs extendedPictographic),
  (["grbase", "graphemebase"], graphemeBase),
  (["grext", "graphemeextend"], graphemeExtend),
  (["grlink", "graphemelink"], .runs virama),
  (["hex", "hexdigit"], .runs hexDigit),
  (["hyphen"], .runs hyphen),
  (["idc", "idcontinue"], idContinue),
  (["ideo", "ideographic"], .runs ideographic),
  (["ids", "idstart"], idStart),
  (["idsb", "idsbinaryoperator"], .runs idsBinaryOperator),
  (["idst", "idstrinaryoperator"], .runs idsTrinaryOperator),
  (["joinc", "joincontrol"], .runs joinControl),
  (["loe", "logicalorderexception"], .runs logicalOrderException),
  (["lower", "lowercase"], lowercase),
  (["math"], .runs (mathSymbols ++ otherMath)),
  (["nchar", "noncharactercodepoint"], .runs noncharacter),
  (["oalpha", "otheralphabetic"], .runs otherAlphabetic),
  (["odi", "otherdefaultignorablecodepoint"], .runs otherDefaultIgnorable),
  (["ogrext", "othergraphemeextend"], .runs otherGraphemeExtend),
  (["oidc", "otheridcontinue"], .runs otherIdContinue),
  (["oids", "otheridstart"], .runs otherIdStart),
  (["olower", "otherlowercase"], .runs otherLowercase),
  (["omath", "othermath"], .runs otherMath),
  (["oupper", "otheruppercase"], .runs otherUppercase),
  (["patsyn", "patternsyntax"], .runs patternSyntax),
  (["patws", "patternwhitespace"], .runs patternWhiteSpace),
  (["pcm", "prependedconcatenationmark"], .runs prependedConcatenationMark),
  (["qmark", "quotationmark"], .runs quotationMark),
  (["radical"], .runs radical),
  (["ri", "regionalindicator"], .runs regionalIndicator),
  (["sd", "softdotted"], .runs softDotted),
  (["sterm", "sentenceterminal"], .runs sentenceTerminal),
  (["term", "terminalpunctuation"], .runs terminalPunctuation),
  (["uideo", "unifiedideograph"], .runs unifiedIdeograph),
  (["upper", "uppercase"], uppercase),
  (["vs", "variationselector"], .runs variationSelector),
  (["wspace", "whitespace", "space"], .runs whiteSpace),
  (["xidc", "xidcontinue"], xidContinue),
  (["xids", "xidstart"], xidStart)]

def graphemeBreaks : List (List String × CharSet) := [
  (["cn", "control"],
    .difference
      (.union (.runs (lineSeparators ++ paragraphSeparators ++ controls ++ formats))
        (.inter unassigned defaultIgnorable))
      (unionOf [ofText "A D 200C-200D", .runs prependedConcatenationMark, graphemeExtend])),
  (["cr"], .singleton '\r'),
  (["ex", "extend"], .union graphemeExtend (.runs emojiModifier)),
  (["l"], .runs leadingJamo),
  (["lf"], .singleton '\n'),
  (["lv"], .runs openSyllables),
  (["lvt"], .difference (.runs syllables) (.runs openSyllables)),
  (["pp", "prepend"], .runs (otherPrepend ++ prependedConcatenationMark)),
  (["ri", "regionalindicator"], .runs regionalIndicator),
  (["sm", "spacingmark"],
    .union (.runs otherSpacing) (.difference (.runs spacingMarks)
      (unionOf [.runs spacingApart, graphemeExtend]))),
  (["t"], .runs trailingJamo),
  (["v"], .runs vowelJamo),
  (["zwj"], .singleton '\u200D')]

def wordExtend : CharSet :=
  .difference (unionOf [graphemeExtend, .runs spacingMarks, .runs emojiModifier])
    (.singleton '\u200D')

def wordBreaks : List (List String × CharSet) := [
  (["cr"], .singleton '\r'),
  (["dq", "doublequote"], .singleton '\x22'),
  (["ex", "extendnumlet"], .runs extendNumberLetter),
  (["extend"], wordExtend),
  (["fo", "format"], .difference (.runs formats) (.union (ofText "200B-200D") graphemeExtend)),
  (["hl", "hebrewletter"], .runs hebrewLetter),
  (["ka", "katakana"], .runs katakanaWord),
  (["le", "aletter"],
    .difference (.runs (alphabetic ++ wordLetterAdded))
      (unionOf [.runs ideographic, wordExtend, .runs wordLetterApart])),
  (["lf"], .singleton '\n'),
  (["mb", "midnumlet"], .runs midNumberLetter),
  (["ml", "midletter"], .runs midLetter),
  (["mn", "midnum"], .runs midNumber),
  (["nl", "newline"], ofText "B-C 85 2028-2029"),
  (["nu", "numeric"], .union (.runs decimalNumbers) (.singleton '\u066B')),
  (["ri", "regionalindicator"], .runs regionalIndicator),
  (["sq", "singlequote"], .singleton '\''),
  (["wsegspace"], .difference (.runs spaceSeparators) (ofText "A0 2007 202F")),
  (["zwj"], .singleton '\u200D')]

def sentenceExtend : CharSet :=
  unionOf [graphemeExtend, .runs spacingMarks, .singleton '\u200D']

def sentenceLower : CharSet :=
  .difference lowercase (.union graphemeExtend (.runs georgianLower))

def sentenceUpper : CharSet :=
  .difference (.union uppercase (.runs titlecaseLetters)) (.runs georgianUpper)

def sentenceBreaks : List (List String × CharSet) := [
  (["at", "aterm"], .runs fullStop),
  (["cl", "close"],
    .runs (openPunctuation ++ closePunctuation ++ initialPunctuation ++ finalPunctuation ++
      otherClose)),
  (["cr"], .singleton '\r'),
  (["ex", "extend"], sentenceExtend),
  (["fo", "format"], .difference (.runs formats) (.union (ofText "200C-200D") graphemeExtend)),
  (["le", "oletter"],
    .difference (.union (.runs alphabetic) (.singleton '\u05F3'))
      (unionOf [sentenceLower, sentenceUpper, sentenceExtend])),
  (["lf"], .singleton '\n'),
  (["lo", "lower"], sentenceLower),
  (["nu", "numeric"], unionOf [.runs decimalNumbers, ofText "66B-66C"]),
  (["sc", "scontinue"], .runs sentenceContinue),
  (["se", "sep"], ofText "85 2028-2029"),
  (["sp"], .difference (.runs whiteSpace) (ofText "A D 85 2028-2029")),
  (["st", "sterm"], .difference (.runs sentenceTerminal) (.runs fullStop)),
  (["up", "upper"], sentenceUpper)]

def normalize (name : List Char) : String :=
  let plain (cs : List Char) : List Char :=
    (cs.filter fun c => c.toNat < 0x80 && c != ' ' && c != '_' && c != '-').map Char.toLower
  match name with
  | i :: s :: rest =>
    if i.toLower = 'i' ∧ s.toLower = 's' then
      -- This short name of another property is not one of the general category "c".
      if plain rest = ['c'] then "isc" else String.ofList (plain rest)
    else String.ofList (plain name)
  | _ => String.ofList (plain name)

def find? (classes : List (List String × CharSet)) (name : String) : Option CharSet :=
  (classes.find? fun entry => entry.1.contains name).map Prod.snd

def ofName? (name : List Char) : Option CharSet :=
  let name := normalize name
  ((find? properties name).or (find? categories name)).or (find? scriptClasses name)

def ofAge? (name : String) : Option CharSet :=
  let earlier := ages.takeWhile fun entry => !entry.1.contains name
  (ages[earlier.length]?).map fun entry => .runs (earlier.flatMap Prod.snd ++ entry.2)

def ofValue? (property value : List Char) : Option CharSet :=
  let value := normalize value
  match normalize property with
  | "gc" | "generalcategory" => find? categories value
  | "sc" | "script" => find? scriptClasses value
  | "scx" | "scriptextensions" => find? scriptExtensions value
  | "age" => ofAge? value
  | "gcb" | "graphemeclusterbreak" => find? graphemeBreaks value
  | "wb" | "wordbreak" => find? wordBreaks value
  | "sb" | "sentencebreak" => find? sentenceBreaks value
  | _ => none

def split? (mark : List Char) : List Char → Option (List Char × List Char)
  | [] => none
  | c :: cs =>
    if mark.isPrefixOf (c :: cs) then some ([], (c :: cs).drop mark.length)
    else (split? mark cs).map fun (before, behind) => (c :: before, behind)

/-- A name, or a property and its value. The mark between them only parts them, whichever it is. -/
def ofPhrase? (phrase : List Char) : Option CharSet :=
  match ((split? ['!', '='] phrase).or (split? [':'] phrase)).or (split? ['='] phrase) with
  | some (property, value) => ofValue? property value
  | none => ofName? phrase

end Highlighting.UnicodeClass
