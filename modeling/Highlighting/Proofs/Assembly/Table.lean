import Highlighting.Languages.Assembly

namespace Highlighting.Assembly

open CharSet Regex

def oneOf : List Char → CharSet
  | [] => .empty
  | [c] => .singleton c
  | c :: cs => .union (.singleton c) (oneOf cs)

def digitSet : CharSet :=
  .range '0' '9'

def blankSet : CharSet :=
  oneOf ['\t', '\n', '\r', ' ', '\xA0']

def withinLineSet : CharSet :=
  .complement (oneOf ['\r', '\n'])

def unescapedSet : CharSet :=
  .complement (oneOf ['"', '\\'])

def anySet : CharSet :=
  .union .whiteSpace (.complement .whiteSpace)

def sigilSet : CharSet :=
  oneOf ['%', '@', '!']

def symbolStartSet : CharSet :=
  .union (.singleton '-')
    (.union (.range 'a' 'z') (.union (.range 'A' 'Z') (oneOf ['$', '.', '_'])))

def symbolPartSet : CharSet :=
  .union (.singleton '-') (.union (.range 'a' 'z') (.union (.range 'A' 'Z')
    (.union (.singleton '$') (.union (.singleton '.') (.union (.singleton '_') digitSet)))))

def nameStartSet : CharSet :=
  .union (.range 'A' 'Z') (.union (.range 'a' 'z') (.singleton '_'))

def namePartSet : CharSet :=
  .union digitSet nameStartSet

def hexDigitSet : CharSet :=
  .union (.range 'a' 'f') (.union (.range 'A' 'F') digitSet)

def punctuationSet : CharSet :=
  oneOf ['(', ')', '[', ']', '\x7b', '\x7d', ',', '=', '*', '<', '>', ':']

def character (c : Char) : Regex :=
  .set (.singleton c)

def tied (r : Regex) : Regex :=
  .cat (.assert .textStart) r

def blankRule : Rule where
  category := .plain
  pattern := "^[\\t\\n\\r \\xA0]+"
  regex := tied (tied (.plus true (.set blankSet)))

def stringPart : Regex :=
  .alt (.set unescapedSet) (.cat (character '\\') (.set anySet))

def stringRule : Rule where
  category := .string
  pattern := "^!?\"(?:[^\"\\\\]|\\\\[\\s\\S])*(?:\"|$)"
  regex :=
    tied (.cat (.cat (.cat (tied (.opt true (character '!'))) (character '"'))
      (.star true stringPart)) (.alt (character '"') (.assert .textEnd)))

def commentRule : Rule where
  category := .comment
  pattern := "^#[^\\r\\n]*"
  regex := tied (.cat (tied (character '#')) (.star true (.set withinLineSet)))

def sigilRule : Rule where
  category := .plain
  pattern := "^[%@!](?:[\\-a-zA-Z$._][\\-a-zA-Z$._0-9]*|[0-9]+)"
  regex :=
    tied (.cat (tied (.set sigilSet))
      (.alt (.cat (.set symbolStartSet) (.star true (.set symbolPartSet)))
        (.plus true (.set digitSet))))

def nameRule : Rule where
  category := .keyword
  pattern := "^[A-Za-z_][0-9A-Za-z_]*"
  regex := tied (.cat (tied (.set nameStartSet)) (.star true (.set namePartSet)))

def numberRule : Rule where
  category := .literal
  pattern := "^\\$?(?:0[xX][a-fA-F0-9]+|[0-9]+)"
  regex :=
    tied (.cat (tied (.opt true (character '$')))
      (.alt (.cat (.cat (character '0') (.set (oneOf ['x', 'X']))) (.plus true (.set hexDigitSet)))
        (.plus true (.set digitSet))))

def punctuationRule : Rule where
  category := .punctuation
  pattern := "^[()\\[\\]\x7b\x7d,=*<>:]|\\.\\.\\.$"
  regex :=
    tied (.alt (tied (.set punctuationSet))
      (.cat (.cat (.cat (character '.') (character '.')) (character '.')) (.assert .textEnd)))

def table : Lexer where
  name := name
  shortcutRules := [blankRule, stringRule, commentRule]
  fallthroughRules := [sigilRule, nameRule, numberRule, punctuationRule]
  shortcuts :=
    [('\t', blankRule), ('\n', blankRule), ('\r', blankRule), (' ', blankRule),
      ('\xA0', blankRule), ('"', stringRule), ('#', commentRule)]

theorem lexer_eq_table : lexer = .ok table :=
  rfl

theorem eq_table_of_lexer_eq {l : Lexer} (h : lexer = .ok l) : l = table :=
  Except.ok.inj (h.symm.trans lexer_eq_table)

end Highlighting.Assembly
