import Highlighting.Text.CategoryTable
import Highlighting.Text.PropertyTable

namespace Highlighting.Property

def within (runs : List CodeRun) (c : Char) : Bool :=
  runs.any (·.contains c.toNat)

def letters : List CodeRun :=
  uppercaseLetters ++ lowercaseLetters ++ titlecaseLetters ++ modifierLetters ++ otherLetters

def marks : List CodeRun :=
  nonspacingMarks ++ spacingMarks ++ enclosingMarks

def numbers : List CodeRun :=
  decimalNumbers ++ letterNumbers ++ otherNumbers

def punctuation : List CodeRun :=
  connectors ++ dashes ++ openPunctuation ++ closePunctuation ++ initialPunctuation ++
    finalPunctuation ++ otherPunctuation

def symbols : List CodeRun :=
  mathSymbols ++ currencySymbols ++ modifierSymbols ++ otherSymbols

def alphabetic : List CodeRun :=
  letters ++ letterNumbers ++ otherAlphabetic

def isWhiteSpace (c : Char) : Bool :=
  if c.toNat < 0x80 then c.toNat == 0x20 || (0x09 ≤ c.toNat && c.toNat ≤ 0x0D)
  else within whiteSpace c

def isDecimalDigit (c : Char) : Bool :=
  if c.toNat < 0x80 then c.isDigit else within decimalNumbers c

def isAlphabetic (c : Char) : Bool :=
  if c.toNat < 0x80 then c.isAlpha else within alphabetic c

def isAlphanumeric (c : Char) : Bool :=
  isAlphabetic c || isDecimalDigit c || within numbers c

def isWord (c : Char) : Bool :=
  if c.toNat < 0x80 then c.isAlphanum || c == '_'
  else
    within alphabetic c || within marks c || within decimalNumbers c || within connectors c ||
      within joinControl c

def isVisible (c : Char) : Bool :=
  if c.toNat < 0x80 then 0x20 ≤ c.toNat && c.toNat < 0x7F
  else
    (within letters c || within spacingMarks c || within numbers c || within punctuation c ||
      within symbols c) && !within otherGraphemeExtend c

end Highlighting.Property
