import Highlighting.Text.CodeRun

/-! What the borders of graphemes, words and sentences depend on, as far as it does not follow from
other properties. -/

namespace Highlighting.Property

def leadingJamo : List CodeRun :=
  CodeRun.ofText "1100-115F A960-A97C"

def vowelJamo : List CodeRun :=
  CodeRun.ofText "1160-11A7 D7B0-D7C6"

def trailingJamo : List CodeRun :=
  CodeRun.ofText "11A8-11FF D7CB-D7FB"

def openSyllables : List CodeRun :=
  CodeRun.ofText "AC00-D788/1C"

def syllables : List CodeRun :=
  CodeRun.ofText "AC00-D7A3"

def otherPrepend : List CodeRun :=
  CodeRun.ofText "D4E 111C2-111C3 1193F 11941 11A3A 11A84-11A89 11D46 11F02"

def spacingApart : List CodeRun :=
  CodeRun.ofText "102B-102C 1038 1062-1064 1067-106D 1083 1087-108C 108F 109A-109C 1A61
  1A63-1A64 AA7B AA7D 11720-11721"

def otherSpacing : List CodeRun :=
  CodeRun.ofText "E33 EB3"

def wordLetterAdded : List CodeRun :=
  CodeRun.ofText "2C2-2C5 2D2-2D7 2DE-2DF 2E5-2EB 2ED 2EF-2FF 55A-55C 55E 58A 5F3 A708-A716
  A720-A721 A789-A78A AB5B"

def wordLetterApart : List CodeRun :=
  CodeRun.ofText "5D0-5EA 5EF-5F2 E01-E30 E32-E33 E40-E46 E81-E82 E84 E86-E8A E8C-EA3 EA5
  EA7-EB0 EB2-EB3 EBD EC0-EC4 EC6 EDC-EDF 1000-102A 103F 1050-1055 105A-105D 1061 1065-1066
  106E-1070 1075-1081 108E 1780-17B3 17D7 17DC 1950-196D 1970-1974 1980-19AB 19B0-19C9
  1A20-1A54 1AA7 3031-3035 3041-3096 309D-309F 30A1-30FA 30FC-30FF 31F0-31FF A9E0-A9E4
  A9E6-A9EF A9FA-A9FE AA60-AA76 AA7A AA7E-AAAF AAB1 AAB5-AAB6 AAB9-AABD AAC0 AAC2 AADB-AADD
  FB1D FB1F-FB28 FB2A-FB36 FB38-FB3C FB3E FB40-FB41 FB43-FB44 FB46-FB4F FF66-FF9D 11700-1171A
  11740-11746 1AFF0-1AFF3 1AFF5-1AFFB 1AFFD-1AFFE 1B000-1B122 1B132 1B150-1B152 1B155
  1B164-1B167"

def katakanaWord : List CodeRun :=
  CodeRun.ofText "3031-3035 309B-309C 30A0-30FA 30FC-30FF 31F0-31FF 32D0-32FE 3300-3357
  FF66-FF9D 1AFF0-1AFF3 1AFF5-1AFFB 1AFFD-1AFFE 1B000 1B120-1B122 1B155 1B164-1B167"

def hebrewLetter : List CodeRun :=
  CodeRun.ofText "5D0-5EA 5EF-5F2 FB1D FB1F-FB28 FB2A-FB36 FB38-FB3C FB3E FB40-FB41 FB43-FB44
  FB46-FB4F"

def extendNumberLetter : List CodeRun :=
  CodeRun.ofText "5F 202F 203F-2040 2054 FE33-FE34 FE4D-FE4F FF3F"

def midLetter : List CodeRun :=
  CodeRun.ofText "3A B7 387 55F 5F4 2027 FE13 FE55 FF1A"

def midNumber : List CodeRun :=
  CodeRun.ofText "2C 3B 37E 589 60C-60D 66C 7F8 2044 FE10 FE14 FE50 FE54 FF0C FF1B"

def midNumberLetter : List CodeRun :=
  CodeRun.ofText "2E 2018-2019 2024 FE52 FF07 FF0E"

def sentenceContinue : List CodeRun :=
  CodeRun.ofText "2C-2D 3A 55D 60C-60D 7F8 1802 1808 2013-2014 3001 FE10-FE11 FE13 FE31-FE32
  FE50-FE51 FE55 FE58 FE63 FF0C-FF0D FF1A FF64"

def otherClose : List CodeRun :=
  CodeRun.ofText "22 27 275B-2760 2E00-2E01 2E06-2E08 2E0B 1F676-1F678"

def fullStop : List CodeRun :=
  CodeRun.ofText "2E 2024 FE52 FF0E"

def georgianLower : List CodeRun :=
  CodeRun.ofText "10D0-10FA 10FD-10FF"

def georgianUpper : List CodeRun :=
  CodeRun.ofText "1C90-1CBA 1CBD-1CBF"

end Highlighting.Property
