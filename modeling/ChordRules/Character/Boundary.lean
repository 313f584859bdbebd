import ChordRules.Character.Property
import ChordRules.Character.Script

/-! # Boundary classes

How characters behave where a text is cut into clusters, words or sentences, here as in version
16 of the Unicode Standard. Characters outside the classes have none. Codes and names are in the
form in which names are compared. -/
namespace ChordRules.Boundary

/-- The code that goes by a name, given rows of names in which the code comes first. -/
def code? (rows : List String) (name : String) : Option String :=
  rows.findSome? fun row =>
    let names := row.splitOn " "
    if names.contains name then names.head? else none

def carriageReturn : CharSet := .range 0xD 0xD
def lineFeed : CharSet := .range 0xA 0xA
def joiner : CharSet := .range 0x200D 0x200D
def nonJoiner : CharSet := .range 0x200C 0x200C

def clusterNames : List String :=
  ["cn control", "cr", "ex extend", "l", "lf", "lv", "lvt", "pp prepend", "ri regionalindicator",
   "sm spacingmark", "t", "v", "zwj"]

def prepended : CharSet :=
  .ofTable
    ["600-605 6DD 70F 890-891 8E2 D4E 110BD 110CD 111C2-111C3 113D1 1193F 11941 11A84-11A89",
     "11D46 11F02"]

def clusterExtend : CharSet := Property.graphemeExtend.union (Property.listed "emod")

def control : CharSet :=
  (CharSet.unions [Category.setOf ["zl", "zp", "cc", "cf"],
    Category.unassigned.inter Property.defaultIgnorable]).minus <|
    .unions [carriageReturn, lineFeed, joiner, Property.listed "pcm", Property.graphemeExtend]

/-- Spacing marks that end a cluster. -/
def separateMarks : CharSet :=
  .ofTable
    ["102B-102C 1038 1062-1064 1067-106D 1083 1087-108C 108F 109A-109C 1A61 1A63-1A64 AA7B AA7D",
     "11720-11721"]

/-- Syllables of two parts; the other syllables have three. -/
def openSyllables : CharSet :=
  .ofRanges ((List.range 399).map fun i => (0xAC00 + 28 * i, 0xAC00 + 28 * i))

def cluster? (code : String) : Option CharSet :=
  match code with
  | "cn" => some control
  | "cr" => some carriageReturn
  | "ex" => some clusterExtend
  | "l" => some (.ofTable ["1100-115F A960-A97C"])
  | "lf" => some lineFeed
  | "lv" => some openSyllables
  | "lvt" => some ((CharSet.range 0xAC00 0xD7A3).minus openSyllables)
  | "pp" => some prepended
  | "ri" => some (Property.listed "ri")
  | "sm" => some <|
      (((Category.setOf ["mc"]).minus Property.graphemeExtend).minus separateMarks).union
        (.ofTable ["E33 EB3"])
  | "t" => some (.ofTable ["11A8-11FF D7CB-D7FB"])
  | "v" => some (.ofTable ["1160-11A7 D7B0-D7C6 16D63 16D67-16D6A"])
  | "zwj" => some joiner
  | _ => none

def wordNames : List String :=
  ["cr", "dq doublequote", "ex extendnumlet", "extend", "fo format", "hl hebrewletter",
   "ka katakana", "le aletter", "lf", "mb midnumlet", "ml midletter", "mn midnum", "nl newline",
   "nu numeric", "ri regionalindicator", "sq singlequote", "wsegspace", "zwj"]

def marks : CharSet := Property.graphemeExtend.union (Category.setOf ["mc"])

def wordExtend : CharSet := (marks.minus .empty).union (Property.listed "emod")

/-- Numbers are written behind or below these characters, or with them. -/
def numberSigns : CharSet := .ofTable ["600-605 6DD 890-891 8E2 110BD 110CD"]

def numeric : CharSet :=
  .unions [Category.setOf ["nd"], numberSigns, .ofTable ["66B 19DA"]]

def tags : CharSet := .range 0xE0020 0xE007F

def wordFormat : CharSet :=
  (Category.setOf ["cf"]).minus (.unions [numberSigns, tags, .ofTable ["70F 200B-200D"]])

def hebrewLetter : CharSet :=
  .ofTable
    ["5D0-5EA 5EF-5F2 FB1D FB1F-FB28 FB2A-FB36 FB38-FB3C FB3E FB40-FB41 FB43-FB44 FB46-FB4F"]

def katakana : CharSet :=
  .ofTable
    ["3031-3035 309B-309C 30A0-30FA 30FC-30FF 31F0-31FF 32D0-32FE 3300-3357 FF66-FF9D",
     "1AFF0-1AFF3 1AFF5-1AFFB 1AFFD-1AFFE 1B000 1B120-1B122 1B155 1B164-1B167"]

/-- Letters of scripts that write words without blanks between them. -/
def unspacedLetters : CharSet :=
  .ofTable
    ["E01-E30 E32-E33 E40-E46 E81-E82 E84 E86-E8A E8C-EA3 EA5 EA7-EB0 EB2-EB3 EBD EC0-EC4 EC6",
     "EDC-EDF 1000-102A 103F 1050-1055 105A-105D 1061 1065-1066 106E-1070 1075-1081 108E",
     "1780-17B3 17D7 17DC 1950-196D 1970-1974 1980-19AB 19B0-19C9 1A20-1A54 1AA7 A9E0-A9E4",
     "A9E6-A9EF A9FA-A9FE AA60-AA76 AA7A AA7E-AAAF AAB1 AAB5-AAB6 AAB9-AABD AAC0 AAC2 AADB-AADD",
     "11700-1171A 11740-11746"]

/-- Letter-like characters that are not alphabetic. -/
def letterSigns : CharSet :=
  .ofTable
    ["B8 2C2-2C5 2D2-2D7 2DE-2DF 2E5-2EB 2ED 2EF-2FF 55A-55C 55E 58A 5F3 70F A708-A716",
     "A720-A721 A789-A78A AB5B"]

def wordLetter : CharSet :=
  let hiragana := (Script.find? "hira").elim .empty (·.set)
  (Property.alphabetic.minus <|
    .unions [Property.listed "ideo", katakana, hiragana, hebrewLetter, wordExtend,
      unspacedLetters]).union letterSigns

def word? (code : String) : Option CharSet :=
  match code with
  | "cr" => some carriageReturn
  | "dq" => some (.range 0x22 0x22)
  | "ex" => some ((Category.setOf ["pc"]).union (.range 0x202F 0x202F))
  | "extend" => some wordExtend
  | "fo" => some wordFormat
  | "hl" => some hebrewLetter
  | "ka" => some katakana
  | "le" => some wordLetter
  | "lf" => some lineFeed
  | "mb" => some (.ofTable ["2E 2018-2019 2024 FE52 FF07 FF0E"])
  | "ml" => some (.ofTable ["3A B7 387 55F 5F4 2027 FE13 FE55 FF1A"])
  | "mn" => some (.ofTable ["2C 3B 37E 589 60C-60D 66C 7F8 2044 FE50 FE54 FF0C FF1B"])
  | "nl" => some (.ofTable ["B-C 85 2028-2029"])
  | "nu" => some numeric
  | "ri" => some (Property.listed "ri")
  | "sq" => some (.range 0x27 0x27)
  | "wsegspace" => some (.ofTable ["20 1680 2000-2006 2008-200A 205F 3000"])
  | "zwj" => some joiner
  | _ => none

def sentenceNames : List String :=
  ["at aterm", "cl close", "cr", "ex extend", "fo format", "le oletter", "lf", "lo lower",
   "nu numeric", "sc scontinue", "se sep", "sp", "st sterm", "up upper"]

def fullStops : CharSet := .ofTable ["2E 2024 FE52 FF0E"]
def separators : CharSet := .ofTable ["85 2028-2029"]
def sentenceExtend : CharSet := marks.union joiner

/-- Georgian letters, which begin no sentence in either case. -/
def sentenceLower : CharSet :=
  Property.lowercase.minus (Property.graphemeExtend.union (.ofTable ["10D0-10FA 10FD-10FF"]))

def sentenceUpper : CharSet :=
  (Property.uppercase.union (Category.setOf ["lt"])).minus (.ofTable ["1C90-1CBA 1CBD-1CBF"])

def continuation : CharSet :=
  .ofTable
    ["2C-2D 3A-3B 37E 55D 60C-60D 7F8 1802 1808 2013-2014 3001 FE10-FE11 FE13-FE14 FE31-FE32",
     "FE50-FE51 FE54-FE55 FE58 FE63 FF0C-FF0D FF1A-FF1B FF64"]

def closing : CharSet :=
  (CharSet.unions [Category.setOf ["ps", "pe", "pi", "pf"], Property.listed "qmark",
    .ofTable ["275B-2760 2E00-2E01 2E06-2E08 2E0B 1F676-1F678"]]).minus (.ofTable ["FF02 FF07"])

def sentence? (code : String) : Option CharSet :=
  match code with
  | "at" => some fullStops
  | "cl" => some closing
  | "cr" => some carriageReturn
  | "ex" => some sentenceExtend
  | "fo" => some <|
      (Category.setOf ["cf"]).minus (.unions [numberSigns, tags, nonJoiner, joiner])
  | "le" => some <|
      (Property.alphabetic.minus (.unions [sentenceLower, sentenceUpper, sentenceExtend])).union
        (.range 0x5F3 0x5F3)
  | "lf" => some lineFeed
  | "lo" => some sentenceLower
  | "nu" => some (numeric.union (.range 0x66C 0x66C))
  | "sc" => some continuation
  | "se" => some separators
  | "sp" => some ((Property.listed "wspace").minus (.unions [separators, carriageReturn, lineFeed]))
  | "st" => some ((Property.listed "sterm").minus fullStops)
  | "up" => some sentenceUpper
  | _ => none

end ChordRules.Boundary
