/-
# Breaks

A text is divided into what readers take for single characters, into words and into sentences.  For
each of the three ways a character has a value that says how it joins its neighbours.  The values
are not listed character by character: they follow from categories, scripts and other properties, by
the rules below, and from short lists of exceptions.

A character without a value of its own has the value `other`, which has no set.
-/

import TextScan.Unicode.Script
import TextScan.Unicode.Property

namespace TextScan
namespace Unicode

/-! ## What the rules build on -/

/-- The characters of a property, by its long name. -/
def withProperty (name : String) : CharSet := setOf propertyRows name

/-- The characters of a script, by its short name. -/
def ofScript (name : String) : CharSet := setOf scriptRows name

/-- The characters that join the one before, but for the zero width joiner: marks, and the colours
of pictures. -/
def joiningMarks : CharSet := (withProperty "graphemeextend").union (withProperty "emojimodifier")

/-- The signs that enclose the digits after them. -/
def numberSigns : CharSet :=
  (withProperty "prependedconcatenationmark").diff (ofRangeLines ["70F"])

/-- The digits, and the signs that stand among digits but for separators of groups. -/
def numberChars : CharSet :=
  ((categories ["nd"]).union numberSigns).union (ofRangeLines ["66B 19DA"])

/-- The letters of scripts that are written without blanks between words. -/
def unspacedLetters : CharSet := ofRangeLines [
  "E01-E3A E40-E4E E81-E82 E84 E86-E8A E8C-EA3 EA5 EA7-EBD EC0-EC4 EC6 EC8-ECE EDC-EDF 1000-103F",
  "1050-108F 109A-109F 1780-17D3 17D7 17DC-17DD 1950-196D 1970-1974 1980-19AB 19B0-19C9 19DA",
  "19DE-19DF 1A20-1A5E 1A60-1A7C 1AA0-1AAD A9E0-A9EF A9FA-A9FE AA60-AAC2 AADB-AADF 11700-1171A",
  "1171D-1172B 1173A-1173B 1173F-11746"]

/-- The full stops that may also end an abbreviation. -/
def fullStops : CharSet := ofRangeLines ["2E 2024 FE52 FF0E"]

/-! ## Characters as readers see them -/

/-- How a character joins its neighbours into what a reader takes for one character. -/
inductive GraphemeBreak where
  | carriageReturn
  | control
  | extend
  | leadingJamo
  | lineFeed
  | openSyllable
  | closedSyllable
  | prepend
  | regionalIndicator
  | spacingMark
  | trailingJamo
  | vowelJamo
  | zeroWidthJoiner
  deriving DecidableEq, Repr

namespace GraphemeBreak

/-- All values. -/
def all : List GraphemeBreak :=
  [carriageReturn, control, extend, leadingJamo, lineFeed, openSyllable, closedSyllable, prepend,
    regionalIndicator, spacingMark, trailingJamo, vowelJamo, zeroWidthJoiner]

/-- The names of a value. -/
def names : GraphemeBreak → List String
  | carriageReturn => ["cr"]
  | control => ["cn", "control"]
  | extend => ["ex", "extend"]
  | leadingJamo => ["l"]
  | lineFeed => ["lf"]
  | openSyllable => ["lv"]
  | closedSyllable => ["lvt"]
  | prepend => ["pp", "prepend"]
  | regionalIndicator => ["ri", "regionalindicator"]
  | spacingMark => ["sm", "spacingmark"]
  | trailingJamo => ["t"]
  | vowelJamo => ["v"]
  | zeroWidthJoiner => ["zwj"]

/-- The syllables of Korean without a final consonant: every 28th. -/
def openSyllables : CharSet :=
  ⟨(List.range 399).map fun i => ⟨0xAC00 + 28 * i, 0xAC00 + 28 * i⟩⟩

/-- The code points that are set aside for characters to be ignored. -/
def unassignedIgnorables : CharSet :=
  (categories ["cn"]).inter (withProperty "defaultignorablecodepoint")

/-- The characters with a value. -/
def set : GraphemeBreak → CharSet
  | carriageReturn => ofRangeLines ["D"]
  | control =>
    (((categories ["zl", "zp", "cc", "cf"]).union unassignedIgnorables).diff joiningMarks).diff
      ((withProperty "prependedconcatenationmark").union (ofRangeLines ["A D 200D"]))
  | extend => joiningMarks
  | leadingJamo => ofRangeLines ["1100-115F A960-A97C"]
  | lineFeed => ofRangeLines ["A"]
  | openSyllable => openSyllables
  | closedSyllable => (ofRangeLines ["AC00-D7A3"]).diff openSyllables
  | prepend =>
    (withProperty "prependedconcatenationmark").union
      (ofRangeLines ["D4E 111C2-111C3 113D1 1193F 11941 11A3A 11A84-11A89 11D46 11F02"])
  | regionalIndicator => withProperty "regionalindicator"
  | spacingMark =>
    (((categories ["mc"]).union (ofRangeLines ["E33 EB3"])).diff joiningMarks).diff
      (ofRangeLines ["102B-102C 1038 1062-1064 1067-106D 1083 1087-108C 108F 109A-109C 1A61",
        "1A63-1A64 AA7B AA7D 11720-11721"])
  | trailingJamo => ofRangeLines ["11A8-11FF D7CB-D7FB"]
  | vowelJamo => ofRangeLines ["1160-11A7 D7B0-D7C6 16D63 16D67-16D6A"]
  | zeroWidthJoiner => ofRangeLines ["200D"]

end GraphemeBreak

/-! ## Words -/

/-- How a character joins its neighbours into words. -/
inductive WordBreak where
  | carriageReturn
  | doubleQuote
  | extend
  | extendNumLet
  | format
  | hebrewLetter
  | katakana
  | letter
  | lineFeed
  | midLetter
  | midNum
  | midNumLet
  | newline
  | numeric
  | regionalIndicator
  | singleQuote
  | space
  | zeroWidthJoiner
  deriving DecidableEq, Repr

namespace WordBreak

/-- All values. -/
def all : List WordBreak :=
  [carriageReturn, doubleQuote, extend, extendNumLet, format, hebrewLetter, katakana, letter,
    lineFeed, midLetter, midNum, midNumLet, newline, numeric, regionalIndicator, singleQuote, space,
    zeroWidthJoiner]

/-- The names of a value. -/
def names : WordBreak → List String
  | carriageReturn => ["cr"]
  | doubleQuote => ["dq", "doublequote"]
  | extend => ["extend"]
  | extendNumLet => ["ex", "extendnumlet"]
  | format => ["fo", "format"]
  | hebrewLetter => ["hl", "hebrewletter"]
  | katakana => ["ka", "katakana"]
  | letter => ["le", "aletter"]
  | lineFeed => ["lf"]
  | midLetter => ["ml", "midletter"]
  | midNum => ["mn", "midnum"]
  | midNumLet => ["mb", "midnumlet"]
  | newline => ["nl", "newline"]
  | numeric => ["nu", "numeric"]
  | regionalIndicator => ["ri", "regionalindicator"]
  | singleQuote => ["sq", "singlequote"]
  | space => ["wsegspace"]
  | zeroWidthJoiner => ["zwj"]

/-- The marks that join the character before into a word. -/
def marks : CharSet := joiningMarks.union (categories ["mc"])

/-- The letters of Katakana, and the signs that stand among them. -/
def katakanaChars : CharSet :=
  (ofScript "kana").union (ofRangeLines ["3031-3035 309B-309C 30A0 30FC FF70"])

/-- The signs that stand among letters like letters. -/
def letterSigns : CharSet := ofRangeLines [
  "2C2-2C5 2D2-2D7 2DE-2DF 2E5-2EB 2ED 2EF-2FF 55A-55C 55E 58A 5F3 70F A708-A716 A720-A721",
  "A789-A78A AB5B"]

/-- The characters with a value. -/
def set : WordBreak → CharSet
  | carriageReturn => ofRangeLines ["D"]
  | doubleQuote => ofRangeLines ["22"]
  | extend => marks
  | extendNumLet => (categories ["pc"]).union (ofRangeLines ["202F"])
  | format =>
    (((categories ["cf"]).diff (ofRangeLines ["200B-200D"])).diff marks).diff
      (withProperty "prependedconcatenationmark")
  | hebrewLetter => (ofScript "hebr").inter (categories ["lo"])
  | katakana => katakanaChars
  | letter =>
    [withProperty "ideographic", ofScript "hira", katakanaChars, unspacedLetters, marks,
      (ofScript "hebr").inter (categories ["lo"])].foldl CharSet.diff
        ((withProperty "alphabetic").union letterSigns)
  | lineFeed => ofRangeLines ["A"]
  | midLetter => ofRangeLines ["3A B7 387 55F 5F4 2027 FE13 FE55 FF1A"]
  | midNum =>
    ofRangeLines ["2C 3B 37E 589 60C-60D 66C 7F8 2044 FE10 FE14 FE50 FE54 FF0C FF1B"]
  | midNumLet => fullStops.union (ofRangeLines ["2018-2019 FF07"])
  | newline => ofRangeLines ["B-C 85 2028-2029"]
  | numeric => numberChars
  | regionalIndicator => withProperty "regionalindicator"
  | singleQuote => ofRangeLines ["27"]
  | space => (categories ["zs"]).diff (ofRangeLines ["A0 2007 202F"])
  | zeroWidthJoiner => ofRangeLines ["200D"]

end WordBreak

/-! ## Sentences -/

/-- How a character joins its neighbours into sentences. -/
inductive SentenceBreak where
  | abbreviation
  | carriageReturn
  | close
  | extend
  | format
  | lineFeed
  | lower
  | numeric
  | otherLetter
  | continuation
  | terminal
  | separator
  | space
  | upper
  deriving DecidableEq, Repr

namespace SentenceBreak

/-- All values. -/
def all : List SentenceBreak :=
  [abbreviation, carriageReturn, close, extend, format, lineFeed, lower, numeric, otherLetter,
    continuation, terminal, separator, space, upper]

/-- The names of a value. -/
def names : SentenceBreak → List String
  | abbreviation => ["at", "aterm"]
  | carriageReturn => ["cr"]
  | close => ["cl", "close"]
  | extend => ["ex", "extend"]
  | format => ["fo", "format"]
  | lineFeed => ["lf"]
  | lower => ["lo", "lower"]
  | numeric => ["nu", "numeric"]
  | otherLetter => ["le", "oletter"]
  | continuation => ["sc", "scontinue"]
  | terminal => ["st", "sterm"]
  | separator => ["se", "sep"]
  | space => ["sp"]
  | upper => ["up", "upper"]

/-- The marks that belong to the character before. -/
def marks : CharSet :=
  ((withProperty "graphemeextend").union (categories ["mc"])).union (ofRangeLines ["200D"])

/-- The letters that do not begin a sentence.  The small letters of Georgian may begin one. -/
def lowerLetters : CharSet :=
  ((withProperty "lowercase").diff (withProperty "graphemeextend")).diff
    (ofRangeLines ["10D0-10FA 10FD-10FF"])

/-- The letters that may begin a sentence: capitals, but for those of Georgian. -/
def upperLetters : CharSet :=
  ((withProperty "uppercase").union (categories ["lt"])).diff
    (ofRangeLines ["1C90-1CBA 1CBD-1CBF"])

/-- The characters with a value. -/
def set : SentenceBreak → CharSet
  | abbreviation => fullStops
  | carriageReturn => ofRangeLines ["D"]
  | close =>
    (categories ["ps", "pe", "pi", "pf"]).union
      (ofRangeLines ["22 27 275B-2760 2E00-2E01 2E06-2E08 2E0B 1F676-1F678"])
  | extend => marks
  | format => ((categories ["cf"]).diff numberSigns).diff (marks.union (ofRangeLines ["200C"]))
  | lineFeed => ofRangeLines ["A"]
  | lower => lowerLetters
  | numeric => numberChars.union (ofRangeLines ["66C"])
  | otherLetter =>
    [lowerLetters, upperLetters, marks].foldl CharSet.diff
      ((withProperty "alphabetic").union (ofRangeLines ["5F3"]))
  | continuation =>
    ofRangeLines ["2C-2D 3A-3B 37E 55D 60C-60D 7F8 1802 1808 2013-2014 3001 FE10-FE11 FE13-FE14",
      "FE31-FE32 FE50-FE51 FE54-FE55 FE58 FE63 FF0C-FF0D FF1A-FF1B FF64"]
  | terminal => (withProperty "sentenceterminal").diff fullStops
  | separator => ofRangeLines ["85 2028-2029"]
  | space => (withProperty "whitespace").diff (ofRangeLines ["A D 85 2028-2029"])
  | upper => upperLetters

end SentenceBreak

/-! ## Sets by name -/

/-- The set of a value for characters as readers see them. -/
def graphemeBreak? (name : Text) : Option CharSet :=
  (GraphemeBreak.all.find? fun v => v.names.any fun n => n.toList == name).map GraphemeBreak.set

/-- The set of a value for words. -/
def wordBreak? (name : Text) : Option CharSet :=
  (WordBreak.all.find? fun v => v.names.any fun n => n.toList == name).map WordBreak.set

/-- The set of a value for sentences. -/
def sentenceBreak? (name : Text) : Option CharSet :=
  (SentenceBreak.all.find? fun v => v.names.any fun n => n.toList == name).map SentenceBreak.set

end Unicode
end TextScan
