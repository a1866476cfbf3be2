import Switchboard.Text.Property
import Switchboard.Text.Script

/-!
# Classes for the division of texts

A text is divided into graphemes, words and sentences by looking at the classes of neighbouring
code points. Each class is given by a rule on categories, properties and scripts. What is in no
class of a division has no name there.
-/

namespace Switchboard.Segment

open Category Property

/-- Digits and signs that count as digits. -/
def numerals : CodePoints :=
  .union [decimalNumbers, .parse "600-605 66B-66C 6DD 890-891 8E2 19DA 110BD 110CD"]

/-- The formats that join and part letters. -/
def joiners : CodePoints := .parse "200C-200D"

/-! ## Graphemes -/

namespace Grapheme

def extend : CodePoints := .union [graphemeExtend, emojiModifier]

def control : CodePoints :=
  (CodePoints.union [lineSeparators, paragraphSeparators, controls, formats,
    unassigned.intersection defaultIgnorable]).difference
    (.union [.parse "A D", joiners, prependedConcatenationMark, extend])

/-- Signs before the letter that they belong to. -/
def prepended : CodePoints :=
  .union [prependedConcatenationMark,
    .parse "D4E 111C2-111C3 113D1 1193F 11941 11A3A 11A84-11A89 11D46 11F02"]

/-- Spacing marks that can be written by themselves. -/
def independentMarks : CodePoints := .parse "
  102B-102C 1038 1062-1064 1067-106D 1083 1087-108C 108F 109A-109C 1A61 1A63-1A64 AA7B AA7D
  11720-11721"

def spacingMark : CodePoints :=
  (CodePoints.union [spacingMarks, .parse "E33 EB3"]).difference
    (.union [extend, independentMarks])

/-- Syllables with an initial and a medial: one in every 28. -/
def openSyllables : CodePoints := .ofList ((List.range 399).map fun i => 0xAC00 + 28 * i)

/-- Syllables with a final. -/
def closedSyllables : CodePoints := (CodePoints.range 0xAC00 0xD7A3).difference openSyllables

def named : List (List String × CodePoints) := [
  (["cr"], .single 13),
  (["control", "cn"], control),
  (["extend", "ex"], extend),
  (["l"], .parse "1100-115F A960-A97C"),
  (["lf"], .single 10),
  (["lv"], openSyllables),
  (["lvt"], closedSyllables),
  (["prepend", "pp"], prepended),
  (["regionalindicator", "ri"], regionalIndicator),
  (["spacingmark", "sm"], spacingMark),
  (["t"], .parse "11A8-11FF D7CB-D7FB"),
  (["v"], .parse "1160-11A7 D7B0-D7C6 16D63 16D67-16D6A"),
  (["zwj"], .single 0x200D)]

/-- The code points of a class by its name in lower case without separators. -/
def find? (name : String) : Option CodePoints := CodePoints.lookUp named name

end Grapheme

/-! ## Words -/

namespace Word

/-- The set of a script. -/
def ofScript (name : String) : CodePoints := (Script.find? name).getD .none

def extend : CodePoints :=
  (CodePoints.union [graphemeExtend, spacingMarks, emojiModifier]).difference (.single 0x200D)

def numeric : CodePoints := numerals.difference (.single 0x66C)

def format : CodePoints :=
  formats.difference (.union [.parse "200B", joiners, extend, numeric, Grapheme.prepended])

def katakana : CodePoints :=
  .union [ofScript "kana", .parse "3031-3035 309B-309C 30A0 30FC FF70"]

def hebrewLetter : CodePoints := (ofScript "hebr").intersection otherLetters

/-- The scripts that write words without blanks between them. -/
def unspaced : CodePoints :=
  .union
    (["thai", "laoo", "mymr", "khmr", "tale", "talu", "lana", "tavt", "ahom", "hira"].map ofScript)

/-- Letters of words that blanks divide, and signs that stand like letters. -/
def letter : CodePoints :=
  (CodePoints.union [alphabetic, .parse "
    B8 2C2-2C5 2D2-2D7 2DE-2DF 2E5-2EB 2ED 2EF-2FF 55A-55C 55E 58A 5F3 70F A708-A716 A720-A721
    A789-A78A AB5B"]).difference
    (.union [ideographic, unspaced, katakana, hebrewLetter, extend])

def named : List (List String × CodePoints) := [
  (["aletter", "le"], letter),
  (["cr"], .single 13),
  (["doublequote", "dq"], .single 0x22),
  (["extend"], extend),
  (["extendnumlet", "ex"], .union [connectorPunctuation, .single 0x202F]),
  (["format", "fo"], format),
  (["hebrewletter", "hl"], hebrewLetter),
  (["katakana", "ka"], katakana),
  (["lf"], .single 10),
  (["midletter", "ml"], .parse "3A B7 387 55F 5F4 2027 FE13 FE55 FF1A"),
  (["midnum", "mn"], .parse "2C 3B 37E 589 60C-60D 66C 7F8 2044 FE10 FE14 FE50 FE54 FF0C FF1B"),
  (["midnumlet", "mb"], .parse "2E 2018-2019 2024 FE52 FF07 FF0E"),
  (["newline", "nl"], .parse "B-C 85 2028-2029"),
  (["numeric", "nu"], numeric),
  (["regionalindicator", "ri"], regionalIndicator),
  (["singlequote", "sq"], .single 0x27),
  (["wsegspace"], .parse "20 1680 2000-2006 2008-200A 205F 3000"),
  (["zwj"], .single 0x200D)]

/-- The code points of a class by its name in lower case without separators. -/
def find? (name : String) : Option CodePoints := CodePoints.lookUp named name

end Word

/-! ## Sentences -/

namespace Sentence

def extend : CodePoints := .union [graphemeExtend, spacingMarks, .single 0x200D]

def format : CodePoints := formats.difference (.union [joiners, extend, numerals])

def separator : CodePoints := .parse "85 2028-2029"

def space : CodePoints := whiteSpace.difference (.union [.parse "A D", separator])

/-- Small letters, apart from those of a script that has no case in running text. -/
def lower : CodePoints :=
  lowercase.difference (.union [graphemeExtend, .parse "10D0-10FA 10FD-10FF"])

/-- Capitals, with the same exception. -/
def upper : CodePoints :=
  (CodePoints.union [titlecaseLetters, uppercase]).difference (.parse "1C90-1CBA 1CBD-1CBF")

def otherLetter : CodePoints :=
  (CodePoints.union [alphabetic, .single 0x5F3]).difference (.union [lower, upper, extend])

/-- Stops, which may also stand after abbreviations. -/
def stop : CodePoints := .parse "2E 2024 FE52 FF0E"

def terminator : CodePoints := sentenceTerminal.difference stop

/-- Brackets and quotation marks. -/
def close : CodePoints :=
  .union [openPunctuation, closePunctuation, initialPunctuation, finalPunctuation,
    .parse "22 27 275B-2760 2E00-2E01 2E06-2E08 2E0B 1F676-1F678"]

def named : List (List String × CodePoints) := [
  (["aterm", "at"], stop),
  (["cr"], .single 13),
  (["close", "cl"], close),
  (["extend", "ex"], extend),
  (["format", "fo"], format),
  (["lf"], .single 10),
  (["lower", "lo"], lower),
  (["numeric", "nu"], numerals),
  (["oletter", "le"], otherLetter),
  (["scontinue", "sc"], .parse "
    2C-2D 3A-3B 37E 55D 60C-60D 7F8 1802 1808 2013-2014 3001 FE10-FE11 FE13-FE14 FE31-FE32
    FE50-FE51 FE54-FE55 FE58 FE63 FF0C-FF0D FF1A-FF1B FF64"),
  (["sterm", "st"], terminator),
  (["sep", "se"], separator),
  (["sp"], space),
  (["upper", "up"], upper)]

/-- The code points of a class by its name in lower case without separators. -/
def find? (name : String) : Option CodePoints := CodePoints.lookUp named name

end Sentence

end Switchboard.Segment
