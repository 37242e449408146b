/-
The classes of the rules for words.
-/
import CosmeticFilter.Unicode.Script
import CosmeticFilter.Unicode.Segmentation.Basic

namespace CosmeticFilter.Unicode.Word

/-- What continues any word. -/
def extending : CodeSet :=
  (CodeSet.unions [Property.graphemeExtend.set, Category.spacingMarks,
    Property.emojiModifier.set]).diff BreakClass.joiner.set

def katakana : CodeSet :=
  Script.katakana.set.union (.ofLines ["3031-3035 309B-309C 30A0 30FC FF70"])

def hebrewLetters : CodeSet :=
  Script.hebrew.set.inter Category.otherLetters

/-- The letters of scripts that put no space between words. -/
def unspaced : CodeSet := .ofLines
  ["E01-E3A E40-E4E E81-E82 E84 E86-E8A E8C-EA3 EA5 EA7-EBD EC0-EC4 EC6 EC8-ECE EDC-EDF",
   "1000-103F 1050-108F 109A-109F 1780-17D3 17D7 17DC-17DD 1950-196D 1970-1974 1980-19AB",
   "19B0-19C9 19DA 19DE-19DF 1A20-1A5E 1A60-1A7C 1AA0-1AAD A9E0-A9EF A9FA-A9FE AA60-AAC2",
   "AADB-AADF 11700-1171A 1171D-1172B 1173A-1173B 1173F-11746"]

/-- Signs that words take like letters. -/
def letterLike : CodeSet := .ofLines
  ["B8 2C2-2C5 2D2-2D7 2DE-2DF 2E5-2EB 2ED 2EF-2FF 55A-55C 55E 58A 5F3 70F A708-A716 A720-A721",
   "A789-A78A AB5B"]

def letters : CodeSet :=
  (Property.alphabetic.set.union letterLike).diff
    (.unions [Property.ideographic.set, katakana, unspaced, Script.hiragana.set, extending,
      hebrewLetters])

def formats : CodeSet :=
  Category.formats.diff (.unions [.ofLines ["70F 200B-200D"], extending, numberSigns])

def spaces : CodeSet :=
  Category.spaceSeparators.diff (.ofLines ["A0 2007 202F"])

def classes : List BreakClass :=
  [.carriageReturn, .lineFeed, .joiner, .regionalIndicator,
   ⟨["nl", "newline"], .ofLines ["B-C 85 2028-2029"]⟩,
   ⟨["extend"], extending⟩,
   ⟨["fo", "format"], formats⟩,
   ⟨["ka", "katakana"], katakana⟩,
   ⟨["hl", "hebrewletter"], hebrewLetters⟩,
   ⟨["le", "aletter"], letters⟩,
   ⟨["sq", "singlequote"], .interval 0x27 0x27⟩,
   ⟨["dq", "doublequote"], .interval 0x22 0x22⟩,
   ⟨["mb", "midnumlet"], .ofLines ["2E 2018-2019 2024 FE52 FF07 FF0E"]⟩,
   ⟨["ml", "midletter"], .ofLines ["3A B7 387 55F 5F4 2027 FE13 FE55 FF1A"]⟩,
   ⟨["mn", "midnum"],
    .ofLines ["2C 3B 37E 589 60C-60D 66C 7F8 2044 FE10 FE14 FE50 FE54 FF0C FF1B"]⟩,
   ⟨["nu", "numeric"], numeric⟩,
   ⟨["ex", "extendnumlet"], Category.connectors.union (.interval 0x202F 0x202F)⟩,
   ⟨["wsegspace"], spaces⟩]

end CosmeticFilter.Unicode.Word
