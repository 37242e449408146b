/-
The classes of the rules for graphemes, which are what readers take for one character.

A mark continues a grapheme, and so do the parts of a Hangul syllable.
-/
import CosmeticFilter.Unicode.Segmentation.Basic

namespace CosmeticFilter.Unicode.Grapheme

/-- What continues any grapheme. -/
def extending : CodeSet :=
  Property.graphemeExtend.set.union Property.emojiModifier.set

/-- What stands before the characters of its grapheme. -/
def prepended : CodeSet :=
  Property.prependedConcatenationMark.set.union
    (.ofLines ["D4E 111C2-111C3 113D1 1193F 11941 11A3A 11A84-11A89 11D46 11F02"])

/-- Controls and formats, and unassigned code points kept for them. -/
def control : CodeSet :=
  (CodeSet.unions [Category.lineSeparators, Category.paragraphSeparators, Category.controls,
    Category.formats, Category.unassigned.inter Property.defaultIgnorable.set]).diff
    (.unions [.ofLines ["A D 200D"], extending, prepended])

/-- Marks that take room of their own. -/
def spacing : CodeSet :=
  (Category.spacingMarks.union (.ofLines ["E33 EB3"])).diff
    (extending.union <| .ofLines
      ["102B-102C 1038 1062-1064 1067-106D 1083 1087-108C 108F 109A-109C 1A61 1A63-1A64",
       "AA7B AA7D 11720-11721"])

/-- The first Hangul syllable. -/
def firstSyllable : Nat := 0xAC00

/-- The last Hangul syllable. -/
def lastSyllable : Nat := 0xD7A3

/-- The Hangul syllables without a final consonant. -/
def openSyllables : CodeSet :=
  .ofCodes (CodeSet.runCodes firstSyllable lastSyllable 28)

def classes : List BreakClass :=
  [.carriageReturn, .lineFeed, .joiner, .regionalIndicator,
   ⟨["cn", "control"], control⟩,
   ⟨["ex", "extend"], extending⟩,
   ⟨["pp", "prepend"], prepended⟩,
   ⟨["sm", "spacingmark"], spacing⟩,
   ⟨["l"], .ofLines ["1100-115F A960-A97C"]⟩,
   ⟨["v"], .ofLines ["1160-11A7 D7B0-D7C6 16D63 16D67-16D6A"]⟩,
   ⟨["t"], .ofLines ["11A8-11FF D7CB-D7FB"]⟩,
   ⟨["lv"], openSyllables⟩,
   ⟨["lvt"], (CodeSet.interval firstSyllable lastSyllable).diff openSyllables⟩]

end CosmeticFilter.Unicode.Grapheme
