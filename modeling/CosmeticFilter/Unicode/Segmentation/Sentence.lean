/-
The classes of the rules for sentences.
-/
import CosmeticFilter.Unicode.Segmentation.Basic

namespace CosmeticFilter.Unicode.Sentence

def extending : CodeSet :=
  .unions [Property.graphemeExtend.set, Category.spacingMarks, BreakClass.joiner.set]

def separators : CodeSet := .ofLines ["85 2028-2029"]

/-- Small letters, but for those of Georgian, which sentences begin with too. -/
def lower : CodeSet :=
  (Property.lowercase.set.diff Property.graphemeExtend.set).diff (.ofLines ["10D0-10FA 10FD-10FF"])

/-- Capital letters, but for those of Georgian. -/
def upper : CodeSet :=
  (Category.titlecaseLetters.union Property.uppercase.set).diff (.ofLines ["1C90-1CBA 1CBD-1CBF"])

def otherLetters : CodeSet :=
  (Property.alphabetic.set.union (.ofLines ["5F3"])).diff (.unions [lower, upper, extending])

/-- Full stops, which also end abbreviations. -/
def fullStops : CodeSet := .ofLines ["2E 2024 FE52 FF0E"]

def terminals : CodeSet :=
  Property.sentenceTerminal.set.diff fullStops

/-- Brackets and quotation marks. -/
def closing : CodeSet :=
  (CodeSet.unions [Category.openPunctuation, Category.closePunctuation,
    Category.initialPunctuation, Category.finalPunctuation,
    .ofLines ["22 27 275B-2760 2E00-2E01 2E06-2E08 2E0B 1F676-1F678"]]).diff
    (fullStops.union terminals)

def formats : CodeSet :=
  Category.formats.diff (.unions [.ofLines ["200C-200D"], extending, numberSigns])

def spaces : CodeSet :=
  Property.whiteSpace.set.diff (separators.union (.ofLines ["A D"]))

def classes : List BreakClass :=
  [.carriageReturn, .lineFeed,
   ⟨["se", "sep"], separators⟩,
   ⟨["ex", "extend"], extending⟩,
   ⟨["fo", "format"], formats⟩,
   ⟨["sp"], spaces⟩,
   ⟨["lo", "lower"], lower⟩,
   ⟨["up", "upper"], upper⟩,
   ⟨["le", "oletter"], otherLetters⟩,
   ⟨["nu", "numeric"], numeric.union (.ofLines ["66C"])⟩,
   ⟨["at", "aterm"], fullStops⟩,
   ⟨["sc", "scontinue"],
    .ofLines ["2C-2D 3A-3B 37E 55D 60C-60D 7F8 1802 1808 2013-2014 3001 FE10-FE11 FE13-FE14",
      "FE31-FE32 FE50-FE51 FE54-FE55 FE58 FE63 FF0C-FF0D FF1A-FF1B FF64"]⟩,
   ⟨["st", "sterm"], terminals⟩,
   ⟨["cl", "close"], closing⟩]

end CosmeticFilter.Unicode.Sentence
