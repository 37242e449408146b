/-
All binary properties, and the classes of code points that are made of them.
-/
import CosmeticFilter.Unicode.Property.CaseChange
import CosmeticFilter.Unicode.Property.Emoji
import CosmeticFilter.Unicode.Property.Identifier
import CosmeticFilter.Unicode.Property.Mark

namespace CosmeticFilter.Unicode

namespace Property

/-- Case is of no account to them: marks, formats, and signs inside of words. -/
def caseIgnorable : Property where
  names := ["CI", "Case_Ignorable"]
  set := .unions [Category.nonspacingMarks, Category.enclosingMarks, Category.formats,
    Category.modifierLetters, Category.modifierSymbols,
    .ofLines ["27 2E 3A B7 387 55F 5F4 2018-2019 2024 2027 FE13 FE52 FE55 FF07 FF0E FF1A"]]

/-- Every binary property. -/
def all : List Property :=
  ofLetters ++ ofCaseChanges ++ ofMarks ++ ofSigns ++ ofEmoji ++ ofIdentifiers ++ [caseIgnorable]

end Property

/-- Word characters: alphabetic code points, marks, decimal digits, connectors and joiners. -/
def wordCharacters : CodeSet :=
  .unions [Property.alphabetic.set, Category.marks, Category.decimalNumbers,
    Category.connectors, Property.joinControl.set]

end CosmeticFilter.Unicode
