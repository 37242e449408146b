/-
General categories.

Every code point has exactly one general category.  The tables list the assigned
ones; a code point in none of them is unassigned.  The larger classes (letter,
mark, …) are unions of categories, and both kinds go by the names of the standard.
-/
import CosmeticFilter.Unicode.Category.Control
import CosmeticFilter.Unicode.Category.Letter
import CosmeticFilter.Unicode.Category.Mark
import CosmeticFilter.Unicode.Category.Number
import CosmeticFilter.Unicode.Category.Punctuation
import CosmeticFilter.Unicode.Category.Symbol

namespace CosmeticFilter.Unicode.Category

/-! ### Unions of categories -/

def casedLetters : CodeSet :=
  .unions [uppercaseLetters, lowercaseLetters, titlecaseLetters]

def letters : CodeSet :=
  .unions [casedLetters, modifierLetters, otherLetters]

def marks : CodeSet :=
  .unions [nonspacingMarks, spacingMarks, enclosingMarks]

def numbers : CodeSet :=
  .unions [decimalNumbers, letterNumbers, otherNumbers]

def punctuation : CodeSet :=
  .unions [connectors, dashes, openPunctuation, closePunctuation, initialPunctuation,
    finalPunctuation, otherPunctuation]

def symbols : CodeSet :=
  .unions [mathSymbols, currencySymbols, modifierSymbols, otherSymbols]

def separators : CodeSet :=
  .unions [spaceSeparators, lineSeparators, paragraphSeparators]

/-- The code points with a visible form, but for the space. -/
def graphic : CodeSet :=
  .unions [letters, marks, numbers, punctuation, symbols]

/-- The code points that have a category of their own. -/
def assigned : CodeSet :=
  .unions [graphic, separators, controls, formats, surrogates, privateUse]

def unassigned : CodeSet := assigned.compl

/-! ### Names

A name is looked up in its loose form: small letters, without spaces, hyphens and
underscores.
-/

/-- The names of the classes.  Surrogates are no characters, so theirs is no class. -/
def named : List (List String × CodeSet) :=
  [(["any"], CodeSet.empty.compl),
   (["assigned"], unassigned.compl),
   (["ascii"], .interval 0 0x7F),
   (["c", "other"], .unions [controls, formats, surrogates, privateUse, unassigned]),
   (["cc", "control", "cntrl"], controls),
   (["cf", "format"], formats),
   (["cn", "unassigned"], unassigned),
   (["co", "privateuse"], privateUse),
   (["l", "letter"], letters),
   (["lc", "casedletter"], casedLetters),
   (["ll", "lowercaseletter"], lowercaseLetters),
   (["lm", "modifierletter"], modifierLetters),
   (["lo", "otherletter"], otherLetters),
   (["lt", "titlecaseletter"], titlecaseLetters),
   (["lu", "uppercaseletter"], uppercaseLetters),
   (["m", "mark", "combiningmark"], marks),
   (["mc", "spacingmark"], spacingMarks),
   (["me", "enclosingmark"], enclosingMarks),
   (["mn", "nonspacingmark"], nonspacingMarks),
   (["n", "number"], numbers),
   (["nd", "decimalnumber", "digit"], decimalNumbers),
   (["nl", "letternumber"], letterNumbers),
   (["no", "othernumber"], otherNumbers),
   (["p", "punctuation", "punct"], punctuation),
   (["pc", "connectorpunctuation"], connectors),
   (["pd", "dashpunctuation"], dashes),
   (["pe", "closepunctuation"], closePunctuation),
   (["pf", "finalpunctuation"], finalPunctuation),
   (["pi", "initialpunctuation"], initialPunctuation),
   (["po", "otherpunctuation"], otherPunctuation),
   (["ps", "openpunctuation"], openPunctuation),
   (["s", "symbol"], symbols),
   (["sc", "currencysymbol"], currencySymbols),
   (["sk", "modifiersymbol"], modifierSymbols),
   (["sm", "mathsymbol"], mathSymbols),
   (["so", "othersymbol"], otherSymbols),
   (["z", "separator"], separators),
   (["zl", "lineseparator"], lineSeparators),
   (["zp", "paragraphseparator"], paragraphSeparators),
   (["zs", "spaceseparator"], spaceSeparators)]

end CosmeticFilter.Unicode.Category
