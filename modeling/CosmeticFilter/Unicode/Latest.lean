/-
The latest version of the standard.

The tables of this library hold version 16.  Text for display, names and domains also
know the characters that version 17 added.
-/
import CosmeticFilter.Unicode.Property.Letter

namespace CosmeticFilter.Unicode.Latest

/-! ### Additions -/

def addedLetters : CodeSet := .ofLines
  ["88F C5C CDC A7CE-A7CF A7D2 A7D4 A7F1 10940-10959 10EC5-10EC7 11DB0-11DDB 16EA0-16EB8",
   "16EBB-16ED3 16FF2-16FF3 187F8-187FF 18D09-18D1E 18D80-18DF2 1E6C0-1E6DE 1E6E0-1E6E2",
   "1E6E4-1E6E5 1E6E7-1E6ED 1E6F0-1E6F4 1E6FE-1E6FF 2B73A-2B73F 2CEA2-2CEAD 323B0-33479"]

def addedNonspacingMarks : CodeSet := .ofLines
  ["1ACF-1ADD 1AE0-1AEB 10EFA-10EFB 11B60 11B62-11B64 11B66 1E6E3 1E6E6 1E6EE-1E6EF 1E6F5"]

def addedSpacingMarks : CodeSet := .ofLines ["11B61 11B65 11B67"]

def addedNumbers : CodeSet := .ofLines ["11DE0-11DE9 16FF4-16FF6"]

/-- Punctuation and symbols. -/
def addedSigns : CodeSet := .ofLines
  ["20C1 2B96 FBC3-FBD2 FD90-FD91 FDC8-FDCE 10ED0-10ED8 1CCFA-1CCFC 1CEBA-1CED0 1CEE0-1CEF0",
   "1F6D8 1F777-1F77A 1F8D0-1F8D8 1FA54-1FA57 1FA8A 1FA8E 1FAC8 1FACD 1FAEA 1FAEF 1FBFA"]

/-- The additions that are alphabetic without being letters. -/
def addedVowelSigns : CodeSet := .ofLines
  ["10EFA-10EFB 11B60-11B67 16FF4-16FF6 1E6E3 1E6E6 1E6EE-1E6EF 1E6F5"]

/-! ### Classes -/

def nonspacingMarks : CodeSet :=
  Category.nonspacingMarks.union addedNonspacingMarks

def marks : CodeSet :=
  .unions [Category.marks, addedNonspacingMarks, addedSpacingMarks]

def alphabetic : CodeSet :=
  .unions [Property.alphabetic.set, addedLetters, addedVowelSigns]

/-- Alphabetic characters and numbers of every kind. -/
def alphanumeric : CodeSet :=
  .unions [alphabetic, Category.numbers, addedNumbers]

/-- The code points with a visible form, but for the space. -/
def graphic : CodeSet :=
  .unions [Category.graphic, addedLetters, addedNonspacingMarks, addedSpacingMarks, addedNumbers,
    addedSigns]

/-- The code points that have a category of their own. -/
def assigned : CodeSet :=
  Category.assigned.union graphic

end CosmeticFilter.Unicode.Latest
