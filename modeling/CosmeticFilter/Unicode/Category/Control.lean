/-
The separators, and the control, format, surrogate and private-use characters, one table for
each general category.
-/
import CosmeticFilter.Unicode.CodeSet

namespace CosmeticFilter.Unicode.Category

/-- Space Separator (Zs). -/
def spaceSeparators : CodeSet := .ofLines
  ["20 A0 1680 2000-200A 202F 205F 3000"]

/-- Line Separator (Zl). -/
def lineSeparators : CodeSet := .ofLines
  ["2028"]

/-- Paragraph Separator (Zp). -/
def paragraphSeparators : CodeSet := .ofLines
  ["2029"]

/-- Control (Cc). -/
def controls : CodeSet := .ofLines
  ["0-1F 7F-9F"]

/-- Format (Cf). -/
def formats : CodeSet := .ofLines
  ["AD 600-605 61C 6DD 70F 890-891 8E2 180E 200B-200F 202A-202E 2060-2064 2066-206F FEFF",
   "FFF9-FFFB 110BD 110CD 13430-1343F 1BCA0-1BCA3 1D173-1D17A E0001 E0020-E007F"]

/-- Surrogate (Cs). -/
def surrogates : CodeSet := .ofLines
  ["D800-DFFF"]

/-- Private Use (Co). -/
def privateUse : CodeSet := .ofLines
  ["E000-F8FF F0000-FFFFD 100000-10FFFD"]

end CosmeticFilter.Unicode.Category
