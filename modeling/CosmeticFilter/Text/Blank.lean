/-
Blanks.

Selector text separates its parts by the five ASCII blanks; trimming removes every
character that Unicode counts as white space, of which the blanks are five.
-/
import CosmeticFilter.Unicode.Property.Sign

namespace CosmeticFilter.Text

/-- Space, tab, line feed, form feed and carriage return. -/
def isBlank (c : Char) : Bool :=
  c == ' ' || c == '\t' || c == '\n' || c == '\x0C' || c == '\r'

/-- The characters that trimming removes. -/
def isWhite (c : Char) : Bool :=
  Unicode.Property.whiteSpace.has c.toNat

theorem isWhite_of_isBlank {c : Char} (h : isBlank c = true) : isWhite c = true := by
  simp only [isBlank, Bool.or_eq_true, beq_iff_eq] at h
  rcases h with (((h | h) | h) | h) | h <;> subst h <;> decide

/-- The characters from the first one that is not white on. -/
def trimLeft (cs : List Char) : List Char :=
  cs.dropWhile isWhite

/-- The characters up to the last one that is not white. -/
def trimRight (cs : List Char) : List Char :=
  (cs.reverse.dropWhile isWhite).reverse

/-- White space taken off at both ends. -/
def trim (cs : List Char) : List Char :=
  trimRight (trimLeft cs)

/-- The text without the white space at its ends. -/
def trimmed (s : String) : String :=
  String.ofList (trim s.toList)

/-- The longest parts of the text without blanks, in order. -/
def words (cs : List Char) : List (List Char) :=
  (cs.splitOnP isBlank).filter (!·.isEmpty)

end CosmeticFilter.Text
