/-
Text in messages.

A message shows a text between double quotes.  Quotes, backslashes and the usual
control characters are escaped by one letter, every other character without a
visible form of its own by its hexadecimal code point.
-/
import CosmeticFilter.Unicode.Latest
import CosmeticFilter.Unicode.Property.Mark

namespace CosmeticFilter.Text

open CosmeticFilter.Unicode

/-- Half-width voice marks: they extend a grapheme and yet have a form of their own. -/
def voiceMarks : CodeSet := .interval 0xFF9E 0xFF9F

/-- The characters that are shown as they are. -/
def visible : CodeSet :=
  (Latest.graphic.union (.only ' ')).diff
    ((CodeSet.unions [Property.defaultIgnorable.set, Property.graphemeExtend.set,
      Latest.addedNonspacingMarks]).diff voiceMarks)

/-- How one character is shown. -/
def escape (c : Char) : List Char :=
  match c with
  | '"' => ['\\', '"']
  | '\\' => ['\\', '\\']
  | '\n' => ['\\', 'n']
  | '\t' => ['\\', 't']
  | '\r' => ['\\', 'r']
  | '\x00' => ['\\', '0']
  | _ =>
    if visible.has c.toNat then [c]
    else ['\\', 'u', '\x7b'] ++ hexDigits c.toNat ++ ['\x7d']

/-- The text between double quotes. -/
def quoted (s : String) : String :=
  String.ofList ('"' :: (s.toList.flatMap escape ++ ['"']))

/-- A text that may be missing. -/
def quoted? : Option String → String
  | some s => "Some(" ++ quoted s ++ ")"
  | none => "None"

end CosmeticFilter.Text
