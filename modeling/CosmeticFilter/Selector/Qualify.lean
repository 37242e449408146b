/-
Joining selector texts.

A selector text may be followed by another one.  Where neither of them supplies a
combinator at the seam, the second is taken to describe descendants of what the first
describes.
-/
import CosmeticFilter.Text.Blank

namespace CosmeticFilter.SelectorText

open CosmeticFilter.Text

/-- The character relates what stands on its two sides. -/
def isSeam (c : Char) : Bool :=
  isWhite c || c == '>' || c == '+' || c == '~'

/-- A selector has to follow: the text is empty or ends in a combinator. -/
def isIncomplete (text : String) : Bool :=
  text.toList.getLast?.all isSeam

/-- The text starts with a combinator. -/
def startsWithSeam (text : String) : Bool :=
  text.toList.head?.any isSeam

/-- The text `sub` after the text `before`. -/
def qualify (sub before : String) : String :=
  if isIncomplete before || startsWithSeam sub then before ++ sub else before ++ " " ++ sub

/-- A text that is left incomplete goes on with any element. -/
def complete (text : String) : String :=
  if isIncomplete text then text ++ "*" else text

/-- The text before the last two colons in a row, or all of it. -/
def dropPseudoElement (text : List Char) : List Char :=
  let rec before? : List Char → Option (List Char)
    | [] => none
    | c :: rest =>
      match before? rest with
      | some found => some (c :: found)
      | none => if c = ':' ∧ rest.head? = some ':' then some [] else none
  (before? text).getD text

/-- The text without a star at its start. -/
def dropStar (text : List Char) : List Char :=
  match text with
  | '*' :: rest => rest
  | _ => text

end CosmeticFilter.SelectorText
