/-
Splitting a selector list at its commas.

Only commas at the top level separate: a comma between quotes or parentheses belongs
to its part, and a backslash takes the next character with it.  The parts are exact,
so that joining them with commas gives the text back.
-/
import CosmeticFilter.Selector.Parser

namespace CosmeticFilter.SelectorList

open CosmeticFilter.Text

/-- Where a scan of selector text stands: open parentheses and the open quote. -/
structure Nesting where
  depth : Nat
  quote : Option Char
  deriving DecidableEq, Repr

namespace Nesting

/-- Outside parentheses and quotes. -/
def top : Nesting := ⟨0, none⟩

/-- After a character that no backslash precedes. -/
def after (n : Nesting) (c : Char) : Nesting :=
  match n.quote with
  | some q => if c = q then { n with quote := none } else n
  | none =>
    if c = '"' ∨ c = '\'' then { n with quote := some c }
    else if c = '(' then { n with depth := n.depth + 1 }
    else if c = ')' then { n with depth := n.depth - 1 }
    else n

end Nesting

/-- One more character in front of the first part. -/
def consFirst (c : Char) : List (List Char) → List (List Char)
  | [] => [[c]]
  | part :: parts => (c :: part) :: parts

/-- The parts of the text, which goes on at the given nesting. -/
def splitFrom (n : Nesting) : List Char → List (List Char)
  | [] => [[]]
  | ['\\'] => [['\\']]
  | '\\' :: c :: rest => consFirst '\\' (consFirst c (splitFrom n rest))
  | c :: rest =>
    if c = ',' ∧ n = .top then [] :: splitFrom n rest
    else consFirst c (splitFrom (n.after c) rest)

/--
The parts of a selector list, untrimmed.  A text without a comma could be given back at once; no
such shortcut is taken, as the scan comes to the same: it cuts at commas only, so that a text
without one is its own single part.
-/
def split (text : String) : List String :=
  (splitFrom .top text.toList).map String.ofList

/-- The selector list that a text stands for; an empty part is an unsupported member. -/
def parse (text : String) : SelectorList :=
  (split text).map fun part => Complex.parse (trimmed part)

end CosmeticFilter.SelectorList
