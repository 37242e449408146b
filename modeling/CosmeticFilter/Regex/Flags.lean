/-
Flags, and what they change while an expression is read.

Flags hold from where they are set to the end of the group around them.  Besides the
flags of the case and of lines there is one for free layout, in which blanks and
comments between the parts of an expression are skipped.
-/
import CosmeticFilter.Regex.Basic
import CosmeticFilter.Text.Blank

namespace CosmeticFilter.Regex

open CosmeticFilter.Text CosmeticFilter.Unicode

/-- The flags in force at a point of an expression. -/
structure Flags where
  caseless : Bool
  multiLine : Bool
  dotAll : Bool
  unicode : Bool
  freeLayout : Bool
  crlf : Bool
  /-- Plain repetitions prefer few, and those with a question mark prefer many. -/
  lazyFirst : Bool
  deriving DecidableEq, Repr

/-- Sets or clears the flag with this letter. -/
def Flags.assign? (flags : Flags) (on : Bool) : Char → Option Flags
  | 'i' => some { flags with caseless := on }
  | 'm' => some { flags with multiLine := on }
  | 's' => some { flags with dotAll := on }
  | 'U' => some { flags with lazyFirst := on }
  | 'u' => some { flags with unicode := on }
  | 'R' => some { flags with crlf := on }
  | 'x' => some { flags with freeLayout := on }
  | _ => none

/-- Skips blanks and comments, the text starting inside a comment or not. -/
def skipLayout : Bool → List Char → List Char
  | _, [] => []
  | true, c :: rest => skipLayout (c != '\n') rest
  | false, c :: rest =>
    if isWhite c then skipLayout false rest
    else if c = '#' then skipLayout true rest
    else c :: rest

/-- The text from the next significant character on. -/
def Flags.skip (flags : Flags) (cs : List Char) : List Char :=
  if flags.freeLayout then skipLayout false cs else cs

/-- The set closed under case, where case does not matter. -/
def Flags.fold (flags : Flags) (set : CodeSet) : CodeSet :=
  if flags.caseless then (if flags.unicode then set.closeCase else set.closeAsciiCase) else set

end CosmeticFilter.Regex
