/-
Regular expressions.

An expression is built from sets of characters, tests on positions, sequence,
choice and repetition.  The two leaf types are parameters: a parsed expression has
sets and tests at its leaves, and an expression prepared for one text has the positions
of that text where they apply.  Groups only bind, since nothing but the
existence of a match is ever asked.
-/
import CosmeticFilter.Unicode.CaseFolding
import CosmeticFilter.Unicode.Property

namespace CosmeticFilter

open CosmeticFilter.Unicode

/-- Expressions over sets `S` of characters and tests `T` on positions. -/
inductive Expr (S T : Type) where
  /-- Matches without taking a character. -/
  | empty
  /-- Takes one character of the set. -/
  | one (set : S)
  /-- Holds at a position and takes nothing. -/
  | test (test : T)
  | seq (first second : Expr S T)
  | alt (left right : Expr S T)
  /-- The body at least `least` times, and at most `most` times if that is given. -/
  | times (least : Nat) (most : Option Nat) (body : Expr S T)

/-- The same expression with other leaves. -/
def Expr.map {S T S' T' : Type} (f : S → S') (g : T → T') : Expr S T → Expr S' T'
  | empty => empty
  | one s => one (f s)
  | test t => test (g t)
  | seq a b => seq (a.map f g) (b.map f g)
  | alt a b => alt (a.map f g) (b.map f g)
  | times least most body => times least most (body.map f g)

/-! ### Sets -/

namespace Regex

/-- ASCII word characters. -/
def asciiWord : CodeSet :=
  ⟨[⟨0x30, 0x39⟩, ⟨0x41, 0x5A⟩, ⟨0x5F, 0x5F⟩, ⟨0x61, 0x7A⟩]⟩

/-- The word characters of Unicode or of ASCII. -/
def wordSet (unicode : Bool) : CodeSet :=
  if unicode then wordCharacters else asciiWord

/-- Some range of the set ends before the surrogates and the next one starts after them. -/
def seamOpen (set : CodeSet) : Bool :=
  set.ranges.any (·.last == CodeSet.beforeSurrogates) &&
    set.ranges.any (·.first == CodeSet.afterSurrogates)

/--
The negation of a class.  It has all characters that the class has not; where two ranges
of the class meet at the surrogates, the characters on both sides of them belong to the
negation too.
-/
def negation (set : CodeSet) : CodeSet :=
  if seamOpen set then
    set.compl.union (.interval CodeSet.beforeSurrogates CodeSet.afterSurrogates)
  else set.compl

end Regex

/-! ### Tests -/

/-- A test on a position; those on words take the words of Unicode or those of ASCII. -/
inductive PositionTest where
  | textStart
  | textEnd
  | lineStart
  | lineEnd
  /-- A line start where a carriage return, alone or before a line feed, ends a line too. -/
  | lineStartCrlf
  /-- A line end where a carriage return, alone or before a line feed, ends a line too. -/
  | lineEndCrlf
  | wordBoundary (unicode : Bool)
  | noWordBoundary (unicode : Bool)
  | wordStart (unicode : Bool)
  | wordEnd (unicode : Bool)
  /-- No word character stands before. -/
  | wordStartHalf (unicode : Bool)
  /-- No word character stands after. -/
  | wordEndHalf (unicode : Bool)
  deriving DecidableEq, Repr

namespace PositionTest

/-- There is a character, and it is a word character. -/
def inWord (unicode : Bool) (c : Option Char) : Bool :=
  c.any fun c => (Regex.wordSet unicode).has c.toNat

/-- What the test says of a position, given the characters before and after it. -/
def holds (test : PositionTest) (before after : Option Char) : Bool :=
  match test with
  | textStart => before.isNone
  | textEnd => after.isNone
  | lineStart => before.isNone || before == some '\n'
  | lineEnd => after.isNone || after == some '\n'
  | lineStartCrlf =>
    before.isNone || before == some '\n' || (before == some '\r' && after != some '\n')
  | lineEndCrlf =>
    after.isNone || after == some '\r' || (after == some '\n' && before != some '\r')
  | wordBoundary unicode => inWord unicode before != inWord unicode after
  | noWordBoundary unicode => inWord unicode before == inWord unicode after
  | wordStart unicode => !inWord unicode before && inWord unicode after
  | wordEnd unicode => inWord unicode before && !inWord unicode after
  | wordStartHalf unicode => !inWord unicode before
  | wordEndHalf unicode => !inWord unicode after

end PositionTest

/-- An expression as it is written. -/
abbrev RegexExpr := Expr CodeSet PositionTest

end CosmeticFilter
