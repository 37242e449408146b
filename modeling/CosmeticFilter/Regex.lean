/-
Compiled regular expressions.

A compiled expression keeps its source beside its meaning.  Compiling fails for
every text that is not a well-formed expression within the limits.
-/
import CosmeticFilter.Regex.Match
import CosmeticFilter.Regex.Parser

namespace CosmeticFilter

/-- An expression with the text that it was compiled from. -/
structure Regex where
  source : String
  expr : RegexExpr

namespace Regex

/-- The flags in force where an expression says nothing about them. -/
def startFlags (caseless multiLine : Bool) : Flags :=
  ⟨caseless, multiLine, false, true, false, false, false⟩

/-- The meaning of an expression's text. -/
def parse? (flags : Flags) (source : List Char) : Option RegexExpr := do
  let part ← State.finish? ⟨flags, .empty, [], [], 0, source⟩
  guard part.isModerate
  return part.expr

/-- Compiles an expression. -/
def compile? (source : String) (caseless multiLine : Bool) : Option Regex :=
  (parse? (startFlags caseless multiLine) source.toList).map fun expr => ⟨source, expr⟩

/-- The text contains a match. -/
def isMatch (regex : Regex) (text : String) : Bool :=
  regex.expr.search text.toList

/-- Characters with a meaning of their own in expressions. -/
def isMeta (c : Char) : Bool :=
  "\\.+*?()|[]\x7b\x7d^$#&-~".toList.contains c

/-- The character written so that it stands for itself. -/
def escapeChar (c : Char) : List Char :=
  if isMeta c then ['\\', c] else [c]

/-- An expression that matches exactly the given text. -/
def escape (text : String) : String :=
  String.ofList (text.toList.flatMap escapeChar)

end Regex

end CosmeticFilter
