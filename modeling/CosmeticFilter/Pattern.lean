/-
Patterns.

A pattern is a selector chain that has been registered together with the text of the
filter it comes from.  Two patterns of the same chain and text are still two patterns,
told apart by the numbers that they got when they were registered.
-/
import CosmeticFilter.Chain.Parser

namespace CosmeticFilter

/-- What a caller asks to be registered. -/
structure PatternSource where
  selector : String
  /-- The text of the filter, which is reported together with matches. -/
  text : String
  deriving DecidableEq, Repr

structure Pattern where
  /-- No other pattern has this number. -/
  serial : Nat
  chain : Chain
  text : String

namespace Pattern

/-- The same registration. -/
def same (a b : Pattern) : Bool :=
  a.serial == b.serial

/-- The changes of a document that can change the matches of the pattern. -/
def dependencies (pattern : Pattern) : Dependencies :=
  Chain.dependencies pattern.chain

end Pattern

end CosmeticFilter
