/-
Rules of style sheets.

Only style rules matter to filtering; every other rule is kept as a place holder, so
that a sheet says how many rules it has and in which order they stand.
-/

namespace CosmeticFilter.Css

/-- A property with its value, and `important` or another priority if one is given. -/
structure Declaration where
  property : String
  value : String
  priority : Option String
  deriving DecidableEq, Repr

/-- Declarations for the elements that a selector list matches. -/
structure StyleRule where
  selectors : String
  declarations : List Declaration
  deriving DecidableEq, Repr

inductive Rule where
  | style (rule : StyleRule)
  /-- A rule of another kind, such as `@media`. -/
  | other
  deriving DecidableEq, Repr

/-- The style rule, if the rule is one. -/
def Rule.style? : Rule → Option StyleRule
  | style rule => some rule
  | other => none

end CosmeticFilter.Css
