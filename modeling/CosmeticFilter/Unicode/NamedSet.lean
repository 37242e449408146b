/-
Sets of code points that go by names: the binary properties and the scripts.

Code points that several scripts use belong to a script of their own, the common or the
inherited one.  For each script those are listed that it shares in this way.
-/
import CosmeticFilter.Unicode.CodeSet

namespace CosmeticFilter.Unicode

/-- A binary property of the Unicode standard. -/
structure Property where
  names : List String
  set : CodeSet

/-- The code point has the property. -/
def Property.has (property : Property) (code : Nat) : Bool :=
  property.set.has code

/-- A script of the Unicode standard.  The first of its names is the four-letter code. -/
structure Script where
  names : List String
  set : CodeSet
  /-- The code points of other scripts that are used with this one. -/
  shared : CodeSet := .empty

end CosmeticFilter.Unicode
