/-
Classes of code points at the breaks of text.

The rules that divide text into graphemes, words and sentences each put every code point
into one class.  This module holds what the three sets of rules share.
-/
import CosmeticFilter.Unicode.Property

namespace CosmeticFilter.Unicode

/-- A class of code points that the rules for breaks name. -/
structure BreakClass where
  /-- The names of the class, in small letters and without underscores. -/
  names : List String
  set : CodeSet

namespace BreakClass

/-- The code points of the class of this name. -/
def named? (classes : List BreakClass) (name : String) : Option CodeSet :=
  (classes.find? (·.names.contains name)).map (·.set)

/-! ### Classes in all sets of rules -/

def carriageReturn : BreakClass := ⟨["cr"], .interval 0x0D 0x0D⟩

def lineFeed : BreakClass := ⟨["lf"], .interval 0x0A 0x0A⟩

def joiner : BreakClass := ⟨["zwj"], .interval 0x200D 0x200D⟩

def regionalIndicator : BreakClass :=
  ⟨["ri", "regionalindicator"], Property.regionalIndicator.set⟩

end BreakClass

/-- The signs that stand before a number and enclose it, but for the one of abbreviations. -/
def numberSigns : CodeSet :=
  Property.prependedConcatenationMark.set.diff (.interval 0x70F 0x70F)

/-- The decimal digits and the signs inside of numbers. -/
def numeric : CodeSet :=
  .unions [Category.decimalNumbers, numberSigns, .ofLines ["66B 19DA"]]

end CosmeticFilter.Unicode
