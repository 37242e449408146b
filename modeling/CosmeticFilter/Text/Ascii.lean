/-
Case-insensitive comparison of names.

Names in selectors and documents are compared without regard to the case of the
letters A to Z; all other characters are compared as they are.
-/

namespace CosmeticFilter.Text

/-- The text with the letters A to Z made small. -/
def lower (s : String) : String :=
  String.ofList (s.toList.map Char.toLower)

/-- Equal up to the case of the letters A to Z. -/
def sameName (a b : String) : Bool :=
  a.toList.map Char.toLower == b.toList.map Char.toLower

end CosmeticFilter.Text
