/-
Styles.

A style rule matters to filtering in two ways: by the text of its declarations, which
expressions are matched against, and by its selectors.  The text does not depend on
the order in which the declarations were written.
-/
import CosmeticFilter.Css.Rule
import CosmeticFilter.Selector.Split

namespace CosmeticFilter

open CosmeticFilter.Text

/-- A style rule, as filtering sees it. -/
structure Style where
  /-- The declarations as text, sorted. -/
  text : String
  /-- The members of the selector list, without white space at their ends. -/
  selectors : List String
  deriving DecidableEq, Repr

/-- One declaration as text; an empty priority counts as none. -/
def Css.Declaration.text (d : Css.Declaration) : String :=
  match d.priority with
  | none | some "" => d.property ++ ": " ++ d.value ++ ";"
  | some priority => d.property ++ ": " ++ d.value ++ " !" ++ priority ++ ";"

namespace Style

/-- The declarations as text, in the order of code points. -/
def sortedTexts (declarations : List Css.Declaration) : List String :=
  (declarations.map Css.Declaration.text).mergeSort fun a b => !decide (b < a)

/-- The style of a rule. -/
def ofRule (rule : Css.StyleRule) : Style :=
  ⟨" ".intercalate (sortedTexts rule.declarations), (SelectorList.split rule.selectors).map trimmed⟩

end Style

end CosmeticFilter
