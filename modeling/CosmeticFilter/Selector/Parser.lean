/-
Complex selectors from text.

The tokens of the text are taken one by one.  A combinator waits until the next
simple selector opens a new compound; blanks count as the descendant combinator
only where no sign stands beside them.  Faulty texts give selectors that are not
supported: two signs in a row leave an unsupported condition, and a sign at the end
leaves an empty compound.
-/
import CosmeticFilter.Selector.Token

namespace CosmeticFilter

/-- What has been read so far, and the combinator that waits for a compound. -/
structure PartialComplex where
  sel : Complex
  waiting : Option Combinator
  deriving DecidableEq, Repr

namespace PartialComplex

/-- Nothing read yet. -/
def empty : PartialComplex := ⟨⟨[], []⟩, none⟩

/-- Takes one token of the text `source`. -/
def add (source : String) (state : PartialComplex) : Token → PartialComplex
  | .combinator comb =>
    match state.waiting with
    | none | some .descendant => { state with waiting := some comb }
    | some _ => { state with sel := state.sel.addSimple (.unsupported source) }
  | .blank =>
    if state.waiting.isNone && !state.sel.last.isEmpty then
      { state with waiting := some .descendant }
    else state
  | .simple simple =>
    match state.waiting with
    | some comb => ⟨(state.sel.addCombinator comb).addSimple simple, none⟩
    | none => ⟨state.sel.addSimple simple, none⟩

/-- The selector at the end of the text. -/
def finish (state : PartialComplex) : Complex :=
  match state.waiting with
  | none | some .descendant => state.sel
  | some comb => state.sel.addCombinator comb

end PartialComplex

namespace Complex

/-- The selector made of the tokens of the text `source`. -/
def ofTokens (source : String) (tokens : List Token) : Complex :=
  (tokens.foldl (PartialComplex.add source) .empty).finish

/-- The complex selector that a text stands for. -/
def parse (source : String) : Complex :=
  ofTokens source (Token.all source.toList)

end Complex

end CosmeticFilter
