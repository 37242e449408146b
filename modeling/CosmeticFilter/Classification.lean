/-
What a request concerns.

Only patterns that the reported changes can affect take part in a run, and they look
only at candidates related to the changed nodes, unless their selectors relate
siblings.  A full request concerns every pattern and every candidate.
-/
import CosmeticFilter.Page
import CosmeticFilter.Pattern
import CosmeticFilter.Request

namespace CosmeticFilter

/-- A change of this kind can change the matches of the pattern. -/
def Pattern.affectedBy (pattern : Pattern) : MutationKind → Bool
  | .attributes => pattern.dependencies.attributes
  | .characterData => pattern.dependencies.text
  | .childList => true

/-- Some change of the batch can change the matches of the pattern. -/
def Pattern.affectedByBatch {N : Type} (pattern : Pattern) (batch : List (Mutation N)) : Bool :=
  batch.any fun record => pattern.affectedBy record.kind

/-- A pattern that takes part in a run. -/
structure Candidate (N : Type) where
  pattern : Pattern
  /-- The nodes to which the evaluation is confined; everything, if there are none given. -/
  targets : Option (List N)

/-- Which style sheets a run looks at. -/
inductive StyleScope where
  | allSheets
  /-- The sheets that the request names. -/
  | namedSheets
  deriving DecidableEq, Repr

/-- What a request concerns. -/
structure Classification (N : Type) where
  candidates : List (Candidate N)
  styleScope : StyleScope
  /-- Every pattern is evaluated on the whole document. -/
  full : Bool

namespace Classification

variable {N S : Type}

/-- Every pattern, on the whole document. -/
def everything (patterns : List Pattern) : Classification N where
  candidates := patterns.map (⟨·, none⟩)
  styleScope := .allSheets
  full := true

/-- The nodes that a partial run is confined to.  New style sheets can matter anywhere. -/
def confinement [DecidableEq N] (sheetsChanged : Bool) (changes : List (Mutation N)) :
    Option (List N) :=
  if sheetsChanged || changes.isEmpty then none else some (Mutation.targets changes)

/-- The patterns that new style sheets or other changes can affect. -/
def affected (patterns : List Pattern) (sheetsChanged : Bool) (changes : List (Mutation N)) :
    List Pattern :=
  patterns.filter fun pattern =>
    (sheetsChanged && pattern.dependencies.style) || pattern.affectedByBatch changes

/-- The candidates of a partial run. -/
def partialCandidates [DecidableEq N] (patterns : List Pattern) (sheetsChanged : Bool)
    (changes : List (Mutation N)) : List (Candidate N) :=
  (affected patterns sheetsChanged changes).map fun pattern =>
    ⟨pattern,
      if pattern.dependencies.siblings then none else confinement sheetsChanged changes⟩

/-- What new style sheets, if there are any, and other changes concern. -/
def ofChanges [DecidableEq N] (patterns : List Pattern) (sheetsChanged : Bool)
    (changes : List (Mutation N)) : Classification N :=
  let candidates := partialCandidates patterns sheetsChanged changes
  let styled := candidates.any fun candidate => candidate.pattern.dependencies.style
  { candidates := candidates
    styleScope := if !changes.isEmpty && styled then .allSheets else .namedSheets
    full := false }

/-- What a request concerns. -/
def ofRequest [DecidableEq N] (patterns : List Pattern) (request : Request S N) :
    Classification N :=
  match request with
  | .full => everything patterns
  | .partly sheets changes => ofChanges patterns (!sheets.isEmpty) changes

/-- Some candidate depends on styles. -/
def needsStyles (classification : Classification N) : Bool :=
  classification.candidates.any fun candidate => candidate.pattern.dependencies.style

/-- The style sheets that a run for the request looks at. -/
def indexed (page : Page N S) (request : Request S N) (classification : Classification N) :
    List S :=
  if classification.needsStyles then
    match classification.styleScope with
    | .allSheets => page.sheets
    | .namedSheets => request.sheets
  else []

end Classification

end CosmeticFilter
