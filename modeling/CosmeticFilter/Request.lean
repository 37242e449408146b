/-
Requests for runs.

A full request asks to evaluate everything; a partial one names the style sheets and
the changes that may have made a difference.  Requests that wait are merged into one.
-/
import CosmeticFilter.Mutation

namespace CosmeticFilter

/-- The work to do in a run; `S` is the type of style sheets and `N` that of nodes. -/
inductive Request (S N : Type) where
  | full
  | partly (sheets : List S) (changes : List (Mutation N))
  deriving DecidableEq, Repr

namespace Request

variable {S N : Type}

/-- Both requests in one.  A full request absorbs any other. -/
def merge : Request S N → Request S N → Request S N
  | partly sheets changes, partly moreSheets moreChanges =>
    partly (sheets ++ moreSheets) (changes ++ moreChanges)
  | _, _ => full

def isFull : Request S N → Bool
  | full => true
  | partly .. => false

/-- The sheets that the request names. -/
def sheets : Request S N → List S
  | full => []
  | partly sheets _ => sheets

/-- The changes that the request names. -/
def changes : Request S N → List (Mutation N)
  | full => []
  | partly _ changes => changes

/-- A new request beside one that may be waiting. -/
def joinTo (waiting : Option (Request S N)) (request : Request S N) : Request S N :=
  match waiting with
  | some first => first.merge request
  | none => request

end Request

end CosmeticFilter
