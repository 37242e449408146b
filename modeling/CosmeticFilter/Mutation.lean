/-
Reported changes of a document.

A record says which node changed and how.  Of a batch of records only two things
matter to filtering: the kinds of change in it and the nodes that it touched.
-/

namespace CosmeticFilter

/-- The kinds of change. -/
inductive MutationKind where
  | attributes | characterData | childList
  deriving DecidableEq, Repr

/-- One reported change; `N` is the type of nodes. -/
inductive Mutation (N : Type) where
  /-- An attribute of an element was set. -/
  | attributes (target : N) (name : String) (old : Option String)
  /-- The text of a text node was replaced. -/
  | characterData (target : N) (old : Option String)
  /-- Children were added to a node or removed from it. -/
  | childList (target : N) (added removed : List N)
  deriving DecidableEq, Repr

namespace Mutation

variable {N : Type}

def kind : Mutation N → MutationKind
  | attributes .. => .attributes
  | characterData .. => .characterData
  | childList .. => .childList

def target : Mutation N → N
  | attributes n _ _ | characterData n _ | childList n _ _ => n

/-- The nodes that a change touches: added nodes rather than their parent, unless it lost some. -/
def touched : Mutation N → List N
  | attributes n _ _ | characterData n _ => [n]
  | childList n added removed => if removed.isEmpty then added else added ++ [n]

/-- The nodes that a batch touches, each once, in order of appearance. -/
def targets [DecidableEq N] (batch : List (Mutation N)) : List N :=
  (batch.flatMap touched).foldl (fun seen n => if seen.contains n then seen else seen ++ [n]) []

/-- The batch holds a change of the given kind. -/
def anyOf (batch : List (Mutation N)) (kind : MutationKind) : Bool :=
  batch.any fun record => record.kind == kind

end Mutation

end CosmeticFilter
