/-
Pages.

A page is what filtering may ask of the document that it filters, at one moment.  It
knows nothing of how the document is kept; the only law is that the parents of an
element come to an end.
-/
import CosmeticFilter.Css.Rule
import CosmeticFilter.ElementTree
import CosmeticFilter.Text.Quoted

namespace CosmeticFilter

/-- Why a query has no answer. -/
inductive QueryError where
  /-- The selector is outside of the supported subset. -/
  | unsupported (selector : String)
  deriving DecidableEq, Repr

def QueryError.message : QueryError → String
  | unsupported selector => "unsupported selector " ++ Text.quoted selector

/-- The answers of a document; `N` is the type of its nodes and `S` that of its style sheets. -/
structure Page (N S : Type) where
  /-- The node that the whole document hangs from. -/
  document : N
  /-- The elements below a node that a selector matches, in tree order. -/
  queryAll : N → String → Except QueryError (List N)
  /-- The parent, if it is an element. -/
  parent? : N → Option N
  /-- Falls along parent links. -/
  depth : N → Nat
  depth_parent : ∀ {n p}, parent? n = some p → depth p < depth n
  /-- The children that are elements, in tree order. -/
  children : N → List N
  tag : N → String
  /-- The text of all text nodes below a node, joined. -/
  textContent : N → String
  /-- The second node is the first one or below it. -/
  contains : N → N → Bool
  /-- The node hangs from the document node. -/
  isConnected : N → Bool
  location : String
  /-- The document is still being read. -/
  isLoading : Bool
  sheets : List S
  href? : S → Option String
  /-- The rules of a style sheet, unless access to them is refused. -/
  rules? : S → Option (List Css.Rule)

namespace Page

variable {N S : Type} (page : Page N S)

/-- The first element below a node that a selector matches. -/
def queryFirst (scope : N) (selector : String) : Except QueryError (Option N) :=
  (page.queryAll scope selector).map List.head?

/-- The ancestors of an element, nearest first. -/
def ancestors (n : N) : List N :=
  follow page.parent? (page.depth n) n

/-- One of the nodes contains the other. -/
def related (a b : N) : Bool :=
  page.contains a b || page.contains b a

/--
The steps of the path to a node, from the node upwards.  An element without parent
element is the root.  The path breaks off at a node that is not among the children of
its parent.
-/
def pathSteps [DecidableEq N] (n : N) : List N → List String
  | [] => [":root"]
  | parent :: above =>
    match (page.children parent).idxOf? n with
    | some i =>
      (page.tag n ++ ":nth-child(" ++ toString (i + 1) ++ ")") :: pathSteps parent above
    | none => []

/-- A selector that describes where an element stands, from the root on. -/
def path [DecidableEq N] (n : N) : String :=
  " > ".intercalate (page.pathSteps n (page.ancestors n)).reverse

end Page

end CosmeticFilter
