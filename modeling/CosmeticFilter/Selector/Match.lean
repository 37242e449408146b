/-
Matching selectors against elements.

A complex selector is matched from right to left: the element must meet the last
compound, and some element on its left (in the sense of the combinator) must meet
the one before, and so on.  All candidates on the left are tried, so that the answer
does not depend on which of them happens to come first.
-/
import CosmeticFilter.ElementTree
import CosmeticFilter.Selector.Split

namespace CosmeticFilter

open CosmeticFilter.Text

variable {N : Type} [DecidableEq N]

/-- The element meets one condition; `scope` is the element that a query starts from, if any. -/
def Simple.matches (tree : ElementTree N) (scope : Option N) (n : N) : Simple → Bool
  | .universal => true
  | .type name => sameName (tree.tag n) name
  | .class name => tree.hasClass n name
  | .id name => tree.id? n == some name
  | .attribute name => (tree.attribute? n name).isSome
  | .attributeIs name value => tree.attribute? n name == some value
  | .root => tree.isRoot n
  | .scope =>
    match scope with
    | some s => s == n
    | none => tree.isRoot n
  | .nthChild position => tree.position n == position
  | .unsupported _ => false

/-- The element meets all conditions of a compound that has some. -/
def Compound.matches (tree : ElementTree N) (scope : Option N) (n : N) (compound : Compound) :
    Bool :=
  !compound.isEmpty && compound.all (Simple.matches tree scope n)

/-- The elements that a combinator allows on the left of an element. -/
def Combinator.leftOf (tree : ElementTree N) (n : N) : Combinator → List N
  | .descendant => tree.ancestors n
  | .child => (tree.parent? n).toList
  | .adjacent => (tree.previous? n).toList
  | .sibling => tree.preceding n

/-- Given compounds from left to right, the last one and the others from right to left. -/
def Complex.fromRight (left : Compound) (seen : List (Combinator × Compound)) :
    List (Combinator × Compound) → Compound × List (Combinator × Compound)
  | [] => (left, seen)
  | (comb, compound) :: more => fromRight compound ((comb, left) :: seen) more

/-- Elements to the left of `n` meet the remaining compounds, given from right to left. -/
def Complex.matchesLeft (tree : ElementTree N) (scope : Option N) :
    List (Combinator × Compound) → N → Bool
  | [], _ => true
  | (comb, compound) :: more, n =>
    (comb.leftOf tree n).any fun left =>
      Compound.matches tree scope left compound && matchesLeft tree scope more left

/-- The element matches the complex selector. -/
def Complex.matches (tree : ElementTree N) (scope : Option N) (n : N) (sel : Complex) : Bool :=
  let (last, left) := Complex.fromRight sel.first [] sel.rest
  Compound.matches tree scope n last && Complex.matchesLeft tree scope left n

/-- The element matches some member of the list. -/
def SelectorList.matches (tree : ElementTree N) (scope : Option N) (n : N) (list : SelectorList) :
    Bool :=
  list.any (Complex.matches tree scope n)

/--
The elements below `start` that match the list, in tree order.  Elements outside the
subtree may satisfy combinators; `:scope` means `start` when that is an element.
-/
def ElementTree.query (tree : ElementTree N) (start : N) (startIsElement : Bool)
    (list : SelectorList) : List N :=
  (tree.descendants start).filter fun n =>
    list.matches tree (if startIsElement then some start else none) n

end CosmeticFilter
