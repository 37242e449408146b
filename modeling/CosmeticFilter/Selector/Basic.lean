/-
Selectors.

A complex selector is a chain of compounds joined by combinators, and a compound is
a list of conditions on one element.  Text outside the supported subset is kept as
an `unsupported` condition, which no element meets, so that the caller can refuse
the selector instead of finding nothing.
-/

namespace CosmeticFilter

/-- One condition on an element. -/
inductive Simple where
  /-- `*` -/
  | universal
  /-- The element's tag, in small letters. -/
  | type (name : String)
  | class (name : String)
  | id (name : String)
  /-- The element has the attribute, whose name is in small letters. -/
  | attribute (name : String)
  /-- The element has the attribute with exactly this value. -/
  | attributeIs (name value : String)
  /-- `:root` -/
  | root
  /-- `:scope`, the element that a query starts from. -/
  | scope
  /-- `:nth-child(n)`, counting from one. -/
  | nthChild (position : Nat)
  /-- Text that stands for no condition of the subset. -/
  | unsupported (text : String)
  deriving DecidableEq, Repr

/-- How two neighbouring compounds are related. -/
inductive Combinator where
  | descendant | child | adjacent | sibling
  deriving DecidableEq, Repr

/-- Conditions that one element meets together. -/
abbrev Compound := List Simple

/-- Compounds from left to right, each but the first with the combinator before it. -/
structure Complex where
  first : Compound
  rest : List (Combinator × Compound)
  deriving DecidableEq, Repr

/-- Alternatives, in the order written. -/
abbrev SelectorList := List Complex

def Simple.isSupported : Simple → Bool
  | .unsupported _ => false
  | _ => true

namespace Complex

/-- The compounds from left to right. -/
def compounds (sel : Complex) : List Compound :=
  sel.first :: sel.rest.map (·.2)

/-- The compound that the matching element itself meets. -/
def last (sel : Complex) : Compound :=
  match sel.rest.getLast? with
  | some pair => pair.2
  | none => sel.first

/-- No compound is empty, and none holds an unsupported condition. -/
def isSupported (sel : Complex) : Bool :=
  sel.compounds.all fun compound => !compound.isEmpty && compound.all Simple.isSupported

/-- One more condition on the last compound. -/
def addSimple (sel : Complex) (simple : Simple) : Complex :=
  match sel.rest.reverse with
  | [] => { sel with first := sel.first ++ [simple] }
  | (comb, compound) :: before =>
    { sel with rest := before.reverse ++ [(comb, compound ++ [simple])] }

/-- A new, empty compound after a combinator. -/
def addCombinator (sel : Complex) (comb : Combinator) : Complex :=
  { sel with rest := sel.rest ++ [(comb, [])] }

end Complex

/-- The list is not empty, and every alternative is supported. -/
def SelectorList.isSupported (list : SelectorList) : Bool :=
  !list.isEmpty && list.all Complex.isSupported

end CosmeticFilter
