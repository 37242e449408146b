/-
Selector chains.

An extended selector is a chain of links: stretches of plain selector text and the
three extended pseudo-classes between them.  A chain says of itself which changes of
a document can change what it matches.
-/
import CosmeticFilter.Expression.Argument

namespace CosmeticFilter

/-- One link of a chain. -/
inductive Link where
  /-- Plain selector text, taken as it stands. -/
  | plain (text : String)
  /-- An element with a descendant that the argument finds. -/
  | has (argument : List Link)
  /-- An element whose text the expression matches; no expression matches nothing. -/
  | contains (expression : Option Regex)
  /-- An element styled by a rule that the expression matches; no expression matches nothing. -/
  | properties (expression : Option Regex)

/-- Links in the order written. -/
abbrev Chain := List Link

/-! ### Dependencies -/

/-- The changes of a document that matter. -/
structure Dependencies where
  style : Bool
  text : Bool
  attributes : Bool
  /-- The plain text may relate siblings, so that a change matters beyond its own subtree. -/
  siblings : Bool
  deriving DecidableEq, Repr

namespace Dependencies

def none : Dependencies := ⟨false, false, false, false⟩

def union (a b : Dependencies) : Dependencies :=
  ⟨a.style || b.style, a.text || b.text, a.attributes || b.attributes, a.siblings || b.siblings⟩

/-- Inside an argument a change of style shows as a change of attributes. -/
def ofArgument (inner : Dependencies) : Dependencies :=
  { inner with attributes := inner.attributes || inner.style }

end Dependencies

/-- After the first opening bracket there is a closing one, with at least one character between. -/
def hasBrackets (cs : List Char) : Bool :=
  match cs.dropWhile (· != '[') with
  | _ :: _ :: rest => rest.contains ']'
  | _ => false

/-- The dependencies of plain selector text, judged by its characters. -/
def plainDependencies (text : String) : Dependencies :=
  let cs := text.toList
  ⟨false, false, cs.any (fun c => c == '#' || c == '.') || hasBrackets cs,
   cs.any fun c => c == '~' || c == '+'⟩

mutual

/-- The changes that matter to a link. -/
def Link.dependencies : Link → Dependencies
  | .plain text => plainDependencies text
  | .has argument => (Chain.dependencies argument).ofArgument
  | .contains _ => { Dependencies.none with text := true }
  | .properties _ => { Dependencies.none with style := true }

/-- The changes that matter to some link of a chain. -/
def Chain.dependencies : List Link → Dependencies
  | [] => .none
  | link :: rest => link.dependencies.union (Chain.dependencies rest)

end

namespace Link

def isProperties : Link → Bool
  | properties _ => true
  | _ => false

/-- The link judges elements one by one. -/
def judgesElements : Link → Bool
  | has _ | contains _ => true
  | _ => false

end Link

/--
The selectors that the chain resolves to stay valid without looking at elements: it has
a `properties` link, and neither `has` nor `contains` beside it.
-/
def Chain.resolvesToSelectors (chain : Chain) : Bool :=
  chain.any Link.isProperties && !chain.any Link.judgesElements

end CosmeticFilter
