/-
What an evaluation gives, all at once.

The items of a chain are described by recursion on the chain: each link takes steps, and
every selector among them is refined by the items of the links that follow.  Nothing is
suspended here and no state is kept, so this is the meaning of an evaluation that is
pulled to its end on a page that does not change.
-/
import CosmeticFilter.Evaluation.Pull

namespace CosmeticFilter

variable {N S : Type}

/-- The selectors that a `properties` link resolves to. -/
def resolveProperties (styles : List Style) (expression : Option Regex) (before : String) :
    List String :=
  (styles.filter fun style => matchesText expression style.text).flatMap fun style =>
    style.selectors.filterMap (resolveProperty? before)

variable [DecidableEq N]

/-- A step of one link. -/
inductive LinkStep (N : Type) where
  /-- A selector, the scope in which the next link looks, and the candidate it comes from. -/
  | resolved (selector : String) (scope : N) (anchor : Option N)
  | pause
  deriving DecidableEq, Repr

/-- The same item, derived from one more candidate. -/
def Item.anchoredAt (anchor : Option N) : Item N → Item N
  | .found selector anchors => .found selector (anchor.toList ++ anchors)
  | .pause => .pause

namespace Candidates

/-- The candidates that the page has; none, if the query fails. -/
def all (page : Page N S) (before : String) (scope : N) : List N :=
  ((page.queryAll scope (SelectorText.complete before)).toOption).getD []

end Candidates

namespace Evaluation

/-- The steps of `contains` through its candidates, after the last match. -/
def containsSteps (scene : Scene N S) (expression : Option Regex) (scope : N) :
    Option N → List N → List (LinkStep N)
  | _, [] => []
  | last, candidate :: more =>
    if last.any (scene.page.contains · candidate) || scene.prunes candidate then
      .pause :: containsSteps scene expression scope last more
    else if matchesText expression (scene.page.textContent candidate) then
      .resolved (scene.page.path candidate) scope (some candidate) ::
        containsSteps scene expression scope (some candidate) more
    else .pause :: containsSteps scene expression scope last more

/-- The steps of `has` for one candidate, given the items of its argument. -/
def trialSteps (page : Page N S) (candidate : N) : List (Item N) → List (LinkStep N)
  | [] => [.pause]
  | .pause :: more => .pause :: trialSteps page candidate more
  | .found selector _ :: more =>
    match page.queryFirst candidate selector with
    | .ok (some _) => [.resolved (page.path candidate) candidate (some candidate)]
    | _ => .pause :: trialSteps page candidate more

/-- A step of a link, refined by the items of the links after it. -/
def refine (items : String → N → List (Item N)) : LinkStep N → List (Item N)
  | .pause => [.pause]
  | .resolved selector scope anchor => (items selector scope).map (Item.anchoredAt anchor)

mutual

/-- The steps of a link that follows the text `before`. -/
def linkSteps (scene : Scene N S) : Link → String → N → List (LinkStep N)
  | .plain text, before, scope => [.resolved (before ++ text) scope none]
  | .properties expression, before, scope =>
    (resolveProperties scene.styles expression before).map (.resolved · scope none)
  | .contains expression, before, scope =>
    containsSteps scene expression scope none (Candidates.all scene.page before scope)
  | .has argument, before, scope =>
    (Candidates.all scene.page before scope).flatMap fun candidate =>
      if scene.prunes candidate then [.pause]
      else .pause :: trialSteps scene.page candidate (items scene.unpruned argument "" candidate)

/-- The items of a chain that follows the text `before`, in order. -/
def items (scene : Scene N S) : List Link → String → N → List (Item N)
  | [], before, _ => [.found before []]
  | link :: rest, before, scope =>
    (linkSteps scene link before scope).flatMap (refine (items scene rest)) ++ [.pause]

end

end Evaluation

end CosmeticFilter
