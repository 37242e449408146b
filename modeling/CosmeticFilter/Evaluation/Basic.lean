/-
Evaluating chains.

Evaluating a chain means to resolve it, step by step, to plain selectors.  Between two
steps the evaluation may rest for any time, so its state is data: a stack with one
frame for each link that is being worked on.  The topmost frame is asked for its next
selector, which the links after it refine further; a `has` frame evaluates its
argument in an evaluation of its own.

An evaluation also remembers from which candidates of `has` and `contains` a selector
was derived.  They are its anchors, outermost first.
-/
import CosmeticFilter.Chain.Basic
import CosmeticFilter.Page
import CosmeticFilter.Selector.Qualify
import CosmeticFilter.Style

namespace CosmeticFilter

variable {N S : Type}

/-- What an evaluation step may look at. -/
structure Scene (N S : Type) where
  page : Page N S
  styles : List Style
  /-- The nodes that candidates must be related to; everything counts if there are none given. -/
  targets : Option (List N)

namespace Scene

/-- The candidate is related to no target. -/
def prunes (scene : Scene N S) (n : N) : Bool :=
  scene.targets.any fun targets => !targets.any (scene.page.related n)

/-- The scene of an argument: the same, without targets. -/
def unpruned (scene : Scene N S) : Scene N S :=
  { scene with targets := none }

end Scene

/-- What happens on the way, in order. -/
inductive Report (N : Type) where
  /-- A candidate of `has` or `contains` was looked at. -/
  | examined (candidate : N)
  | queryFailed (selector : String) (error : QueryError)
  deriving DecidableEq, Repr

/-! ### Candidates -/

/-- Elements to be looked at in turn; they are queried when the first one is asked for. -/
structure Candidates (N : Type) where
  selector : String
  scope : N
  queue : Option (List N)

namespace Candidates

/-- The candidates that a text describes, below a node. -/
def ofText (text : String) (scope : N) : Candidates N :=
  ⟨SelectorText.complete text, scope, none⟩

/-- The candidates that are left, asking the page if that was not done before. -/
def fetch (page : Page N S) (candidates : Candidates N) : List N × List (Report N) :=
  match candidates.queue with
  | some queue => (queue, [])
  | none =>
    match page.queryAll candidates.scope candidates.selector with
    | .ok queue => (queue, [])
    | .error e => ([], [.queryFailed candidates.selector e])

/-- The same candidates, of which only these are left. -/
def remaining (candidates : Candidates N) (queue : List N) : Candidates N :=
  { candidates with queue := some queue }

end Candidates

/-! ### Style rules -/

/-- An expression matches a text; one that could not be compiled matches nothing. -/
def matchesText (expression : Option Regex) (text : String) : Bool :=
  expression.any (·.isMatch text)

/--
A selector of a matching rule after the text that comes before the link.  A pseudo-element
is no element to be hidden, so it is cut off; a star says nothing after a text.
-/
def resolveProperty? (before selector : String) : Option String :=
  let selector := selector.toList
  let selector := if SelectorText.isIncomplete before then selector
    else SelectorText.dropStar selector
  let selector := SelectorText.dropPseudoElement selector
  if selector.isEmpty then none
  else some (SelectorText.qualify (String.ofList selector) before)

/--
The search of a `properties` link through the style rules of its run, which stay the same while
the run lasts.  It stands before a selector of a rule.
-/
structure StyleSearch where
  styles : List Style
  expression : Option Regex
  before : String
  rule : Nat
  selector : Nat

/-- The selectors of these rules, and one more for each rule. -/
def styleTurns : List Style → Nat
  | [] => 0
  | style :: more => style.selectors.length + 1 + styleTurns more

namespace StyleSearch

/-- A search that begins with the first rule. -/
def ofStyles (styles : List Style) (expression : Option Regex) (before : String) : StyleSearch :=
  ⟨styles, expression, before, 0, 0⟩

/-- What one turn of a search gives. -/
inductive Probe where
  /-- There are no more rules. -/
  | ended
  | passed (later : StyleSearch)
  | found (selector : String) (later : StyleSearch)

/-- The search after the turn. -/
def Probe.later? : Probe → Option StyleSearch
  | .ended => none
  | .passed later | .found _ later => some later

/-- One turn.  Whether a rule matches is asked in front of its first selector only. -/
def probe (search : StyleSearch) : Probe :=
  match search.styles[search.rule]? with
  | none => .ended
  | some style =>
    if search.selector = 0 ∧ matchesText search.expression style.text = false then
      .passed { search with rule := search.rule + 1 }
    else
      match style.selectors[search.selector]? with
      | none => .passed { search with rule := search.rule + 1, selector := 0 }
      | some selector =>
        let later := { search with selector := search.selector + 1 }
        match resolveProperty? search.before selector with
        | none => .passed later
        | some resolved => .found resolved later

/-- The turns that are left, at most. -/
def left (search : StyleSearch) : Nat :=
  match search.styles.drop search.rule with
  | [] => 0
  | style :: more => style.selectors.length - search.selector + 1 + styleTurns more

theorem left_ofStyles (styles : List Style) (expression : Option Regex) (before : String) :
    (ofStyles styles expression before).left = styleTurns styles := by
  cases styles <;> simp [left, ofStyles, styleTurns]

theorem left_le (search : StyleSearch) :
    search.left ≤ styleTurns (search.styles.drop search.rule) := by
  unfold left
  cases search.styles.drop search.rule with
  | nil => exact Nat.zero_le _
  | cons style more =>
    simp only [styleTurns]
    omega

/-- Where the search stands in a rule, this and the rules behind it are left. -/
theorem drop_rule {search : StyleSearch} {style : Style}
    (h : search.styles[search.rule]? = some style) :
    search.styles.drop search.rule = style :: search.styles.drop (search.rule + 1) := by
  obtain ⟨hrule, rfl⟩ := List.getElem?_eq_some_iff.mp h
  exact List.drop_eq_getElem_cons hrule

/-- **A turn leaves fewer turns.** -/
theorem left_of_probe {search later : StyleSearch} (h : search.probe.later? = some later) :
    later.left < search.left := by
  unfold probe at h
  split at h
  · simp [Probe.later?] at h
  · rename_i style hrule
    have hleft : search.left = style.selectors.length - search.selector + 1 +
        styleTurns (search.styles.drop (search.rule + 1)) := by
      rw [left, drop_rule hrule]
    -- Whatever the next rule is asked for, it takes no more turns than it has on its own.
    have hskip : ∀ selector,
        left { search with rule := search.rule + 1, selector := selector } < search.left := by
      intro selector
      have hle := left_le { search with rule := search.rule + 1, selector := selector }
      simp only at hle
      omega
    split at h
    · obtain rfl := Option.some.inj h
      exact hskip search.selector
    · split at h
      · obtain rfl := Option.some.inj h
        exact hskip 0
      · rename_i selector hselector
        obtain ⟨hlt, -⟩ := List.getElem?_eq_some_iff.mp hselector
        have hlater : left { search with selector := search.selector + 1 } < search.left := by
          rw [hleft, left, drop_rule hrule]
          simp only
          omega
        simp only at h
        split at h
        · obtain rfl := Option.some.inj h
          exact hlater
        · obtain rfl := Option.some.inj h
          exact hlater

/-- The next selector that the search comes upon, with the search behind it. -/
def next? (search : StyleSearch) : Option (String × StyleSearch) :=
  match _h : search.probe with
  | .ended => none
  | .passed later => later.next?
  | .found selector later => some (selector, later)
termination_by search.left
decreasing_by exact left_of_probe (by rw [_h]; rfl)

theorem next_of_ended {search : StyleSearch} (h : search.probe = .ended) :
    search.next? = none := by
  rw [next?]
  split <;> simp_all

theorem next_of_passed {search later : StyleSearch} (h : search.probe = .passed later) :
    search.next? = later.next? := by
  rw [next?]
  split <;> simp_all

theorem next_of_found {search later : StyleSearch} {selector : String}
    (h : search.probe = .found selector later) : search.next? = some (selector, later) := by
  rw [next?]
  split <;> simp_all

theorem left_of_next {search later : StyleSearch} {selector : String}
    (h : search.next? = some (selector, later)) : later.left < search.left := by
  fun_induction next? search with
  | case1 => simp at h
  | case2 search passed hprobe ih =>
    exact Nat.lt_trans (ih h) (left_of_probe (by rw [hprobe]; rfl))
  | case3 search found after hprobe =>
    obtain ⟨-, rfl⟩ := Prod.mk.inj (Option.some.inj h)
    exact left_of_probe (by rw [hprobe]; rfl)

end StyleSearch

/-! ### States -/

/-- A place in a chain: the links that come next, and the anchors of what was found so far. -/
structure Position (N : Type) where
  rest : Chain
  anchors : List N

/-- A state of an evaluation: the topmost frame, with the frames below it. -/
inductive Evaluation (N : Type) where
  /-- Nothing is left. -/
  | finished
  /-- The one selector of an empty chain. -/
  | single (selector : String)
  /-- A `plain` link, whose selector is pending until it has been given. -/
  | plain (pos : Position N) (pending : Option String) (scope : N) (below : Evaluation N)
  /-- A `properties` link in the midst of its search. -/
  | properties (pos : Position N) (search : StyleSearch) (scope : N) (below : Evaluation N)
  /-- A `contains` link.  What lies inside the last match is not reported again. -/
  | contains (pos : Position N) (expression : Option Regex) (candidates : Candidates N)
      (scope : N) (last : Option N) (below : Evaluation N)
  /-- A `has` link between two candidates. -/
  | has (pos : Position N) (argument : Chain) (candidates : Candidates N) (below : Evaluation N)
  /-- A `has` link whose argument is being evaluated for a candidate. -/
  | trying (pos : Position N) (argument : Chain) (candidates : Candidates N) (candidate : N)
      (inner : Evaluation N) (below : Evaluation N)

namespace Evaluation

/-- A new frame for a link that follows the text `before`. -/
def frame (styles : List Style) (link : Link) (before : String) (scope : N) (pos : Position N)
    (below : Evaluation N) : Evaluation N :=
  match link with
  | .plain text => .plain pos (some (before ++ text)) scope below
  | .properties expression =>
    .properties pos (.ofStyles styles expression before) scope below
  | .contains expression =>
    .contains pos expression (.ofText before scope) scope none below
  | .has argument => .has pos argument (.ofText before scope) below

/-- Starts to evaluate a chain that follows the text `before`, inside a scope. -/
def start (styles : List Style) (chain : Chain) (before : String) (scope : N) : Evaluation N :=
  match chain with
  | [] => .single before
  | link :: rest => frame styles link before scope ⟨rest, []⟩ .finished

end Evaluation

end CosmeticFilter
