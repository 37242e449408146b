/-
Pulling an evaluation.

A pull takes an evaluation one step on.  It gives a selector with its anchors, or
pauses where nothing has been found yet, so that a caller can stop after any candidate.
Every frame ends with a pause of its own.
-/
import CosmeticFilter.Evaluation.Basic

namespace CosmeticFilter

variable {N S : Type}

/-- What a pull gives. -/
inductive Item (N : Type) where
  /-- A plain selector, and the candidates that it was derived from. -/
  | found (selector : String) (anchors : List N)
  | pause
  deriving DecidableEq, Repr

/-- The result of a pull; no item says that the evaluation is over. -/
structure Pulled (N : Type) where
  item : Option (Item N)
  next : Evaluation N
  reports : List (Report N)

namespace Pulled

/-- A pause, in front of the given state. -/
def pause (next : Evaluation N) : Pulled N := ⟨some .pause, next, []⟩

/-- The same result, with reports of what happened before it. -/
def after (reports : List (Report N)) (pulled : Pulled N) : Pulled N :=
  { pulled with reports := reports ++ pulled.reports }

@[simp] theorem after_next (reports : List (Report N)) (pulled : Pulled N) :
    (after reports pulled).next = pulled.next := rfl

@[simp] theorem after_item (reports : List (Report N)) (pulled : Pulled N) :
    (after reports pulled).item = pulled.item := rfl

end Pulled

namespace Evaluation

/-- Goes on with a selector: the scope and anchors of what it finds, and the frames below. -/
abbrev Descent (N : Type) :=
  String → N → List N → Evaluation N → Pulled N

/-- The selector of a `plain` link, which it gives once. -/
def pullPlain (descend : Descent N) (pos : Position N) (pending : Option String) (scope : N)
    (below : Evaluation N) : Pulled N :=
  match pending with
  | none => .pause below
  | some selector => descend selector scope pos.anchors (.plain pos none scope below)

/-- The next selector that a `properties` link comes upon. -/
def pullProperties (descend : Descent N) (pos : Position N) (search : StyleSearch) (scope : N)
    (below : Evaluation N) : Pulled N :=
  match search.next? with
  | none => .pause below
  | some (selector, later) =>
    descend selector scope pos.anchors (.properties pos later scope below)

/-- The next candidate of a `contains` link. -/
def pullContains [DecidableEq N] (scene : Scene N S) (descend : Descent N) (pos : Position N)
    (expression : Option Regex) (candidates : Candidates N) (scope : N) (last : Option N)
    (below : Evaluation N) : Pulled N :=
  let (queue, failures) := candidates.fetch scene.page
  Pulled.after failures <|
    match queue with
    | [] => .pause below
    | candidate :: more =>
      let left := candidates.remaining more
      if last.any (scene.page.contains · candidate) || scene.prunes candidate then
        .pause (.contains pos expression left scope last below)
      else
        Pulled.after [.examined candidate] <|
          if matchesText expression (scene.page.textContent candidate) then
            descend (scene.page.path candidate) scope (pos.anchors ++ [candidate])
              (.contains pos expression left scope (some candidate) below)
          else .pause (.contains pos expression left scope last below)

/-- The next candidate of a `has` link, whose argument is evaluated from the next pull on. -/
def pullHas (scene : Scene N S) (pos : Position N) (argument : Chain)
    (candidates : Candidates N) (below : Evaluation N) : Pulled N :=
  let (queue, failures) := candidates.fetch scene.page
  Pulled.after failures <|
    match queue with
    | [] => .pause below
    | candidate :: more =>
      let left := candidates.remaining more
      if scene.prunes candidate then .pause (.has pos argument left below)
      else
        Pulled.after [.examined candidate] <|
          .pause (.trying pos argument left candidate
            (start scene.styles argument "" candidate) below)

/-- A selector of the argument is good if it finds something below the candidate. -/
def pullTrying [DecidableEq N] (scene : Scene N S) (descend : Descent N) (pos : Position N)
    (argument : Chain) (candidates : Candidates N) (candidate : N) (inner : Pulled N)
    (below : Evaluation N) : Pulled N :=
  Pulled.after inner.reports <|
    match inner.item with
    | none => .pause (.has pos argument candidates below)
    | some .pause => .pause (.trying pos argument candidates candidate inner.next below)
    | some (.found selector _) =>
      match scene.page.queryFirst candidate selector with
      | .ok (some _) =>
        descend (scene.page.path candidate) candidate (pos.anchors ++ [candidate])
          (.has pos argument candidates below)
      | .ok none => .pause (.trying pos argument candidates candidate inner.next below)
      | .error e =>
        Pulled.after [.queryFailed selector e] <|
          .pause (.trying pos argument candidates candidate inner.next below)

/-- Refines a selector by the links that follow, each in a new frame that is pulled at once. -/
def descend [DecidableEq N] (scene : Scene N S) : Chain → Descent N
  | [] => fun selector _ anchors below => ⟨some (.found selector anchors), below, []⟩
  | link :: rest => fun selector scope anchors below =>
    let pos : Position N := ⟨rest, anchors⟩
    match link with
    | .plain text => pullPlain (descend scene rest) pos (some (selector ++ text)) scope below
    | .properties expression =>
      pullProperties (descend scene rest) pos (.ofStyles scene.styles expression selector) scope
        below
    | .contains expression =>
      pullContains scene (descend scene rest) pos expression (.ofText selector scope) scope none
        below
    | .has argument => pullHas scene pos argument (.ofText selector scope) below

/-- Takes an evaluation one step on. -/
def pull [DecidableEq N] (scene : Scene N S) : Evaluation N → Pulled N
  | .finished => ⟨none, .finished, []⟩
  | .single selector => ⟨some (.found selector []), .finished, []⟩
  | .plain pos pending scope below =>
    pullPlain (descend scene pos.rest) pos pending scope below
  | .properties pos search scope below =>
    pullProperties (descend scene pos.rest) pos search scope below
  | .contains pos expression candidates scope last below =>
    pullContains scene (descend scene pos.rest) pos expression candidates scope last below
  | .has pos argument candidates below => pullHas scene pos argument candidates below
  | .trying pos argument candidates candidate inner below =>
    pullTrying scene (descend scene pos.rest) pos argument candidates candidate
      (pull scene.unpruned inner) below

/-- To refine a selector by a link means to pull its new frame. -/
theorem descend_cons [DecidableEq N] (scene : Scene N S) (link : Link) (rest : Chain)
    (selector : String) (scope : N) (anchors : List N) (below : Evaluation N) :
    descend scene (link :: rest) selector scope anchors below =
      pull scene (frame scene.styles link selector scope ⟨rest, anchors⟩ below) := by
  cases link <;> rfl

/-- At most `limit` pulls: their items and reports, and the state after them. -/
def pulls [DecidableEq N] (scene : Scene N S) : Nat → Evaluation N →
    List (Item N) × List (Report N) × Evaluation N
  | 0, evaluation => ([], [], evaluation)
  | limit + 1, evaluation =>
    let pulled := evaluation.pull scene
    match pulled.item with
    | none => ([], pulled.reports, pulled.next)
    | some item =>
      let (items, reports, last) := pulls scene limit pulled.next
      (item :: items, pulled.reports ++ reports, last)

end Evaluation

end CosmeticFilter
