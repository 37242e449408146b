/-
What is seen of an evaluation.

The items of a chain do not tell which candidates were looked at on the way; only the reports
of the pulls do.  The sights of a chain are both together, in the order in which they come
up: the candidates that are examined and the selectors that are found.  They are described
by recursion on the chain, link by link, as its items are.

A pull shows the first of the sights that lie ahead of a state, and leaves the others ahead.
So what a run has processed when it is completed are the candidates among the sights of its
patterns.  No more than the page, the styles and the question which candidates are skipped
has a part in them, and this is what a `View` keeps of a scene.
-/
import CosmeticFilter.Proofs.Generator
import CosmeticFilter.Proofs.Table

namespace CosmeticFilter

variable {N S α β : Type}

/-! ### Views and sights -/

/-- What decides what is seen. -/
structure View (N S : Type) where
  page : Page N S
  styles : List Style
  /-- The candidate is not looked at. -/
  skips : N → Bool

namespace View

/-- The view on the argument of a candidate: nothing is skipped. -/
def unconfined (view : View N S) : View N S :=
  { view with skips := fun _ => false }

end View

/-- What a scene has to do with what is seen. -/
abbrev Scene.view [DecidableEq N] (scene : Scene N S) : View N S :=
  ⟨scene.page, scene.styles, scene.prunes⟩

/-- A candidate that is examined, or something that is found. -/
inductive Sight (N α : Type) where
  | examined (candidate : N)
  | found (what : α)

namespace Sight

/-- Where something is found one goes on from there. -/
def refine (next : α → List (Sight N β)) : Sight N α → List (Sight N β)
  | .examined candidate => [.examined candidate]
  | .found what => next what

end Sight

section Chains

variable [DecidableEq N]

/-- The sights of `contains` on its candidates, after the last match. -/
def containsSights (view : View N S) (expression : Option Regex) (scope : N) :
    Option N → List N → List (Sight N (String × N))
  | _, [] => []
  | last, candidate :: more =>
    if last.any (view.page.contains · candidate) || view.skips candidate then
      containsSights view expression scope last more
    else if matchesText expression (view.page.textContent candidate) then
      .examined candidate :: .found (view.page.path candidate, scope) ::
        containsSights view expression scope (some candidate) more
    else .examined candidate :: containsSights view expression scope last more

/-- The sights of `has` on one candidate, given those of its argument. -/
def trialSights (page : Page N S) (candidate : N) :
    List (Sight N String) → List (Sight N (String × N))
  | [] => []
  | .examined other :: more => .examined other :: trialSights page candidate more
  | .found selector :: more =>
    match page.queryFirst candidate selector with
    | .ok (some _) => [.found (page.path candidate, candidate)]
    | _ => trialSights page candidate more

mutual

/-- The sights of a link that follows the text `before`, with the scopes of what is found. -/
def linkSights (view : View N S) : Link → String → N → List (Sight N (String × N))
  | .plain text, before, scope => [.found (before ++ text, scope)]
  | .properties expression, before, scope =>
    (resolveProperties view.styles expression before).map fun selector => .found (selector, scope)
  | .contains expression, before, scope =>
    containsSights view expression scope none (Candidates.all view.page before scope)
  | .has argument, before, scope =>
    (Candidates.all view.page before scope).flatMap fun candidate =>
      if view.skips candidate then []
      else .examined candidate ::
        trialSights view.page candidate (sights view.unconfined argument "" candidate)

/-- The sights of a chain that follows the text `before`, in order. -/
def sights (view : View N S) : List Link → String → N → List (Sight N String)
  | [], before, _ => [.found before]
  | link :: rest, before, scope =>
    (linkSights view link before scope).flatMap
      (Sight.refine fun found => sights view rest found.1 found.2)

end

end Chains

/-! ### What a pull shows -/

/-- The candidates that the reports tell of. -/
def examinedIn (reports : List (Report N)) : List (Sight N α) :=
  (reports.filterMap Findings.examined?).map .examined

@[simp] theorem examinedIn_append (first last : List (Report N)) :
    (examinedIn (first ++ last) : List (Sight N α)) = examinedIn first ++ examinedIn last := by
  simp [examinedIn]

/-- A query that fails is no sight. -/
@[simp] theorem examinedIn_fetch (page : Page N S) (candidates : Candidates N) :
    (examinedIn (candidates.fetch page).2 : List (Sight N α)) = [] := by
  unfold Candidates.fetch
  split
  · rfl
  · split <;> rfl

/-- The selector that an item shows. -/
def Item.sights : Item N → List (Sight N String)
  | .found selector _ => [.found selector]
  | .pause => []

/-- What a pull shows. -/
def Pulled.sights (pulled : Pulled N) : List (Sight N String) :=
  examinedIn pulled.reports ++ pulled.item.toList.flatMap Item.sights

namespace Evaluation

variable [DecidableEq N]

/-! ### What lies ahead of a state -/

/-- The sights of a `has` link through its candidates. -/
def hasSights (view : View N S) (argument : Chain) (candidates : List N) :
    List (Sight N (String × N)) :=
  candidates.flatMap fun candidate =>
    if view.skips candidate then []
    else .examined candidate ::
      trialSights view.page candidate (sights view.unconfined argument "" candidate)

/-- The sights of a frame, given those of its link that are still to come. -/
def frameSights (view : View N S) (pos : Position N) (link : List (Sight N (String × N))) :
    List (Sight N String) :=
  link.flatMap (Sight.refine fun found => sights view pos.rest found.1 found.2)

/-- The sights that lie ahead of a state. -/
def ahead (scene : Scene N S) : Evaluation N → List (Sight N String)
  | .finished => []
  | .single selector => [.found selector]
  | .plain pos pending scope below =>
    frameSights scene.view pos (pending.toList.map fun selector => .found (selector, scope)) ++
      ahead scene below
  | .properties pos search scope below =>
    frameSights scene.view pos (search.pending.map fun selector => .found (selector, scope)) ++
      ahead scene below
  | .contains pos expression candidates scope last below =>
    frameSights scene.view pos
      (containsSights scene.view expression scope last (candidates.fetch scene.page).1) ++
      ahead scene below
  | .has pos argument candidates below =>
    frameSights scene.view pos
      (hasSights scene.view argument (candidates.fetch scene.page).1) ++
      ahead scene below
  | .trying pos argument candidates candidate inner below =>
    frameSights scene.view pos
      (trialSights scene.page candidate (ahead scene.unpruned inner) ++
        hasSights scene.view argument (candidates.fetch scene.page).1) ++
      ahead scene below

@[simp] theorem frameSights_append (view : View N S) (pos : Position N)
    (first last : List (Sight N (String × N))) :
    frameSights view pos (first ++ last) =
      frameSights view pos first ++ frameSights view pos last :=
  List.flatMap_append

@[simp] theorem frameSights_examined (view : View N S) (pos : Position N) (candidate : N)
    (more : List (Sight N (String × N))) :
    frameSights view pos (.examined candidate :: more) =
      .examined candidate :: frameSights view pos more := rfl

@[simp] theorem frameSights_found (view : View N S) (pos : Position N) (selector : String)
    (scope : N) (more : List (Sight N (String × N))) :
    frameSights view pos (.found (selector, scope) :: more) =
      sights view pos.rest selector scope ++ frameSights view pos more := rfl

/-- A new frame has the sights of its link and of the links that follow ahead. -/
theorem ahead_frame (scene : Scene N S) (link : Link) (rest : Chain) (before : String) (scope : N)
    (anchors : List N) (below : Evaluation N) :
    ahead scene (frame scene.styles link before scope ⟨rest, anchors⟩ below) =
      sights scene.view (link :: rest) before scope ++ ahead scene below := by
  cases link with
  | plain text => rfl
  | properties expression =>
    rw [frame, ahead, StyleSearch.pending_ofStyles]
    rfl
  | has argument =>
    simp only [frame, ahead, frameSights, sights, linkSights, hasSights, fetch_ofText]
  | contains expression =>
    simp only [frame, ahead, frameSights, sights, linkSights, fetch_ofText]

/-- An evaluation that has just been started has all the sights of its chain ahead. -/
theorem ahead_start (scene : Scene N S) (chain : Chain) (before : String) (scope : N) :
    ahead scene (start scene.styles chain before scope) =
      sights scene.view chain before scope := by
  cases chain with
  | nil => rfl
  | cons link rest =>
    show ahead scene (frame scene.styles link before scope ⟨rest, []⟩ .finished) = _
    rw [ahead_frame, ahead, List.append_nil]

/-! ### A pull shows the first sights -/

/-- The pull shows the first of these sights, and leaves the others ahead. -/
def Shows (scene : Scene N S) (given : List (Sight N String)) (pulled : Pulled N) : Prop :=
  given = pulled.sights ++ ahead scene pulled.next

theorem Shows.pause (scene : Scene N S) (next : Evaluation N) :
    Shows scene (ahead scene next) (.pause next) := rfl

theorem Shows.after {scene : Scene N S} {given : List (Sight N String)} {pulled : Pulled N}
    (h : Shows scene given pulled) (reports : List (Report N)) :
    Shows scene (examinedIn reports ++ given) (.after reports pulled) := by
  unfold Shows Pulled.sights at *
  rw [h]
  simp [Pulled.after]

/-- What is reported beside sights is not seen. -/
theorem Shows.after_unseen {scene : Scene N S} {given : List (Sight N String)} {pulled : Pulled N}
    (h : Shows scene given pulled) {reports : List (Report N)}
    (hreports : (examinedIn reports : List (Sight N String)) = []) :
    Shows scene given (.after reports pulled) := by
  have hafter := h.after reports
  rwa [hreports] at hafter

/-- To go on with a selector shows the first of its sights, through the links that follow. -/
def Reveals (scene : Scene N S) (rest : Chain) (descend : Descent N) : Prop :=
  ∀ selector scope anchors below,
    Shows scene (sights scene.view rest selector scope ++ ahead scene below)
      (descend selector scope anchors below)

section Frames

variable {scene : Scene N S} (pos : Position N) {descent : Descent N}

theorem shows_plain (hdescent : Reveals scene pos.rest descent) (pending : Option String)
    (scope : N) (below : Evaluation N) :
    Shows scene (ahead scene (.plain pos pending scope below))
      (pullPlain descent pos pending scope below) := by
  cases pending with
  | none => exact .pause scene below
  | some selector =>
    rw [ahead, Option.toList_some, List.map_cons, frameSights_found, List.append_assoc]
    exact hdescent selector scope pos.anchors (.plain pos none scope below)

theorem shows_properties (hdescent : Reveals scene pos.rest descent) (search : StyleSearch)
    (scope : N) (below : Evaluation N) :
    Shows scene (ahead scene (.properties pos search scope below))
      (pullProperties descent pos search scope below) := by
  unfold pullProperties
  split
  · rename_i hnext
    rw [ahead, StyleSearch.pending_of_none hnext]
    exact .pause scene below
  · rename_i selector later hnext
    rw [ahead, StyleSearch.pending_of_some hnext, List.map_cons, frameSights_found,
      List.append_assoc]
    exact hdescent selector scope pos.anchors (.properties pos later scope below)

theorem shows_contains (hdescent : Reveals scene pos.rest descent)
    (expression : Option Regex) (candidates : Candidates N) (scope : N) (last : Option N)
    (below : Evaluation N) :
    Shows scene (ahead scene (.contains pos expression candidates scope last below))
      (pullContains scene descent pos expression candidates scope last below) := by
  simp only [ahead, pullContains]
  refine Shows.after_unseen ?_ (examinedIn_fetch scene.page candidates)
  cases (candidates.fetch scene.page).1 with
  | nil => exact .pause scene below
  | cons candidate more =>
    have hleft : ∀ last, frameSights scene.view pos
        (containsSights scene.view expression scope last more) ++ ahead scene below =
          ahead scene (.contains pos expression (candidates.remaining more) scope last below) :=
      fun last => rfl
    simp only [containsSights]
    by_cases hskipped :
        (last.any (scene.page.contains · candidate) || scene.prunes candidate) = true
    · rw [if_pos hskipped, if_pos hskipped, hleft]
      exact .pause scene _
    · rw [if_neg hskipped, if_neg hskipped]
      by_cases hmatches : matchesText expression (scene.page.textContent candidate) = true
      · rw [if_pos hmatches, if_pos hmatches, frameSights_examined, frameSights_found,
          List.cons_append, List.append_assoc, hleft]
        exact Shows.after (hdescent _ scope _ _) [.examined candidate]
      · rw [if_neg hmatches, if_neg hmatches, frameSights_examined, List.cons_append, hleft]
        exact Shows.after (.pause scene _) [.examined candidate]

theorem shows_has (argument : Chain) (candidates : Candidates N) (below : Evaluation N) :
    Shows scene (ahead scene (.has pos argument candidates below))
      (pullHas scene pos argument candidates below) := by
  simp only [ahead, pullHas]
  refine Shows.after_unseen ?_ (examinedIn_fetch scene.page candidates)
  cases (candidates.fetch scene.page).1 with
  | nil => exact .pause scene below
  | cons candidate more =>
    simp only [hasSights, List.flatMap_cons]
    by_cases hskipped : scene.prunes candidate = true
    · rw [if_pos hskipped, if_pos hskipped]
      exact .pause scene (.has pos argument (candidates.remaining more) below)
    · rw [if_neg hskipped, if_neg hskipped]
      have hinner : sights scene.view.unconfined argument "" candidate =
          ahead scene.unpruned (start scene.styles argument "" candidate) :=
        (ahead_start scene.unpruned argument "" candidate).symm
      rw [hinner]
      exact Shows.after (.pause scene
        (.trying pos argument (candidates.remaining more) candidate _ below)) [.examined candidate]

/-- What is examined in an argument is seen outside of it. -/
theorem trialSights_examinedIn (page : Page N S) (candidate : N) (reports : List (Report N))
    (more : List (Sight N String)) :
    trialSights page candidate (examinedIn reports ++ more) =
      examinedIn reports ++ trialSights page candidate more := by
  unfold examinedIn
  induction reports.filterMap Findings.examined? with
  | nil => rfl
  | cons other others ih =>
    rw [List.map_cons, List.cons_append, trialSights, ih]
    rfl

theorem frameSights_examinedIn (view : View N S) (reports : List (Report N)) :
    frameSights view pos (examinedIn reports) = examinedIn reports := by
  unfold examinedIn
  induction reports.filterMap Findings.examined? with
  | nil => rfl
  | cons other others ih => rw [List.map_cons, frameSights_examined, ih, List.map_cons]

/-- For a candidate under trial, the pull of its argument is known to show the first sights. -/
theorem shows_trying (hdescent : Reveals scene pos.rest descent) (argument : Chain)
    (candidates : Candidates N) (candidate : N) {inner : Evaluation N} {pulled : Pulled N}
    (hinner : Shows scene.unpruned (ahead scene.unpruned inner) pulled)
    (hover : pulled.item = none → pulled.next = .finished) (below : Evaluation N) :
    Shows scene (ahead scene (.trying pos argument candidates candidate inner below))
      (pullTrying scene descent pos argument candidates candidate pulled below) := by
  rw [ahead, hinner, Pulled.sights, List.append_assoc, trialSights_examinedIn, List.append_assoc,
    frameSights_append, frameSights_examinedIn, List.append_assoc]
  simp only [pullTrying]
  refine Shows.after ?_ _
  cases hitem : pulled.item with
  | none =>
    rw [hover hitem]
    exact .pause scene (.has pos argument candidates below)
  | some item =>
    cases item with
    | pause => exact .pause scene (.trying pos argument candidates candidate pulled.next below)
    | found selector anchors =>
      simp only [Option.toList_some, List.flatMap_cons, List.flatMap_nil, Item.sights,
        List.append_nil, List.cons_append, List.nil_append, trialSights]
      cases scene.page.queryFirst candidate selector with
      | error e =>
        exact Shows.after_unseen
          (.pause scene (.trying pos argument candidates candidate pulled.next below)) rfl
      | ok found =>
        cases found with
        | none => exact .pause scene (.trying pos argument candidates candidate pulled.next below)
        | some n =>
          simp only [List.cons_append, List.nil_append, frameSights_found, List.append_assoc]
          exact hdescent _ candidate _ (.has pos argument candidates below)

end Frames

/-- The descent through the links of a chain reveals its sights. -/
theorem reveals_descend (scene : Scene N S) (rest : Chain) :
    Reveals scene rest (descend scene rest) := by
  induction rest with
  | nil => exact fun selector scope anchors below => rfl
  | cons link rest ih =>
    intro selector scope anchors below
    rw [← ahead_frame scene link rest selector scope anchors below]
    cases link with
    | plain text => exact shows_plain ⟨rest, anchors⟩ ih _ scope below
    | has argument => exact shows_has ⟨rest, anchors⟩ argument _ below
    | contains expression =>
      exact shows_contains ⟨rest, anchors⟩ ih expression _ scope none below
    | properties expression => exact shows_properties ⟨rest, anchors⟩ ih _ scope below

/-- **A pull shows the first of the sights ahead**, and leaves the others ahead. -/
theorem ahead_pull (e : Evaluation N) : ∀ scene : Scene N S,
    Shows scene (ahead scene e) (e.pull scene) := by
  induction e with
  | finished => exact fun scene => rfl
  | single selector => exact fun scene => rfl
  | plain pos pending scope below ih =>
    exact fun scene => shows_plain pos (reveals_descend scene pos.rest) pending scope below
  | properties pos search scope below ih =>
    exact fun scene => shows_properties pos (reveals_descend scene pos.rest) search scope below
  | contains pos expression candidates scope last below ih =>
    exact fun scene => shows_contains pos (reveals_descend scene pos.rest) expression candidates
      scope last below
  | has pos argument candidates below ih =>
    exact fun scene => shows_has pos argument candidates below
  | trying pos argument candidates candidate inner below ihinner ihbelow =>
    exact fun scene => shows_trying pos (reveals_descend scene pos.rest) argument candidates
      candidate (ihinner scene.unpruned) (left_pull inner scene.unpruned).2 below

end Evaluation

/-! ### What a run has processed -/

namespace Run

variable [DecidableEq N]

omit [DecidableEq N] in
theorem examined_mem_sights {pulled : Pulled N} {n : N} :
    .examined n ∈ pulled.sights ↔ n ∈ pulled.reports.filterMap Findings.examined? := by
  have hitem : Sight.examined n ∉ pulled.item.toList.flatMap Item.sights := by
    intro h
    obtain ⟨item, -, hitem⟩ := List.mem_flatMap.mp h
    cases item <;> simp [Item.sights] at hitem
  rw [Pulled.sights, List.mem_append, or_iff_left hitem, examinedIn, List.mem_map]
  simp

/-- An evaluation that is pulled to its end has processed what it examined on the way. -/
theorem mem_drain_processed (config : Config) (scene : Scene N S) (pattern : Pattern)
    (evaluation : Evaluation N) (findings : Findings N) (n : N) :
    n ∈ (drain config scene pattern evaluation findings).processed ↔
      n ∈ findings.processed ∨
        (config.testMode = true ∧ .examined n ∈ evaluation.ahead scene) := by
  have hentered : ∀ (findings : Findings N) (pulled : Pulled N),
      n ∈ (findings.entering config scene.page pattern pulled).processed ↔
        n ∈ findings.processed ∨ (config.testMode = true ∧ .examined n ∈ pulled.sights) := by
    intro findings pulled
    rw [Findings.entering_processed, examined_mem_sights]
    by_cases htest : config.testMode = true
    · rw [if_pos htest, mem_addNew, and_iff_right htest]
    · rw [if_neg htest, or_iff_left (fun h => htest h.1)]
  fun_induction drain config scene pattern evaluation findings with
  | case1 evaluation findings pulled entered hitem =>
    have hover := (Evaluation.left_pull evaluation scene).2 hitem
    rw [hentered, Evaluation.ahead_pull evaluation scene, hover, Evaluation.ahead, List.append_nil]
  | case2 evaluation findings pulled entered item hitem ih =>
    refine ih.trans ?_
    rw [hentered, Evaluation.ahead_pull evaluation scene, List.mem_append, and_or_left, or_assoc]

/-- The sights of a candidate on a page. -/
def candidateSights (page : Page N S) (styles : List Style) (candidate : Candidate N) :
    List (Sight N String) :=
  sights (Scene.view ⟨page, styles, candidate.targets⟩) candidate.pattern.chain "" page.document

/-- **What a completed run has processed** is what is examined among its sights. -/
theorem mem_completed_processed (config : Config) (page : Page N S)
    (classification : Classification N) (styles : List Style) (n : N) :
    n ∈ ((Run.ofClassification classification styles).completed config page).findings.processed ↔
      config.testMode = true ∧ ∃ candidate ∈ classification.candidates,
        .examined n ∈ candidateSights page styles candidate := by
  have hall : ∀ (candidates : List (Candidate N)) (findings : Findings N),
      n ∈ (drainAll config page styles candidates none findings).processed ↔
        n ∈ findings.processed ∨ (config.testMode = true ∧
          ∃ candidate ∈ candidates, .examined n ∈ candidateSights page styles candidate) := by
    intro candidates
    induction candidates with
    | nil => intro findings; simp [drainAll]
    | cons candidate more ih =>
      intro findings
      have hstart := Evaluation.ahead_start ⟨page, styles, candidate.targets⟩
        candidate.pattern.chain "" page.document
      simp only [drainAll, List.foldl_cons] at ih ⊢
      rw [ih, mem_drain_processed, hstart, List.exists_mem_cons_iff, and_or_left, or_assoc]
      rfl
  exact (hall classification.candidates .none).trans (or_iff_right List.not_mem_nil)

end Run

end CosmeticFilter
