/-
An evaluation gives the items of its chain.

`Evaluation.items` describes by recursion on a chain what an evaluation should give;
`Evaluation.pull` is a machine with a stack of frames.  They are brought together by
`left`, which reads off a state what it still has to give: the items of the topmost frame,
and then those of the frames below.  Each of the link steps that a frame has not taken yet
is refined by the links after the frame, and the frame closes with a pause of its own.

A pull takes the first item off what is left.  A pull that gives a selector of a middle
link descends through the links that follow, each in a new frame; that such a descent
takes off the first item is an induction on these links, and the frames are compared one
kind at a time.

The search of a `properties` link is a machine of its own, which goes from rule to rule and from
selector to selector.  It lists what `resolveProperties` gives: each of its turns either gives
the first of the selectors that are pending, or leaves them as they are.
-/
import CosmeticFilter.Evaluation.Items
import CosmeticFilter.Proofs.Slicing

namespace CosmeticFilter

variable {N S κ : Type}

namespace Item

/-- The same item, derived from earlier candidates as well. -/
def under (anchors : List N) : Item N → Item N
  | .found selector more => .found selector (anchors ++ more)
  | .pause => .pause

@[simp] theorem under_nil : (under [] : Item N → Item N) = id := by
  funext item
  cases item <;> rfl

theorem under_under (first more : List N) (item : Item N) :
    under first (under more item) = under (first ++ more) item := by
  cases item <;> simp [under]

theorem anchoredAt_eq_under (anchor : Option N) : anchoredAt anchor = under anchor.toList := by
  funext item
  cases item <;> rfl

end Item

/-! ### What a search has left to give -/

namespace StyleSearch

/-- The selectors that a search has still to give. -/
def pending (search : StyleSearch) : List String :=
  match search.styles.drop search.rule with
  | [] => []
  | style :: more =>
    (if search.selector = 0 ∧ matchesText search.expression style.text = false then []
      else (style.selectors.drop search.selector).filterMap (resolveProperty? search.before)) ++
    resolveProperties more search.expression search.before

/-- In front of a rule, all of this rule and of those behind it is pending. -/
theorem pending_of_selector {search : StyleSearch} (h : search.selector = 0) :
    search.pending =
      resolveProperties (search.styles.drop search.rule) search.expression search.before := by
  unfold pending
  cases search.styles.drop search.rule with
  | nil => rfl
  | cons style more =>
    cases hmatches : matchesText search.expression style.text with
    | false => simp [h, hmatches, resolveProperties]
    | true => simp [h, hmatches, resolveProperties]

/-- **A search lists what its link resolves to.** -/
theorem pending_ofStyles (styles : List Style) (expression : Option Regex) (before : String) :
    (ofStyles styles expression before).pending = resolveProperties styles expression before :=
  pending_of_selector rfl

/-- What a turn gives, and what is pending after it. -/
def Probe.pending : Probe → List String
  | .ended => []
  | .passed later => later.pending
  | .found selector later => selector :: later.pending

/-- In a rule, its selectors from here on are pending, if it matches. -/
theorem pending_of_rule {search : StyleSearch} {style : Style}
    (h : search.styles[search.rule]? = some style) :
    search.pending =
      (if search.selector = 0 ∧ matchesText search.expression style.text = false then []
        else (style.selectors.drop search.selector).filterMap (resolveProperty? search.before)) ++
      resolveProperties (search.styles.drop (search.rule + 1)) search.expression
        search.before := by
  rw [pending, drop_rule h]

/-- A turn loses nothing of what is pending. -/
theorem pending_probe (search : StyleSearch) : search.probe.pending = search.pending := by
  unfold probe
  split
  · rename_i hrule
    rw [pending, List.drop_eq_nil_iff.mpr (List.getElem?_eq_none_iff.mp hrule)]
    rfl
  · rename_i style hrule
    split
    · rename_i hpassed
      rw [pending_of_rule hrule, if_pos hpassed, List.nil_append]
      exact pending_of_selector hpassed.1
    · rename_i hmatches
      rw [pending_of_rule hrule, if_neg hmatches]
      split
      · rename_i hselector
        rw [List.drop_eq_nil_iff.mpr (List.getElem?_eq_none_iff.mp hselector)]
        exact pending_of_selector rfl
      · rename_i selector hselector
        obtain ⟨hlt, rfl⟩ := List.getElem?_eq_some_iff.mp hselector
        -- Behind its first selector the rule is not asked for a match again.
        have hlater := @pending_of_rule { search with selector := search.selector + 1 } style hrule
        rw [if_neg fun h => Nat.succ_ne_zero _ h.1] at hlater
        rw [List.drop_eq_getElem_cons hlt]
        simp only
        split
        · rename_i hresolved
          rw [List.filterMap_cons_none hresolved]
          exact hlater
        · rename_i resolved hresolved
          rw [List.filterMap_cons_some hresolved]
          exact congrArg (resolved :: ·) hlater

/-- The next selector is the first one that is pending, and the others are left. -/
theorem pending_of_some {search later : StyleSearch} {selector : String}
    (h : search.next? = some (selector, later)) : search.pending = selector :: later.pending := by
  fun_induction next? search with
  | case1 => simp at h
  | case2 search passed hprobe ih => rw [← pending_probe, hprobe, Probe.pending, ih h]
  | case3 search found after hprobe =>
    obtain ⟨rfl, rfl⟩ := Prod.mk.inj (Option.some.inj h)
    rw [← pending_probe, hprobe, Probe.pending]

theorem pending_of_none {search : StyleSearch} (h : search.next? = none) :
    search.pending = [] := by
  fun_induction next? search with
  | case1 search hprobe => rw [← pending_probe, hprobe, Probe.pending]
  | case2 search passed hprobe ih => rw [← pending_probe, hprobe, Probe.pending, ih h]
  | case3 => simp at h

end StyleSearch

namespace Evaluation

variable [DecidableEq N]

/-! ### What a state has left to give -/

/-- The steps of a `has` link through its candidates. -/
def hasSteps (scene : Scene N S) (argument : Chain) (candidates : List N) :
    List (LinkStep N) :=
  candidates.flatMap fun candidate =>
    if scene.prunes candidate then [.pause]
    else .pause :: trialSteps scene.page candidate (items scene.unpruned argument "" candidate)

/-- The items of a frame whose link has yet to take these steps. -/
def frameItems (scene : Scene N S) (pos : Position N) (steps : List (LinkStep N)) :
    List (Item N) :=
  (steps.flatMap (refine (items scene pos.rest)) ++ [Item.pause]).map (.under pos.anchors)

/-- The items that a state has left to give. -/
def left (scene : Scene N S) : Evaluation N → List (Item N)
  | .finished => []
  | .single selector => [.found selector []]
  | .plain pos pending scope below =>
    frameItems scene pos (pending.toList.map (.resolved · scope none)) ++ left scene below
  | .properties pos search scope below =>
    frameItems scene pos (search.pending.map (.resolved · scope none)) ++ left scene below
  | .contains pos expression candidates scope last below =>
    frameItems scene pos
      (containsSteps scene expression scope last (candidates.fetch scene.page).1) ++
      left scene below
  | .has pos argument candidates below =>
    frameItems scene pos (hasSteps scene argument (candidates.fetch scene.page).1) ++
      left scene below
  | .trying pos argument candidates candidate inner below =>
    frameItems scene pos
      (trialSteps scene.page candidate (left scene.unpruned inner) ++
        hasSteps scene argument (candidates.fetch scene.page).1) ++
      left scene below

theorem frameItems_resolved (scene : Scene N S) (pos : Position N) (selector : String)
    (scope : N) (anchor : Option N) (steps : List (LinkStep N)) :
    frameItems scene pos (.resolved selector scope anchor :: steps) =
      (items scene pos.rest selector scope).map (.under (pos.anchors ++ anchor.toList)) ++
        frameItems scene pos steps := by
  simp only [frameItems, List.flatMap_cons, refine, List.append_assoc, List.map_append,
    List.map_map, Item.anchoredAt_eq_under]
  congr 1
  exact List.map_congr_left fun item _ => Item.under_under ..

omit [DecidableEq N] in
theorem fetch_ofText (page : Page N S) (before : String) (scope : N) :
    ((Candidates.ofText before scope).fetch page).1 = Candidates.all page before scope := by
  simp only [Candidates.ofText, Candidates.fetch, Candidates.all]
  cases page.queryAll scope (SelectorText.complete before) <;> rfl

/-- A new frame has the items of its link and of the links that follow. -/
theorem left_frame (scene : Scene N S) (link : Link) (rest : Chain) (before : String) (scope : N)
    (anchors : List N) (below : Evaluation N) :
    left scene (frame scene.styles link before scope ⟨rest, anchors⟩ below) =
      (items scene (link :: rest) before scope).map (.under anchors) ++ left scene below := by
  cases link with
  | plain text => simp [frame, left, frameItems, items, linkSteps]
  | has argument => simp [frame, left, frameItems, items, linkSteps, hasSteps, fetch_ofText]
  | contains expression => simp [frame, left, frameItems, items, linkSteps, fetch_ofText]
  | properties expression =>
    simp [frame, left, frameItems, items, linkSteps, StyleSearch.pending_ofStyles]

/-- An evaluation that has just been started has all the items of its chain left. -/
theorem left_start (scene : Scene N S) (chain : Chain) (before : String) (scope : N) :
    left scene (start scene.styles chain before scope) = items scene chain before scope := by
  cases chain with
  | nil => simp [start, left, items]
  | cons link rest => simp [start, left_frame, left]

/-! ### A pull takes the first item -/

/-- The result of a pull is the first of these items, and leaves the others. -/
def Takes (scene : Scene N S) (given : List (Item N)) (pulled : Pulled N) : Prop :=
  ∃ item, pulled.item = some item ∧ given = item :: left scene pulled.next

theorem Takes.pause (scene : Scene N S) (next : Evaluation N) :
    Takes scene (.pause :: left scene next) (.pause next) :=
  ⟨.pause, rfl, rfl⟩

theorem Takes.after {scene : Scene N S} {given : List (Item N)} {pulled : Pulled N}
    (h : Takes scene given pulled) (reports : List (Report N)) :
    Takes scene given (.after reports pulled) := h

/-- To go on with a selector takes the first of its items, refined by the links that follow. -/
def Refines (scene : Scene N S) (rest : Chain) (descend : Descent N) : Prop :=
  ∀ selector scope anchors below,
    Takes scene ((items scene rest selector scope).map (.under anchors) ++ left scene below)
      (descend selector scope anchors below)

section Frames

variable {scene : Scene N S} (pos : Position N) {descent : Descent N}

theorem takes_plain (hdescent : Refines scene pos.rest descent) (pending : Option String)
    (scope : N) (below : Evaluation N) :
    Takes scene (left scene (.plain pos pending scope below))
      (pullPlain descent pos pending scope below) := by
  cases pending with
  | none => exact .pause scene below
  | some selector =>
    simp only [left, Option.toList_some, List.map_cons, frameItems_resolved, Option.toList_none,
      List.append_nil, List.append_assoc, pullPlain]
    exact hdescent selector scope pos.anchors (.plain pos none scope below)

theorem takes_properties (hdescent : Refines scene pos.rest descent) (search : StyleSearch)
    (scope : N) (below : Evaluation N) :
    Takes scene (left scene (.properties pos search scope below))
      (pullProperties descent pos search scope below) := by
  unfold pullProperties
  split
  · rename_i hnext
    rw [left, StyleSearch.pending_of_none hnext]
    exact .pause scene below
  · rename_i selector later hnext
    rw [left, StyleSearch.pending_of_some hnext]
    simp only [List.map_cons, frameItems_resolved, Option.toList_none, List.append_nil,
      List.append_assoc]
    exact hdescent selector scope pos.anchors (.properties pos later scope below)

theorem takes_contains (hdescent : Refines scene pos.rest descent)
    (expression : Option Regex) (candidates : Candidates N) (scope : N) (last : Option N)
    (below : Evaluation N) :
    Takes scene (left scene (.contains pos expression candidates scope last below))
      (pullContains scene descent pos expression candidates scope last below) := by
  simp only [left, pullContains]
  refine Takes.after ?_ _
  cases (candidates.fetch scene.page).1 with
  | nil => exact .pause scene below
  | cons candidate more =>
    simp only [containsSteps]
    split
    · exact .pause scene (.contains pos expression (candidates.remaining more) scope last below)
    · refine Takes.after ?_ _
      split
      · rw [frameItems_resolved, List.append_assoc]
        exact hdescent _ scope _
          (.contains pos expression (candidates.remaining more) scope (some candidate) below)
      · exact .pause scene (.contains pos expression (candidates.remaining more) scope last below)

theorem takes_has (argument : Chain) (candidates : Candidates N) (below : Evaluation N) :
    Takes scene (left scene (.has pos argument candidates below))
      (pullHas scene pos argument candidates below) := by
  simp only [left, pullHas]
  refine Takes.after ?_ _
  cases (candidates.fetch scene.page).1 with
  | nil => exact .pause scene below
  | cons candidate more =>
    simp only [hasSteps, List.flatMap_cons]
    split
    · exact .pause scene (.has pos argument (candidates.remaining more) below)
    · refine Takes.after ?_ _
      have hinner : items scene.unpruned argument "" candidate =
          left scene.unpruned (start scene.styles argument "" candidate) :=
        (left_start scene.unpruned argument "" candidate).symm
      rw [hinner]
      exact .pause scene (.trying pos argument (candidates.remaining more) candidate _ below)

/-- For a candidate under trial, the pull of its argument is known to take an item. -/
theorem takes_trying (hdescent : Refines scene pos.rest descent) (argument : Chain)
    (candidates : Candidates N) (candidate : N) {inner : Evaluation N} {pulled : Pulled N}
    (hinner : left scene.unpruned inner =
      pulled.item.toList ++ left scene.unpruned pulled.next)
    (hover : pulled.item = none → pulled.next = .finished) (below : Evaluation N) :
    Takes scene (left scene (.trying pos argument candidates candidate inner below))
      (pullTrying scene descent pos argument candidates candidate pulled below) := by
  simp only [left, pullTrying, hinner]
  refine Takes.after ?_ _
  split
  · rename_i hitem
    rw [hitem, hover hitem]
    exact .pause scene (.has pos argument candidates below)
  · rename_i hitem
    rw [hitem]
    exact .pause scene (.trying pos argument candidates candidate pulled.next below)
  · rename_i selector anchors hitem
    rw [hitem]
    simp only [Option.toList_some, List.cons_append, List.nil_append, trialSteps]
    cases scene.page.queryFirst candidate selector with
    | error e =>
      exact Takes.after
        (.pause scene (.trying pos argument candidates candidate pulled.next below)) _
    | ok found =>
      cases found with
      | none => exact .pause scene (.trying pos argument candidates candidate pulled.next below)
      | some n =>
        simp only [List.cons_append, List.nil_append, frameItems_resolved, List.append_assoc]
        exact hdescent _ candidate _ (.has pos argument candidates below)

end Frames

/-- The descent through the links of a chain refines by them. -/
theorem refines_descend (scene : Scene N S) (rest : Chain) :
    Refines scene rest (descend scene rest) := by
  induction rest with
  | nil => exact fun selector scope anchors below => ⟨.found selector anchors, rfl, by
      simp [items, descend, Item.under]⟩
  | cons link rest ih =>
    intro selector scope anchors below
    rw [← left_frame]
    cases link with
    | plain text => exact takes_plain ⟨rest, anchors⟩ ih _ scope below
    | has argument => exact takes_has ⟨rest, anchors⟩ argument _ below
    | contains expression =>
      exact takes_contains ⟨rest, anchors⟩ ih expression _ scope none below
    | properties expression => exact takes_properties ⟨rest, anchors⟩ ih _ scope below

theorem Takes.left_eq {scene : Scene N S} {given : List (Item N)} {pulled : Pulled N}
    (h : Takes scene given pulled) :
    given = pulled.item.toList ++ left scene pulled.next ∧
      (pulled.item = none → pulled.next = .finished) := by
  obtain ⟨item, hitem, hgiven⟩ := h
  rw [hitem]
  exact ⟨hgiven, fun h => by simp at h⟩

/-- A pull takes off the first item that is left, and is over when nothing is. -/
theorem left_pull (e : Evaluation N) : ∀ scene : Scene N S,
    left scene e = (e.pull scene).item.toList ++ left scene (e.pull scene).next ∧
      ((e.pull scene).item = none → (e.pull scene).next = .finished) := by
  induction e with
  | finished => exact fun scene => ⟨rfl, fun _ => rfl⟩
  | single selector => exact fun scene => ⟨rfl, fun _ => rfl⟩
  | plain pos pending scope below ih =>
    exact fun scene => (takes_plain pos (refines_descend scene pos.rest) pending scope
      below).left_eq
  | properties pos search scope below ih =>
    exact fun scene => (takes_properties pos (refines_descend scene pos.rest) search scope
      below).left_eq
  | contains pos expression candidates scope last below ih =>
    exact fun scene => (takes_contains pos (refines_descend scene pos.rest) expression candidates
      scope last below).left_eq
  | has pos argument candidates below ih =>
    exact fun scene => (takes_has pos argument candidates below).left_eq
  | trying pos argument candidates candidate inner below ihinner ihbelow =>
    intro scene
    obtain ⟨hinner, hover⟩ := ihinner scene.unpruned
    exact (takes_trying pos (refines_descend scene pos.rest) argument candidates candidate hinner
      hover below).left_eq

theorem left_of_none {e : Evaluation N} {scene : Scene N S}
    (h : (e.pull scene).item = none) : left scene e = [] := by
  obtain ⟨hleft, hover⟩ := left_pull e scene
  rw [hleft, h, hover h]
  rfl

theorem left_of_some {e : Evaluation N} {scene : Scene N S} {item : Item N}
    (h : (e.pull scene).item = some item) :
    left scene e = item :: left scene (e.pull scene).next := by
  rw [(left_pull e scene).1, h]
  rfl

end Evaluation

/-! ### Any number of pulls -/

namespace Evaluation

variable [DecidableEq N]

/-- Pulls give what is left, in order. -/
theorem pulls_eq_take (scene : Scene N S) (limit : Nat) (e : Evaluation N) :
    (pulls scene limit e).1 = (left scene e).take limit := by
  induction limit generalizing e with
  | zero => rfl
  | succ limit ih =>
    cases hitem : (e.pull scene).item with
    | none => simp [pulls, hitem, left_of_none hitem]
    | some item =>
      rw [left_of_some hitem, List.take_succ_cons, ← ih]
      simp [pulls, hitem]

/-- One pull more than there are items, and the evaluation is over. -/
theorem pulls_over (scene : Scene N S) {limit : Nat} {e : Evaluation N}
    (h : (left scene e).length < limit) : (pulls scene limit e).2.2 = .finished := by
  induction limit generalizing e with
  | zero => simp at h
  | succ limit ih =>
    cases hitem : (e.pull scene).item with
    | none =>
      have hover := (left_pull e scene).2 hitem
      simpa [pulls, hitem] using hover
    | some item =>
      rw [left_of_some hitem, List.length_cons] at h
      simpa [pulls, hitem] using ih (Nat.lt_of_succ_lt_succ h)

/--
**The machine gives the items of its chain**, whatever text comes before the chain, in
whichever scope, with any styles and targets.  The first pulls give the first items, and
the pull after the last item finds the evaluation over.
-/
theorem pulls_agree_with_items (scene : Scene N S) (chain : Chain) (before : String) (scope : N)
    (limit : Nat) :
    (pulls scene limit (start scene.styles chain before scope)).1 =
        (items scene chain before scope).take limit ∧
      ((items scene chain before scope).length < limit →
        (pulls scene limit (start scene.styles chain before scope)).2.2 = .finished) := by
  have hleft := left_start scene chain before scope
  refine ⟨?_, fun hlimit => ?_⟩
  · rw [pulls_eq_take, hleft]
  · refine pulls_over scene ?_
    rw [hleft]
    exact hlimit

end Evaluation

/-! ### What a run finds, in terms of items -/

namespace Findings

variable [DecidableEq N]

/-- The table of matched elements with what an item of a pattern matches. -/
def matchItem (config : Config) (page : Page N S) (pattern : Pattern) (table : MatchTable N) :
    Item N → MatchTable N
  | .pause => table
  | .found selector anchors =>
    if config.hidesBySelector pattern then table
    else
      ((page.queryAll page.document selector).toOption.getD []).foldl
        (fun table n => table.update n (Match.enter pattern anchors)) table

theorem entering_matched (config : Config) (page : Page N S) (pattern : Pattern)
    (findings : Findings N) (pulled : Pulled N) :
    (findings.entering config page pattern pulled).matched =
      pulled.item.toList.foldl (matchItem config page pattern) findings.matched := by
  have hseen : (if config.testMode then findings.examine pulled.reports
      else findings).matched = findings.matched := by
    split <;> rfl
  unfold entering enterPulled
  cases pulled.item with
  | none => exact hseen
  | some item =>
    cases item with
    | pause => exact hseen
    | found selector anchors =>
      simp only [Option.toList_some, List.foldl_cons, List.foldl_nil, matchItem, enter]
      split
      · exact hseen
      · cases page.queryAll page.document selector with
        | error e => exact hseen
        | ok nodes =>
          simp only [addMatches, hseen]
          rfl

theorem entering_processed (config : Config) (page : Page N S) (pattern : Pattern)
    (findings : Findings N) (pulled : Pulled N) :
    (findings.entering config page pattern pulled).processed =
      if config.testMode then addNew findings.processed (pulled.reports.filterMap examined?)
      else findings.processed := by
  have henter : ∀ (seen : Findings N) selector anchors,
      (seen.enter config page pattern selector anchors).1.processed = seen.processed := by
    intro seen selector anchors
    unfold enter
    split
    · rfl
    · split <;> rfl
  unfold entering enterPulled
  simp only
  split
  · rw [henter]
    split <;> rfl
  · split <;> rfl

end Findings

namespace Run

variable [DecidableEq N]

theorem drain_matched (config : Config) (scene : Scene N S) (pattern : Pattern)
    (evaluation : Evaluation N) (findings : Findings N) :
    (drain config scene pattern evaluation findings).matched =
      (evaluation.left scene).foldl (Findings.matchItem config scene.page pattern)
        findings.matched := by
  fun_induction drain config scene pattern evaluation findings with
  | case1 evaluation findings pulled entered hitem =>
    rw [Evaluation.left_of_none hitem, Findings.entering_matched, hitem]
    rfl
  | case2 evaluation findings pulled entered item hitem ih =>
    rw [ih, Evaluation.left_of_some hitem, Findings.entering_matched, hitem]
    rfl

/-- The items of a candidate on a page. -/
def candidateItems (page : Page N S) (styles : List Style) (candidate : Candidate N) :
    List (Item N) :=
  Evaluation.items ⟨page, styles, candidate.targets⟩ candidate.pattern.chain "" page.document

/-- What a run has matched when it is completed, given by the items of its candidates. -/
theorem completed_matched (config : Config) (page : Page N S)
    (classification : Classification N) (styles : List Style) :
    ((Run.ofClassification classification styles).completed config page).findings.matched =
      classification.candidates.foldl
        (fun table candidate => (candidateItems page styles candidate).foldl
          (Findings.matchItem config page candidate.pattern) table) [] := by
  have hall : ∀ (candidates : List (Candidate N)) (findings : Findings N),
      (drainAll config page styles candidates none findings).matched =
        candidates.foldl (fun table candidate => (candidateItems page styles candidate).foldl
          (Findings.matchItem config page candidate.pattern) table) findings.matched := by
    intro candidates
    induction candidates with
    | nil => intro findings; rfl
    | cons candidate more ih =>
      intro findings
      simp only [drainAll, List.foldl_cons] at ih ⊢
      rw [ih, drain_matched, candidateItems, ← Evaluation.left_start]
  exact hall classification.candidates .none

end Run

end CosmeticFilter
