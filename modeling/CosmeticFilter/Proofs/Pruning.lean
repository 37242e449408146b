/-
Pruning is a filter.

A run that is confined to targets passes over the candidates that are related to none of
them.  What it finds are precisely the matches of the unconfined evaluation all of whose
anchors are related to a target, in the same order.

For `has` this is so because candidates are judged one by one.  A `contains` link, though,
passes over what lies inside its last match, and with targets that match may be a different
one.  It is not, as far as related candidates go: queries answer in tree order, so that what
lies inside a node comes in one piece, and a node inside a pruned match that is related to
a target would make the match related too.
-/
import CosmeticFilter.Evaluation.Items

namespace CosmeticFilter

variable {N S : Type} [DecidableEq N]

/-! ### Pages with a tree -/

/-- What lies inside a node of the list comes right behind it, in one piece. -/
def InPieces (contains : N → N → Bool) : List N → Prop
  | [] => True
  | a :: rest =>
    rest.Pairwise (fun b c => contains a c = true → contains a b = true) ∧ InPieces contains rest

omit [DecidableEq N] in
theorem InPieces.sublist {contains : N → N → Bool} {list more : List N}
    (h : InPieces contains more) (hsub : list.Sublist more) : InPieces contains list := by
  induction hsub with
  | slnil => trivial
  | cons a hsub ih => exact ih h.2
  | cons_cons a hsub ih => exact ⟨h.1.sublist hsub, ih h.2⟩

omit [DecidableEq N] in
theorem inPieces_append {contains : N → N → Bool} {first last : List N}
    (hfirst : InPieces contains first) (hlast : InPieces contains last)
    (hapart : ∀ a ∈ first, ∀ b ∈ last, contains a b = false) :
    InPieces contains (first ++ last) := by
  induction first with
  | nil => exact hlast
  | cons a rest ih =>
    have hmore := ih hfirst.2 fun b hb => hapart b (List.mem_cons_of_mem _ hb)
    refine ⟨List.pairwise_append.mpr ⟨hfirst.1, ?_, ?_⟩, hmore⟩
    · refine List.pairwise_of_forall_mem_list fun b _ c hc hcontains => ?_
      rw [hapart a List.mem_cons_self c hc] at hcontains
      simp at hcontains
    · intro b _ c hc hcontains
      rw [hapart a List.mem_cons_self c hc] at hcontains
      simp at hcontains

/-- The page has a tree: containment is an order by branches, and queries follow it. -/
structure Page.Orderly (page : Page N S) : Prop where
  trans : ∀ {a b c}, page.contains a b = true → page.contains b c = true →
    page.contains a c = true
  branch : ∀ {a b n}, page.contains a n = true → page.contains b n = true →
    page.related a b = true
  pieces : ∀ {scope selector nodes}, page.queryAll scope selector = .ok nodes →
    InPieces page.contains nodes

omit [DecidableEq N] in
/-- What contains a relative of a node is a relative of the node. -/
theorem Page.Orderly.related_of_contains {page : Page N S} (h : page.Orderly) {a b t : N}
    (hab : page.contains a b = true) (hbt : page.related b t = true) :
    page.related a t = true := by
  rcases Bool.or_eq_true _ _ ▸ hbt with hbt | htb
  · rw [Page.related, h.trans hab hbt, Bool.true_or]
  · exact h.branch hab htb

/-! ### What is found -/

namespace Item

/-- The selector that an item tells of, with its anchors. -/
def found? : Item N → Option (String × List N)
  | .found selector anchors => some (selector, anchors)
  | .pause => none

end Item

/-- The selectors among items, in order. -/
def founds (items : List (Item N)) : List (String × List N) :=
  items.filterMap Item.found?

omit [DecidableEq N] in
@[simp] theorem founds_append (first last : List (Item N)) :
    founds (first ++ last) = founds first ++ founds last :=
  List.filterMap_append

omit [DecidableEq N] in
@[simp] theorem founds_pause : founds [(.pause : Item N)] = [] := rfl

omit [DecidableEq N] in
@[simp] theorem founds_found (selector : String) (anchors : List N) :
    founds [.found selector anchors] = [(selector, anchors)] := rfl

namespace LinkStep

/-- What a step that is no pause resolves to. -/
def resolved? : LinkStep N → Option (String × N × Option N)
  | .resolved selector scope anchor => some (selector, scope, anchor)
  | .pause => none

end LinkStep

/-- What the steps resolve to, in order. -/
def resolvedBy (steps : List (LinkStep N)) : List (String × N × Option N) :=
  steps.filterMap LinkStep.resolved?

omit [DecidableEq N] in
@[simp] theorem resolvedBy_nil : resolvedBy ([] : List (LinkStep N)) = [] := rfl

omit [DecidableEq N] in
@[simp] theorem resolvedBy_pause (steps : List (LinkStep N)) :
    resolvedBy (.pause :: steps) = resolvedBy steps := rfl

omit [DecidableEq N] in
@[simp] theorem resolvedBy_resolved (selector : String) (scope : N) (anchor : Option N)
    (steps : List (LinkStep N)) :
    resolvedBy (.resolved selector scope anchor :: steps) =
      (selector, scope, anchor) :: resolvedBy steps := rfl

omit [DecidableEq N] in
@[simp] theorem resolvedBy_append (first last : List (LinkStep N)) :
    resolvedBy (first ++ last) = resolvedBy first ++ resolvedBy last :=
  List.filterMap_append

namespace Evaluation

omit [DecidableEq N] in
theorem founds_map_anchoredAt (anchor : Option N) (items : List (Item N)) :
    founds (items.map (Item.anchoredAt anchor)) =
      (founds items).map fun found => (found.1, anchor.toList ++ found.2) := by
  unfold founds
  rw [List.filterMap_map, List.map_filterMap]
  congr 1
  funext item
  cases item <;> rfl

omit [DecidableEq N] in
/-- What the items of a frame tell, in terms of what its steps resolve to. -/
theorem founds_refine (next : String → N → List (Item N)) (steps : List (LinkStep N)) :
    founds (steps.flatMap (refine next) ++ [.pause]) =
      (resolvedBy steps).flatMap fun step =>
        (founds (next step.1 step.2.1)).map fun found =>
          (found.1, step.2.2.toList ++ found.2) := by
  rw [founds_append, founds_pause, List.append_nil]
  induction steps with
  | nil => rfl
  | cons step rest ih =>
    rw [List.flatMap_cons, founds_append, ih]
    cases step with
    | pause => simp [refine]
    | resolved selector scope anchor => simp [refine, founds_map_anchoredAt]

/-! ### The steps of one link -/

/-- The anchor is no candidate that the scene prunes. -/
def spares (scene : Scene N S) (anchor : Option N) : Bool :=
  anchor.all fun a => !scene.prunes a

omit [DecidableEq N] in
@[simp] theorem unpruned_prunes (scene : Scene N S) (n : N) : scene.unpruned.prunes n = false :=
  rfl

/-- All steps of a trial are anchored at its candidate. -/
theorem trialSteps_anchor (page : Page N S) (candidate : N) (items : List (Item N)) :
    ∀ step ∈ resolvedBy (trialSteps page candidate items), step.2.2 = some candidate := by
  fun_induction trialSteps page candidate items with
  | case1 => simp
  | case2 more ih => simpa using ih
  | case3 => simp
  | case4 selector anchors more _ ih => simpa using ih

theorem resolvedBy_has (scene : Scene N S) (argument : Chain) (before : String) (scope : N) :
    resolvedBy (linkSteps scene (.has argument) before scope) =
      (resolvedBy (linkSteps scene.unpruned (.has argument) before scope)).filter
        (spares scene ·.2.2) := by
  simp only [linkSteps]
  rw [show scene.unpruned.page = scene.page from rfl,
    show scene.unpruned.unpruned = scene.unpruned from rfl]
  induction Candidates.all scene.page before scope with
  | nil => rfl
  | cons candidate more ih =>
    have hanchor := trialSteps_anchor scene.page candidate
      (items scene.unpruned argument "" candidate)
    simp only [List.flatMap_cons, resolvedBy_append, List.filter_append]
    rw [ih]
    congr 1
    simp only [unpruned_prunes, Bool.false_eq_true, if_false, resolvedBy_pause]
    by_cases hprunes : scene.prunes candidate = true
    · rw [if_pos hprunes, eq_comm, List.filter_eq_nil_iff.mpr]
      · rfl
      · intro step hstep
        simp [spares, hanchor step hstep, hprunes]
    · rw [if_neg hprunes, resolvedBy_pause, eq_comm, List.filter_eq_self]
      intro step hstep
      simp [spares, hanchor step hstep, hprunes]

/-- The candidate lies inside the last match. -/
def isInside (page : Page N S) (last : Option N) (candidate : N) : Bool :=
  last.any (page.contains · candidate)

omit [DecidableEq N] in
/-- Nothing that counts lies inside a node that does not. -/
theorem contains_of_prunes {scene : Scene N S} (h : scene.page.Orderly) {a n : N}
    (ha : scene.prunes a = true) (hn : scene.prunes n = false) :
    scene.page.contains a n = false := by
  unfold Scene.prunes at ha hn
  cases htargets : scene.targets with
  | none => simp [htargets] at ha
  | some targets =>
    simp only [htargets, Option.any_some, Bool.not_eq_true', List.any_eq_false] at ha
    simp only [htargets, Option.any_some, Bool.not_eq_false', List.any_eq_true] at hn
    obtain ⟨t, ht, hrelated⟩ := hn
    cases hcontains : scene.page.contains a n with
    | false => rfl
    | true => exact absurd (h.related_of_contains hcontains hrelated) (ha t ht)

omit [DecidableEq N] in
/-- What counts is neither inside of a candidate that does not, nor inside of what that is not in. -/
theorem isInside_of_prunes {scene : Scene N S} (h : scene.page.Orderly) {candidate n : N}
    {last : Option N} (hprunes : scene.prunes candidate = true) (hspared : scene.prunes n = false)
    (hinside : isInside scene.page last candidate = false)
    (hback : ∀ a, last = some a →
      scene.page.contains a n = true → scene.page.contains a candidate = true) :
    isInside scene.page last n = isInside scene.page (some candidate) n := by
  have hnot : isInside scene.page (some candidate) n = false := by
    rw [isInside, Option.any_some, contains_of_prunes h hprunes hspared]
  rw [hnot, isInside, Option.any_eq_false]
  intro a ha
  rw [Bool.eq_false_iff]
  intro hcontains
  simp [isInside, ha, hback a ha hcontains] at hinside

/-- The two last matches agree about all candidates that count. -/
theorem resolvedBy_containsSteps {scene : Scene N S} (h : scene.page.Orderly)
    (expression : Option Regex) (scope : N) (candidates : List N) (last other : Option N)
    (hpieces : InPieces scene.page.contains candidates)
    (hother : ∀ a, other = some a → candidates.Pairwise fun b c =>
      scene.page.contains a c = true → scene.page.contains a b = true)
    (hagree : ∀ n ∈ candidates, scene.prunes n = false →
      isInside scene.page last n = isInside scene.page other n) :
    resolvedBy (containsSteps scene expression scope last candidates) =
      (resolvedBy (containsSteps scene.unpruned expression scope other candidates)).filter
        (spares scene ·.2.2) := by
  induction candidates generalizing last other with
  | nil => rfl
  | cons candidate more ih =>
    obtain ⟨hpiece, hpieces⟩ := hpieces
    have hrest : ∀ a, other = some a → more.Pairwise fun b c =>
        scene.page.contains a c = true → scene.page.contains a b = true :=
      fun a ha => (List.pairwise_cons.mp (hother a ha)).2
    have hmore : ∀ n ∈ more, scene.prunes n = false →
        isInside scene.page last n = isInside scene.page other n :=
      fun n hn => hagree n (List.mem_cons_of_mem _ hn)
    have hsame := ih last other hpieces hrest hmore
    -- What holds after the candidate has matched for the unpruned steps.
    have hmatched : ∀ now : Option N, (∀ n ∈ more, scene.prunes n = false →
        isInside scene.page now n = isInside scene.page (some candidate) n) →
        resolvedBy (containsSteps scene expression scope now more) =
          (resolvedBy (containsSteps scene.unpruned expression scope (some candidate)
            more)).filter (spares scene ·.2.2) :=
      fun now hnow => ih now (some candidate) hpieces
        (fun a ha => Option.some.inj ha ▸ hpiece) hnow
    have hpage : scene.unpruned.page = scene.page := rfl
    simp only [containsSteps, hpage, unpruned_prunes, Bool.or_false]
    rw [← isInside, ← isInside]
    cases hprunes : scene.prunes candidate with
    | true =>
      rw [if_pos (Bool.or_true _), resolvedBy_pause]
      split
      · rwa [resolvedBy_pause]
      · rename_i hinside
        split
        · -- Nothing that counts lies inside of the candidate or of what was matched before.
          have hspares : spares scene (some candidate) = false := by simp [spares, hprunes]
          rw [resolvedBy_resolved, List.filter_cons_of_neg (by simp [hspares])]
          refine hmatched last fun n hn hspared => ?_
          rw [hmore n hn hspared]
          exact isInside_of_prunes h hprunes hspared (Bool.eq_false_iff.mpr hinside)
            fun a ha => (List.pairwise_cons.mp (hother a ha)).1 n hn
        · rwa [resolvedBy_pause]
    | false =>
      rw [hagree candidate List.mem_cons_self hprunes, Bool.or_false]
      split
      · rwa [resolvedBy_pause, resolvedBy_pause]
      · split
        · have hspares : spares scene (some candidate) = true := by simp [spares, hprunes]
          rw [resolvedBy_resolved, resolvedBy_resolved, List.filter_cons_of_pos (by simp [hspares]),
            hmatched (some candidate) fun _ _ _ => rfl]
        · rwa [resolvedBy_pause, resolvedBy_pause]

omit [DecidableEq N] in
theorem inPieces_all {page : Page N S} (h : page.Orderly) (before : String) (scope : N) :
    InPieces page.contains (Candidates.all page before scope) := by
  unfold Candidates.all
  cases hquery : page.queryAll scope (SelectorText.complete before) with
  | error e => trivial
  | ok nodes => exact h.pieces hquery

/-- The steps of a link with targets are those without whose anchors are spared. -/
theorem resolvedBy_linkSteps {scene : Scene N S} (h : scene.page.Orderly) (link : Link)
    (before : String) (scope : N) :
    resolvedBy (linkSteps scene link before scope) =
      (resolvedBy (linkSteps scene.unpruned link before scope)).filter (spares scene ·.2.2) := by
  cases link with
  | plain text => simp [linkSteps, resolvedBy, LinkStep.resolved?, spares]
  | properties expression =>
    simp only [linkSteps]
    rw [show scene.unpruned.styles = scene.styles from rfl, eq_comm, List.filter_eq_self]
    intro step hstep
    simp only [resolvedBy, List.filterMap_map] at hstep
    obtain ⟨selector, -, hselector⟩ := List.mem_filterMap.mp hstep
    simp only [Function.comp, LinkStep.resolved?, Option.some.injEq] at hselector
    simp [← hselector, spares]
  | contains expression =>
    exact resolvedBy_containsSteps h expression scope _ none none
      (inPieces_all h before scope) (by simp) (fun _ _ _ => rfl)
  | has argument => exact resolvedBy_has scene argument before scope

/-! ### Whole chains -/

/-- A filter on lists can be pulled through where it keeps or drops all that comes of an element. -/
theorem flatMap_filter {α β : Type} {keeps : α → Bool} {counts : β → Bool} {f g : α → List β}
    (hkeep : ∀ a, keeps a = true → f a = (g a).filter counts)
    (hdrop : ∀ a, keeps a = false → (g a).filter counts = []) (list : List α) :
    (list.filter keeps).flatMap f = (list.flatMap g).filter counts := by
  induction list with
  | nil => rfl
  | cons a rest ih =>
    rw [List.flatMap_cons, List.filter_append, ← ih]
    cases hkeeps : keeps a with
    | true => rw [List.filter_cons_of_pos hkeeps, List.flatMap_cons, hkeep a hkeeps]
    | false => rw [List.filter_cons_of_neg (by simp [hkeeps]), hdrop a hkeeps, List.nil_append]

/--
**Pruning is a filter.**  What is found with targets are the matches found without whose
anchors are all related to some target, in order.
-/
theorem founds_items (scene : Scene N S) (h : scene.page.Orderly) (chain : Chain)
    (before : String) (scope : N) :
    founds (items scene chain before scope) =
      (founds (items scene.unpruned chain before scope)).filter fun found =>
        found.2.all fun a => !scene.prunes a := by
  induction chain generalizing before scope with
  | nil => rfl
  | cons link rest ih =>
    simp only [items]
    rw [founds_refine, founds_refine, resolvedBy_linkSteps h]
    -- A step is kept if its own anchor is; the anchors behind it are a matter of the rest.
    refine flatMap_filter ?_ ?_ _
    · intro step hspares
      rw [ih, List.filter_map]
      congr 2
      funext found
      have hfirst : (step.2.2.toList.all fun a => !scene.prunes a) = true := by
        cases hanchor : step.2.2 with
        | none => rfl
        | some a => simpa [spares, hanchor] using hspares
      simp only [Function.comp_apply, List.all_append, hfirst, Bool.true_and]
    · intro step hspares
      rw [List.filter_eq_nil_iff]
      intro found hfound hall
      obtain ⟨inner, -, rfl⟩ := List.mem_map.mp hfound
      simp only [List.all_append, Bool.and_eq_true] at hall
      cases hanchor : step.2.2 with
      | none => simp [spares, hanchor] at hspares
      | some a =>
        have hfirst := hall.1
        simp only [hanchor, Option.toList_some, List.all_cons, List.all_nil,
          Bool.and_true] at hfirst
        simp [spares, hanchor, hfirst] at hspares

end Evaluation

end CosmeticFilter
