/-
Fewer styles find less.

A run for new style sheets looks at these sheets alone, so what it knows of the styles of
the page is incomplete.  It does no harm by it: whatever is found with some of the styles
is found with all of them.  And a chain that says of itself not to depend on styles finds
the same with any.
-/
import CosmeticFilter.Proofs.Pruning

namespace CosmeticFilter.Evaluation

variable {N S : Type} [DecidableEq N]

/-- What a chain finds are the steps of its first link, refined by the others. -/
theorem mem_founds_cons {scene : Scene N S} {link : Link} {rest : Chain} {before : String}
    {scope : N} {found : String × List N} :
    found ∈ founds (items scene (link :: rest) before scope) ↔
      ∃ step ∈ resolvedBy (linkSteps scene link before scope),
        ∃ inner ∈ founds (items scene rest step.1 step.2.1),
          found = (inner.1, step.2.2.toList ++ inner.2) := by
  rw [items, founds_refine]
  simp only [List.mem_flatMap, List.mem_map, eq_comm]

/-- The selector finds something below the candidate. -/
def findsBelow (page : Page N S) (candidate : N) (selector : String) : Bool :=
  match page.queryFirst candidate selector with
  | .ok (some _) => true
  | _ => false

/-- A trial resolves to the path of its candidate, if the argument finds something there. -/
theorem resolvedBy_trialSteps (page : Page N S) (candidate : N) (items : List (Item N)) :
    resolvedBy (trialSteps page candidate items) =
      if (founds items).any (findsBelow page candidate ·.1) then
        [(page.path candidate, candidate, some candidate)]
      else [] := by
  fun_induction trialSteps page candidate items with
  | case1 => rfl
  | case2 more ih => exact ih
  | case3 selector anchors more n hquery =>
    have hfinds : findsBelow page candidate selector = true := by simp [findsBelow, hquery]
    simp [founds, Item.found?, hfinds]
  | case4 selector anchors more hquery ih =>
    have hnot : findsBelow page candidate selector = false := by
      unfold findsBelow
      split
      · exact absurd ‹_› (hquery _)
      · rfl
    rw [resolvedBy_pause, ih]
    simp [founds, Item.found?, hnot]

/-- What a `has` link resolves to. -/
theorem mem_resolvedBy_has {scene : Scene N S} {argument : Chain} {before : String} {scope : N}
    {step : String × N × Option N} :
    step ∈ resolvedBy (linkSteps scene (.has argument) before scope) ↔
      ∃ candidate ∈ Candidates.all scene.page before scope, scene.prunes candidate = false ∧
        ((founds (items scene.unpruned argument "" candidate)).any
          (findsBelow scene.page candidate ·.1) = true) ∧
        step = (scene.page.path candidate, candidate, some candidate) := by
  simp only [linkSteps]
  induction Candidates.all scene.page before scope with
  | nil => simp
  | cons candidate more ih =>
    rw [List.flatMap_cons, resolvedBy_append, List.mem_append, ih]
    simp only [List.mem_cons, exists_eq_or_imp]
    refine or_congr ?_ Iff.rfl
    cases hprunes : scene.prunes candidate with
    | true => simp
    | false =>
      simp only [Bool.false_eq_true, if_false, resolvedBy_pause, resolvedBy_trialSteps, true_and]
      split
      · rename_i hfinds
        simp [hfinds]
      · rename_i hfinds
        simp [hfinds]

/-- What a `properties` link resolves to. -/
theorem mem_resolvedBy_properties {scene : Scene N S} {expression : Option Regex}
    {before : String} {scope : N} {step : String × N × Option N} :
    step ∈ resolvedBy (linkSteps scene (.properties expression) before scope) ↔
      ∃ style ∈ scene.styles, matchesText expression style.text = true ∧
        ∃ selector ∈ style.selectors, ∃ resolved, resolveProperty? before selector = some resolved ∧
          step = (resolved, scope, none) := by
  simp only [linkSteps, resolvedBy, List.mem_filterMap, List.mem_map, resolveProperties,
    List.mem_flatMap, List.mem_filter]
  constructor
  · rintro ⟨_, ⟨resolved, ⟨style, ⟨hstyle, hmatches⟩, selector, hselector, hresolve⟩, rfl⟩, hstep⟩
    exact ⟨style, hstyle, hmatches, selector, hselector, resolved, hresolve,
      (Option.some.inj hstep).symm⟩
  · rintro ⟨style, hstyle, hmatches, selector, hselector, resolved, hresolve, rfl⟩
    exact ⟨_, ⟨resolved, ⟨style, ⟨hstyle, hmatches⟩, selector, hselector, hresolve⟩, rfl⟩, rfl⟩

/-- The steps of `contains` are a matter of the answers of the page about the candidates. -/
theorem containsSteps_congr {T : Type} (scene : Scene N S) (other : Scene N T) {nodes : List N}
    (hprunes : ∀ n ∈ nodes, scene.prunes n = other.prunes n)
    (htext : ∀ n ∈ nodes, scene.page.textContent n = other.page.textContent n)
    (hpath : ∀ n ∈ nodes, scene.page.path n = other.page.path n)
    (hcontains : ∀ m ∈ nodes, ∀ n ∈ nodes, scene.page.contains m n = other.page.contains m n)
    (expression : Option Regex) (scope : N) (last : Option N) (candidates : List N)
    (hlast : ∀ m, last = some m → m ∈ nodes) (hsub : ∀ n ∈ candidates, n ∈ nodes) :
    containsSteps scene expression scope last candidates =
      containsSteps other expression scope last candidates := by
  induction candidates generalizing last with
  | nil => rfl
  | cons candidate more ih =>
    have hcandidate := hsub candidate List.mem_cons_self
    have hmore : ∀ n ∈ more, n ∈ nodes := fun n hn => hsub n (List.mem_cons_of_mem _ hn)
    have hinside : last.any (scene.page.contains · candidate) =
        last.any (other.page.contains · candidate) := by
      cases last with
      | none => rfl
      | some m => simp [hcontains m (hlast m rfl) candidate hcandidate]
    have hmatched : ∀ m, some candidate = some m → m ∈ nodes :=
      fun m hm => Option.some.inj hm ▸ hcandidate
    simp only [containsSteps, hinside, hprunes candidate hcandidate, htext candidate hcandidate,
      hpath candidate hcandidate, ih last hlast hmore, ih (some candidate) hmatched hmore]

/-- What is found by a chain, given what is found by its parts. -/
theorem mem_founds_cons_of {T : Type} {scene : Scene N S} {other : Scene N T} {link : Link}
    {rest : Chain} {before : String} {scope : N} {found : String × List N}
    (hlink : ∀ step ∈ resolvedBy (linkSteps scene link before scope),
      step ∈ resolvedBy (linkSteps other link before scope))
    (hrest : ∀ before scope, ∀ found ∈ founds (items scene rest before scope),
      found ∈ founds (items other rest before scope))
    (h : found ∈ founds (items scene (link :: rest) before scope)) :
    found ∈ founds (items other (link :: rest) before scope) := by
  obtain ⟨step, hstep, inner, hinner, heq⟩ := mem_founds_cons.mp h
  exact mem_founds_cons.mpr ⟨step, hlink step hstep, inner, hrest _ _ _ hinner, heq⟩

theorem style_of_link {link : Link} {rest : Chain} (h : link.dependencies.style = true) :
    (Chain.dependencies (link :: rest)).style = true := by
  simp [Chain.dependencies, Dependencies.union, h]

theorem style_of_rest {link : Link} {rest : Chain}
    (h : (Chain.dependencies rest).style = true) :
    (Chain.dependencies (link :: rest)).style = true := by
  simp [Chain.dependencies, Dependencies.union, h]

/--
**Fewer styles find less.**  What a chain finds with some styles it finds with more of them;
if it does not depend on styles, with any.
-/
theorem founds_items_styles (page : Page N S) {few many : List Style} : (chain : Chain) →
    ((Chain.dependencies chain).style = true → ∀ style ∈ few, style ∈ many) →
    ∀ (before : String) (scope : N), ∀ found ∈ founds (items ⟨page, few, none⟩ chain before scope),
      found ∈ founds (items ⟨page, many, none⟩ chain before scope)
  | [], _, _, _, _, hfound => hfound
  | .plain text :: rest, hstyles, before, scope, _, hfound => by
    have hlink : ∀ step ∈ resolvedBy (linkSteps ⟨page, few, none⟩ (.plain text) before scope),
        step ∈ resolvedBy (linkSteps ⟨page, many, none⟩ (.plain text) before scope) :=
      fun _ hstep => hstep
    exact mem_founds_cons_of hlink
      (founds_items_styles page rest fun h => hstyles (style_of_rest h)) hfound
  | .contains expression :: rest, hstyles, before, scope, _, hfound => by
    refine mem_founds_cons_of ?_
      (founds_items_styles page rest fun h => hstyles (style_of_rest h)) hfound
    intro step hstep
    simp only [linkSteps] at hstep ⊢
    rwa [containsSteps_congr ⟨page, few, none⟩ ⟨page, many, none⟩ (fun _ _ => rfl)
      (fun _ _ => rfl) (fun _ _ => rfl) (fun _ _ _ _ => rfl) expression scope none _ (by simp)
      (fun _ hn => hn)] at hstep
  | .properties expression :: rest, hstyles, _, _, _, hfound => by
    have hall := hstyles (style_of_link rfl)
    refine mem_founds_cons_of ?_ (founds_items_styles page rest fun _ => hall) hfound
    intro step hstep
    obtain ⟨style, hstyle, hselector⟩ := mem_resolvedBy_properties.mp hstep
    exact mem_resolvedBy_properties.mpr ⟨style, hall style hstyle, hselector⟩
  | .has argument :: rest, hstyles, _, _, _, hfound => by
    refine mem_founds_cons_of ?_
      (founds_items_styles page rest fun h => hstyles (style_of_rest h)) hfound
    intro step hstep
    obtain ⟨candidate, hcandidate, hspared, hfinds, rfl⟩ := mem_resolvedBy_has.mp hstep
    refine mem_resolvedBy_has.mpr ⟨candidate, hcandidate, hspared, ?_, rfl⟩
    obtain ⟨inner, hinner, hquery⟩ := List.any_eq_true.mp hfinds
    refine List.any_eq_true.mpr ⟨inner, ?_, hquery⟩
    exact founds_items_styles page argument (fun h => hstyles (style_of_link h)) _ _ _ hinner

end CosmeticFilter.Evaluation
