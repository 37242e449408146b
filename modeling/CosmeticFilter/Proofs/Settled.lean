/-
What is examined, and the order of the styles.

A run indexes styles in the order in which their sheets were named, so a `properties` link
resolves to its selectors in that order, and to some of them more than once.  In a chain that
is evaluated to its end this only moves sights around.  But the argument of a `has` is left
as soon as something is found, and what comes before that may depend on the order.

It does not if the argument is settled: behind a `properties` link of it there is no other
`has` and no `contains`.  The sights of such an argument are fixed by the page, up to the
order inside blocks of selectors in which nothing is examined.  A trial stops in the same
block then, whatever comes first in it, and has examined the same candidates.
-/
import CosmeticFilter.Proofs.Sights
import CosmeticFilter.Proofs.Styles

namespace CosmeticFilter

/-! ### Settled chains -/

/-- Nothing is looked at on the way: there is neither `has` nor `contains`. -/
def Chain.still (chain : Chain) : Bool :=
  chain.all fun link => !link.judgesElements

mutual

/-- The argument of a `has` link is settled. -/
def Link.settled : Link → Bool
  | .has argument => Chain.settled argument
  | _ => true

/-- Behind a `properties` link nothing is looked at; so it is in the arguments, too. -/
def Chain.settled : List Link → Bool
  | [] => true
  | link :: rest => link.settled && if link.isProperties then Chain.still rest
    else Chain.settled rest

end

/-- The arguments of the chain are settled. -/
def Chain.steady (chain : Chain) : Bool :=
  chain.all Link.settled

variable {N S α : Type}

/-! ### Sights that are alike -/

/-- Something is found. -/
def Sight.isFound : Sight N α → Bool
  | .found _ => true
  | .examined _ => false

/-- The sights agree, up to the order inside blocks in which nothing is examined. -/
inductive Alike : List (Sight N α) → List (Sight N α) → Prop
  | nil : Alike [] []
  | examined (candidate : N) {some others : List (Sight N α)} (h : Alike some others) :
      Alike (.examined candidate :: some) (.examined candidate :: others)
  | block {first other some others : List (Sight N α)}
      (hfound : ∀ sight ∈ first, sight.isFound = true)
      (hsame : ∀ sight, sight ∈ first ↔ sight ∈ other) (h : Alike some others) :
      Alike (first ++ some) (other ++ others)

namespace Alike

theorem refl (sights : List (Sight N α)) : Alike sights sights := by
  induction sights with
  | nil => exact .nil
  | cons sight more ih =>
    cases sight with
    | examined candidate => exact .examined candidate ih
    | found what =>
      exact .block (List.forall_mem_singleton.mpr rfl) (fun _ => Iff.rfl) ih

/-- A block alone. -/
theorem of_found {first other : List (Sight N α)}
    (hfound : ∀ sight ∈ first, sight.isFound = true)
    (hsame : ∀ sight, sight ∈ first ↔ sight ∈ other) : Alike first other := by
  have h := Alike.block hfound hsame .nil
  rwa [List.append_nil, List.append_nil] at h

theorem append {some others more moreOthers : List (Sight N α)} (h : Alike some others)
    (hmore : Alike more moreOthers) : Alike (some ++ more) (others ++ moreOthers) := by
  induction h with
  | nil => exact hmore
  | examined candidate _ ih => exact .examined candidate ih
  | block hfound hsame _ ih =>
    rw [List.append_assoc, List.append_assoc]
    exact .block hfound hsame ih

theorem flatMap {β : Type} (list : List β) {f g : β → List (Sight N α)}
    (h : ∀ x, Alike (f x) (g x)) : Alike (list.flatMap f) (list.flatMap g) := by
  induction list with
  | nil => exact .nil
  | cons x rest ih => exact (h x).append ih

end Alike

section Trials

variable [DecidableEq N] (page : Page N S) (candidate : N)

/-- A selector is found that finds something below the candidate. -/
def Sight.leadsBelow : Sight N String → Bool
  | .found selector => Evaluation.findsBelow page candidate selector
  | .examined _ => false

theorem trialSights_found (selector : String) (more : List (Sight N String)) :
    trialSights page candidate (.found selector :: more) =
      if Evaluation.findsBelow page candidate selector = true then
        [.found (page.path candidate, candidate)]
      else trialSights page candidate more := by
  rw [trialSights]
  unfold Evaluation.findsBelow
  split <;> simp_all

/-- Of a block of selectors a trial sees no more than whether one of them leads below. -/
theorem trialSights_block {first : List (Sight N String)}
    (hfound : ∀ sight ∈ first, sight.isFound = true) (more : List (Sight N String)) :
    trialSights page candidate (first ++ more) =
      if first.any (Sight.leadsBelow page candidate) = true then
        [.found (page.path candidate, candidate)]
      else trialSights page candidate more := by
  induction first with
  | nil => rfl
  | cons sight rest ih =>
    cases sight with
    | examined other => simp [Sight.isFound] at hfound
    | found selector =>
      rw [List.cons_append, trialSights_found, ih fun sight h => hfound sight (.tail _ h),
        List.any_cons, Sight.leadsBelow]
      by_cases hleads : Evaluation.findsBelow page candidate selector = true
      · rw [if_pos hleads, hleads, Bool.true_or, if_pos rfl]
      · rw [if_neg hleads, Bool.eq_false_iff.mpr hleads, Bool.false_or]

/-- **Trials of arguments that are alike see the same**, in the same order. -/
theorem Alike.trialSights_eq {some others : List (Sight N String)} (h : Alike some others) :
    trialSights page candidate some = trialSights page candidate others := by
  induction h with
  | nil => rfl
  | examined other _ ih => rw [trialSights, trialSights, ih]
  | block hfound hsame _ ih =>
    rw [trialSights_block page candidate hfound,
      trialSights_block page candidate fun sight h => hfound sight ((hsame sight).mpr h),
      any_eq_of_mem_iff hsame, ih]

end Trials

/-! ### Other styles, the same elements -/

section Styles

variable [DecidableEq N] {page : Page N S} {styles others : List Style}

/-- Links resolve to the same selectors if the styles are the same up to order and number. -/
theorem mem_resolveProperties_congr (hstyles : ∀ style, style ∈ styles ↔ style ∈ others)
    (expression : Option Regex) (before selector : String) :
    selector ∈ resolveProperties styles expression before ↔
      selector ∈ resolveProperties others expression before := by
  unfold resolveProperties
  simp only [List.mem_flatMap, List.mem_filter, hstyles]

/-- A link but `properties` shows the same if its argument does. -/
theorem linkSights_congr {link : Link} {skips : N → Bool} (hlink : link.isProperties = false)
    (hargument : ∀ argument, link = .has argument → ∀ candidate,
      Alike (sights ⟨page, styles, fun _ => false⟩ argument "" candidate)
        (sights ⟨page, others, fun _ => false⟩ argument "" candidate))
    (before : String) (scope : N) :
    linkSights ⟨page, styles, skips⟩ link before scope =
      linkSights ⟨page, others, skips⟩ link before scope := by
  cases link with
  | plain text => rfl
  | properties expression => exact absurd hlink (by simp [Link.isProperties])
  | contains expression =>
    have hcontains : ∀ candidates last,
        containsSights ⟨page, styles, skips⟩ expression scope last candidates =
          containsSights ⟨page, others, skips⟩ expression scope last candidates := by
      intro candidates
      induction candidates with
      | nil => exact fun last => rfl
      | cons candidate more ih => exact fun last => by simp only [containsSights, ih]
    exact hcontains _ none
  | has argument =>
    simp only [linkSights]
    congr 1
    funext candidate
    congr 2
    exact (hargument argument rfl candidate).trialSights_eq page candidate

/-- A chain shows the same, in some order, if its links do. -/
theorem mem_sights_congr {skips : N → Bool} {chain : Chain}
    (hlinks : ∀ link ∈ chain, ∀ before scope sight,
      sight ∈ linkSights ⟨page, styles, skips⟩ link before scope ↔
        sight ∈ linkSights ⟨page, others, skips⟩ link before scope)
    (before : String) (scope : N) (sight : Sight N String) :
    sight ∈ sights ⟨page, styles, skips⟩ chain before scope ↔
      sight ∈ sights ⟨page, others, skips⟩ chain before scope := by
  induction chain generalizing before scope with
  | nil => exact Iff.rfl
  | cons link rest ih =>
    rw [sights, sights, List.mem_flatMap, List.mem_flatMap]
    refine exists_congr fun step =>
      and_congr (hlinks link List.mem_cons_self before scope step) ?_
    cases step with
    | examined candidate => exact Iff.rfl
    | found what => exact ih (fun link h => hlinks link (.tail _ h)) what.1 what.2

/-- A `properties` link shows the same, in some order. -/
theorem mem_linkSights_properties (hstyles : ∀ style, style ∈ styles ↔ style ∈ others)
    {skips : N → Bool} (expression : Option Regex) (before : String) (scope : N)
    (sight : Sight N (String × N)) :
    sight ∈ linkSights ⟨page, styles, skips⟩ (.properties expression) before scope ↔
      sight ∈ linkSights ⟨page, others, skips⟩ (.properties expression) before scope := by
  simp only [linkSights, List.mem_map]
  exact exists_congr fun selector =>
    and_congr_left fun _ => mem_resolveProperties_congr hstyles expression before selector

/-- A still chain examines nothing. -/
theorem isFound_of_still {view : View N S} {chain : Chain} (hstill : chain.still = true)
    {before : String} {scope : N} {sight : Sight N String}
    (hsight : sight ∈ sights view chain before scope) : sight.isFound = true := by
  induction chain generalizing before scope with
  | nil =>
    rw [sights, List.mem_singleton] at hsight
    rw [hsight]
    rfl
  | cons link rest ih =>
    have hall := List.all_eq_true.mp hstill
    have hrest : Chain.still rest = true :=
      List.all_eq_true.mpr fun other hother => hall other (.tail _ hother)
    rw [sights, List.mem_flatMap] at hsight
    obtain ⟨step, hstep, hsight⟩ := hsight
    have hplain : ∃ found, step = .found found := by
      cases link with
      | plain text =>
        rw [linkSights, List.mem_singleton] at hstep
        exact ⟨_, hstep⟩
      | properties expression =>
        rw [linkSights, List.mem_map] at hstep
        obtain ⟨selector, -, heq⟩ := hstep
        exact ⟨_, heq.symm⟩
      | has argument => simp [Chain.still, Link.judgesElements] at hstill
      | contains expression => simp [Chain.still, Link.judgesElements] at hstill
    obtain ⟨found, rfl⟩ := hplain
    exact ih hrest hsight

/-- A still chain shows selectors only, and the same ones in any order of the styles. -/
theorem alike_sights_of_still (hstyles : ∀ style, style ∈ styles ↔ style ∈ others)
    {chain : Chain} (hstill : chain.still = true) (skips : N → Bool) (before : String)
    (scope : N) : Alike (sights ⟨page, styles, skips⟩ chain before scope)
      (sights ⟨page, others, skips⟩ chain before scope) := by
  refine .of_found (fun sight hsight => isFound_of_still hstill hsight)
    (mem_sights_congr (fun link hlink before scope sight => ?_) before scope)
  have hquiet := List.all_eq_true.mp hstill link hlink
  cases link with
  | plain text => exact Iff.rfl
  | properties expression => exact mem_linkSights_properties hstyles expression before scope sight
  | has argument => simp [Link.judgesElements] at hquiet
  | contains expression => simp [Link.judgesElements] at hquiet

/-- **The sights of a settled chain are fixed**, up to the order inside blocks. -/
theorem alike_sights (hstyles : ∀ style, style ∈ styles ↔ style ∈ others) :
    (chain : Chain) → Chain.settled chain = true → ∀ (skips : N → Bool) (before : String)
      (scope : N), Alike (sights ⟨page, styles, skips⟩ chain before scope)
        (sights ⟨page, others, skips⟩ chain before scope)
  | [], _ => fun skips before scope => .refl (sights ⟨page, styles, skips⟩ [] before scope)
  | link :: rest, hsettled => by
    intro skips before scope
    rw [Chain.settled] at hsettled
    obtain ⟨hlink, hrest⟩ := Bool.and_eq_true _ _ ▸ hsettled
    by_cases hproperties : link.isProperties = true
    · rw [if_pos hproperties] at hrest
      have hstill : Chain.still (link :: rest) = true := by
        cases link with
        | properties expression => exact hrest
        | _ => simp [Link.isProperties] at hproperties
      exact alike_sights_of_still hstyles hstill skips before scope
    · rw [if_neg hproperties] at hrest
      have hsame : linkSights ⟨page, styles, skips⟩ link before scope =
          linkSights ⟨page, others, skips⟩ link before scope := by
        refine linkSights_congr (Bool.eq_false_iff.mpr hproperties) ?_ before scope
        intro argument heq candidate
        rw [heq, Link.settled] at hlink
        exact alike_sights hstyles argument hlink _ "" candidate
      rw [sights, sights, hsame]
      refine .flatMap _ fun step => ?_
      cases step with
      | examined candidate => exact .refl _
      | found what => exact alike_sights hstyles rest hrest skips what.1 what.2

/-- **A chain with settled arguments shows the same** for any order of the styles. -/
theorem mem_sights_of_steady (hstyles : ∀ style, style ∈ styles ↔ style ∈ others) {chain : Chain}
    (hsteady : chain.steady = true) (skips : N → Bool) (before : String) (scope : N)
    (sight : Sight N String) :
    sight ∈ sights ⟨page, styles, skips⟩ chain before scope ↔
      sight ∈ sights ⟨page, others, skips⟩ chain before scope := by
  refine mem_sights_congr (fun link hlink before scope sight => ?_) before scope sight
  by_cases hproperties : link.isProperties = true
  · cases link with
    | properties expression => exact mem_linkSights_properties hstyles expression before scope sight
    | _ => simp [Link.isProperties] at hproperties
  · have hsettled := List.all_eq_true.mp hsteady link hlink
    rw [linkSights_congr (Bool.eq_false_iff.mpr hproperties) ?_ before scope]
    intro argument heq candidate
    rw [heq, Link.settled] at hsettled
    exact alike_sights hstyles argument hsettled _ "" candidate

end Styles

end CosmeticFilter
