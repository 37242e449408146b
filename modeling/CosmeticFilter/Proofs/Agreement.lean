/-
Runs that agree.

A request that asks for all that another one asks for has a run with more candidates that are
confined less, and that looks at more styles.  If the other one asks for as much in turn, the
runs have the same candidates, confined to the same nodes, and look at the same styles, though
perhaps in another order.  Then they find the same hits and cover the same matches, and so
they make the same of the table of hidden elements: it records the same elements, patterns
and anchors in the end, and the same elements are shown again.
-/
import CosmeticFilter.Proofs.Coalescing
import CosmeticFilter.Proofs.Spurious

namespace Option.Rel

variable {α β : Type} {r : α → β → Prop} {a c : Option α} {b d : Option β}

theorem eq_none_iff (h : Option.Rel r a b) : a = Option.none ↔ b = Option.none := by
  cases h with
  | none => exact iff_of_true rfl rfl
  | some _ => simp

theorem or (h : Option.Rel r a b) (hmore : Option.Rel r c d) :
    Option.Rel r (a.or c) (b.or d) := by
  cases h with
  | none => exact hmore
  | some hr => exact .some hr

end Option.Rel

namespace CosmeticFilter

variable {N S κ : Type} [DecidableEq N]

/-! ### Tables that record the same -/

/-- Matches of the same pattern, with the same anchors in some order. -/
structure Match.Alike (m other : Match N) : Prop where
  pattern : m.pattern = other.pattern
  anchors : ∀ n, n ∈ m.anchors ↔ n ∈ other.anchors

namespace MatchTable

/-- The same elements, for each of them the same patterns, with the same anchors. -/
structure SameRecords (table other : MatchTable N) : Prop where
  nodes : ∀ n, n ∈ table.nodes ↔ n ∈ other.nodes
  recorded : ∀ n pattern,
    Option.Rel Match.Alike (table.match? n pattern) (other.match? n pattern)

theorem SameRecords.of_tidy {table other : MatchTable N} (htable : table.Tidy)
    (hother : other.Tidy) (h : ∀ n pattern,
      Option.Rel Match.Alike (table.match? n pattern) (other.match? n pattern)) :
    table.SameRecords other := by
  refine ⟨fun n => ?_, h⟩
  rw [htable.mem_nodes_iff, hother.mem_nodes_iff]
  refine exists_congr fun pattern => ?_
  rw [← Option.ne_none_iff_exists', ← Option.ne_none_iff_exists']
  exact not_congr (h n pattern).eq_none_iff

end MatchTable

/-- Tables that collect the same hits record the same. -/
theorem Collects.sameRecords {table other : MatchTable N} {hits others : List (Hit N)}
    (h : Collects table hits) (hother : Collects other others)
    (hsame : ∀ hit, hit ∈ hits ↔ hit ∈ others)
    (hunique : ∀ first ∈ hits, ∀ second ∈ hits, first.pattern.serial = second.pattern.serial →
      first.pattern = second.pattern) : table.SameRecords other := by
  refine .of_tidy h.tidy hother.tidy fun n pattern => ?_
  have hfound : (∃ m, table.match? n pattern = some m) ↔
      ∃ m, other.match? n pattern = some m := by
    rw [h.found, hother.found]
    simp only [hsame]
  cases hm : table.match? n pattern with
  | none =>
    cases hn : other.match? n pattern with
    | none => exact .none
    | some m => simp [hm, hn] at hfound
  | some m =>
    cases hn : other.match? n pattern with
    | none => simp [hm, hn] at hfound
    | some again =>
      refine .some ⟨?_, fun a => ?_⟩
      · obtain ⟨first, hfirst, -, hpattern⟩ := h.pattern n pattern m hm
        obtain ⟨second, hsecond, -, hagain⟩ := hother.pattern n pattern again hn
        rw [← hpattern, ← hagain]
        refine hunique first hfirst second ((hsame second).mpr hsecond) ?_
        rw [hpattern, hagain, MatchTable.match?_serial hm, MatchTable.match?_serial hn]
      · rw [h.anchors n pattern m hm, hother.anchors n pattern again hn]
        simp only [hsame]

/-! ### Requests that ask for the same -/

omit [DecidableEq N] in
/-- A partial request asks for no other sheets than one that asks for more. -/
theorem Request.Within.sheets_subset {a b : Request S N} (h : a.Within b)
    (hpart : b.isFull = false) : a.sheets ⊆ b.sheets := by
  cases h with
  | full => simp [Request.isFull] at hpart
  | partly hsheets _ => exact hsheets

namespace Classification

/-- The same confinement, with the nodes in some order. -/
def SameTargets : Option (List N) → Option (List N) → Prop :=
  Option.Rel fun targets others => ∀ n, n ∈ targets ↔ n ∈ others

omit [DecidableEq N] in
theorem SameTargets.symm {targets others : Option (List N)} (h : SameTargets targets others) :
    SameTargets others targets := by
  cases h with
  | none => exact .none
  | some hsame => exact .some fun n => (hsame n).symm

omit [DecidableEq N] in
theorem sameTargets_of_admits {wide narrow : Option (List N)} (h : Admits wide narrow)
    (hback : Admits narrow wide) : SameTargets wide narrow := by
  cases wide with
  | none =>
    cases narrow with
    | none => exact .none
    | some few => exact hback.elim
  | some all =>
    cases narrow with
    | none => exact h.elim
    | some few => exact .some fun n => ⟨fun hn => hback hn, fun hn => h hn⟩

/-- What runs for the two requests have in common. -/
structure Agree (registered : List Pattern) (page : Page N S) (a b : Request S N) : Prop where
  patterns : (ofRequest registered a).patterns = (ofRequest registered b).patterns
  targets : ∀ first ∈ (ofRequest registered a).candidates,
    ∀ second ∈ (ofRequest registered b).candidates, second.pattern = first.pattern →
      SameTargets first.targets second.targets
  full : (ofRequest registered a).full = (ofRequest registered b).full
  scope : (ofRequest registered a).styleScope = (ofRequest registered b).styleScope
  styles : ∀ style, style ∈ (Engine.runStyles page a (ofRequest registered a)).1 ↔
    style ∈ (Engine.runStyles page b (ofRequest registered b)).1

section Within

variable {registered : List Pattern} {page : Page N S} {a b : Request S N}

/-- The scope is a matter of what needs styles, and of whether there are changes. -/
theorem styleScope_of_within (hpatterns : (ofRequest registered a).patterns =
    (ofRequest registered b).patterns) (hab : a.Within b) (hba : b.Within a) :
    (ofRequest registered a).styleScope = (ofRequest registered b).styleScope := by
  have hneeds : (ofRequest registered a).needsStyles = (ofRequest registered b).needsStyles := by
    rw [needsStyles_eq, needsStyles_eq, hpatterns]
  have hall : (ofRequest registered a).styleScope = .allSheets ↔
      (ofRequest registered b).styleScope = .allSheets := by
    cases hab with
    | full =>
      cases hba with
      | full => exact Iff.rfl
    | @partly _ _ changes moreChanges _ hchanges =>
      cases hba with
      | partly _ hback =>
        simp only [ofRequest] at hneeds ⊢
        rw [styleScope_ofChanges, styleScope_ofChanges, hneeds]
        refine and_congr_left fun _ => not_congr ⟨fun h => ?_, fun h => ?_⟩
        · exact List.subset_nil.mp (h ▸ hback)
        · exact List.subset_nil.mp (h ▸ hchanges)
  cases hfirst : (ofRequest registered a).styleScope with
  | allSheets => exact (hall.mp hfirst).symm
  | namedSheets =>
    cases hsecond : (ofRequest registered b).styleScope with
    | allSheets => simp [hfirst, hsecond] at hall
    | namedSheets => rfl

/-- The styles of a run are in no sheets but those that it looks at. -/
theorem styles_subset_of_within (hneeds : (ofRequest registered a).needsStyles =
    (ofRequest registered b).needsStyles) (hscope : (ofRequest registered a).styleScope =
      (ofRequest registered b).styleScope) (hab : a.Within b) (hba : b.Within a) :
    (Engine.runStyles page a (ofRequest registered a)).1 ⊆
      (Engine.runStyles page b (ofRequest registered b)).1 := by
  have hindexed : (ofRequest registered a).indexed page a ⊆
      (ofRequest registered b).indexed page b := by
    unfold indexed
    rw [hneeds, hscope]
    by_cases hstyled : (ofRequest registered b).needsStyles = true
    · rw [if_pos hstyled, if_pos hstyled]
      cases hnamed : (ofRequest registered b).styleScope with
      | allSheets => exact List.Subset.refl _
      | namedSheets =>
        refine hab.sheets_subset ?_
        cases b with
        | full => simp [ofRequest, everything] at hnamed
        | partly _ _ => rfl
    · rw [if_neg hstyled]
      exact List.nil_subset _
  intro style hstyle
  obtain ⟨sheet, hsheet, hstyle⟩ := List.mem_flatMap.mp hstyle
  exact List.mem_flatMap.mpr ⟨sheet, hindexed hsheet, hstyle⟩

/-- **Requests that ask for the same have runs that agree.** -/
theorem agree_of_within (hab : a.Within b) (hba : b.Within a) : Agree registered page a b := by
  have hwide : Covers registered page b a := covers_of_within hab
  have hback : Covers registered page a b := covers_of_within hba
  have hpatterns := hwide.patterns.antisymm hback.patterns
  have hneeds : (ofRequest registered a).needsStyles = (ofRequest registered b).needsStyles := by
    rw [needsStyles_eq, needsStyles_eq, hpatterns]
  have hscope := styleScope_of_within hpatterns hab hba
  refine ⟨hpatterns, fun first hfirst second hsecond hsame => ?_, ?_, hscope, fun style => ?_⟩
  · exact sameTargets_of_admits (hback.targets second hsecond first hfirst hsame.symm)
      (hwide.targets first hfirst second hsecond hsame)
  · exact Bool.eq_iff_iff.mpr ⟨hwide.full, hback.full⟩
  · exact ⟨fun h => styles_subset_of_within hneeds hscope hab hba h,
      fun h => styles_subset_of_within hneeds.symm hscope.symm hba hab h⟩

end Within

namespace Agree

variable {registered : List Pattern} {page : Page N S} {a b : Request S N}

theorem symm (h : Agree registered page a b) : Agree registered page b a where
  patterns := h.patterns.symm
  targets first hfirst second hsecond hsame :=
    (h.targets second hsecond first hfirst hsame.symm).symm
  full := h.full.symm
  scope := h.scope.symm
  styles style := (h.styles style).symm

/-- To each candidate there is one of the same pattern, confined to the same nodes. -/
theorem exists_candidate (h : Agree registered page a b) {first : Candidate N}
    (hfirst : first ∈ (ofRequest registered a).candidates) :
    ∃ second ∈ (ofRequest registered b).candidates, second.pattern = first.pattern ∧
      SameTargets first.targets second.targets := by
  have hmem : first.pattern ∈ (ofRequest registered a).patterns := List.mem_map_of_mem hfirst
  rw [h.patterns] at hmem
  obtain ⟨second, hsecond, hsame⟩ := List.mem_map.mp hmem
  exact ⟨second, hsecond, hsame, h.targets first hfirst second hsecond hsame⟩

/-- The candidate of a pattern in a run, if there is one. -/
abbrev candidate? (registered : List Pattern) (request : Request S N) (pattern : Pattern) :
    Option (Candidate N) :=
  (ofRequest registered request).candidates.find? fun candidate => candidate.pattern.same pattern

/-- A pattern that has no candidate in one run has none in the other. -/
theorem candidate?_eq_none (h : Agree registered page a b) {pattern : Pattern}
    (hnone : candidate? registered a pattern = none) : candidate? registered b pattern = none := by
  refine List.find?_eq_none.mpr fun second hsecond hsame => ?_
  obtain ⟨first, hfirst, hpattern, -⟩ := h.symm.exists_candidate hsecond
  exact List.find?_eq_none.mp hnone first hfirst (hpattern ▸ hsame)

/-- The candidates of a pattern in both runs are confined to the same nodes. -/
theorem sameTargets_candidate? (h : Agree registered page a b)
    (hdistinct : (registered.map Pattern.serial).Nodup) {pattern : Pattern}
    {first second : Candidate N} (hfirst : candidate? registered a pattern = some first)
    (hsecond : candidate? registered b pattern = some second) :
    SameTargets first.targets second.targets := by
  have hmem := List.mem_of_find?_eq_some hfirst
  have hother := List.mem_of_find?_eq_some hsecond
  refine h.targets first hmem second hother ?_
  refine List.inj_on_of_nodup_map hdistinct (Engine.pattern_mem_of_candidate hother)
    (Engine.pattern_mem_of_candidate hmem) ?_
  have hsame := List.find?_some hfirst
  have hagain := List.find?_some hsecond
  exact (beq_iff_eq.mp hagain).trans (beq_iff_eq.mp hsame).symm

end Agree

end Classification

/-! ### What the runs find and cover -/

open Classification (SameTargets Agree)

section Targets

variable {page : Page N S} {first second : Candidate N}

omit [DecidableEq N] in
theorem Run.reaches_congr (h : SameTargets first.targets second.targets) (known : Match N) :
    Run.reaches page first known = Run.reaches page second known := by
  obtain ⟨_, targets⟩ := first
  obtain ⟨_, others⟩ := second
  unfold Run.reaches
  cases show SameTargets targets others from h with
  | none => rfl
  | some hsame => simp only [Option.all_some, any_eq_of_mem_iff hsame]

/-- A candidate hits the same as one of its pattern with the same targets, and more styles. -/
theorem Hit.mem_ofCandidate_congr (horderly : page.Orderly) {config : Config}
    (hpattern : second.pattern = first.pattern)
    (htargets : SameTargets first.targets second.targets) {styles others : List Style}
    (hstyles : ∀ style ∈ styles, style ∈ others) {hit : Hit N}
    (hhit : hit ∈ ofCandidate config page styles first) :
    hit ∈ ofCandidate config page others second := by
  rw [mem_ofCandidate_iff_reaches horderly] at hhit ⊢
  rw [← Run.reaches_congr htargets, hpattern]
  exact ⟨mem_ofCandidate_of_styles (fun _ => hstyles) hhit.1, hhit.2⟩

end Targets

namespace Engine

variable {page : Page N S} {engine : Engine S N κ} {a b : Request S N}

theorem runHits_subset_of_agree (horderly : page.Orderly) (h : Agree engine.patterns page a b)
    {hit : Hit N} (hhit : hit ∈ engine.runHits page a) : hit ∈ engine.runHits page b := by
  obtain ⟨first, hfirst, hhit⟩ := List.mem_flatMap.mp hhit
  obtain ⟨second, hsecond, hpattern, htargets⟩ := h.exists_candidate hfirst
  exact List.mem_flatMap.mpr ⟨second, hsecond,
    Hit.mem_ofCandidate_congr horderly hpattern htargets (fun style => (h.styles style).mp) hhit⟩

/-- The runs find the same. -/
theorem sameRecords_runOf (hlawful : page.Lawful)
    (hdistinct : (engine.patterns.map Pattern.serial).Nodup)
    (h : Agree engine.patterns page a b) :
    (engine.runOf page a).findings.matched.SameRecords
      (engine.runOf page b).findings.matched := by
  refine (engine.runOf_collects page a).sameRecords (engine.runOf_collects page b)
    (fun hit => ⟨runHits_subset_of_agree hlawful.toOrderly h,
      runHits_subset_of_agree hlawful.toOrderly h.symm⟩) fun first hfirst second hsecond => ?_
  exact List.inj_on_of_nodup_map hdistinct (mem_hitsOf.mp (runHits_subset hlawful hfirst)).1
    (mem_hitsOf.mp (runHits_subset hlawful hsecond)).1

/-- The runs cover the same. -/
theorem covers_eq_of_agree (hdistinct : (engine.patterns.map Pattern.serial).Nodup)
    (h : Agree engine.patterns page a b) (known : Match N) :
    (engine.runOf page a).covers page known = (engine.runOf page b).covers page known := by
  have hfull : (engine.runOf page a).full = (engine.runOf page b).full := h.full
  have hcomplete : (engine.runOf page a).completeStyles =
      (engine.runOf page b).completeStyles := congrArg (· == StyleScope.allSheets) h.scope
  unfold Run.covers
  rw [hfull, hcomplete, runOf_candidates, runOf_candidates]
  congr 2
  cases hfirst : (Classification.ofRequest engine.patterns a).candidates.find?
      fun candidate => candidate.pattern.same known.pattern with
  | none =>
    have hsecond := h.candidate?_eq_none hfirst
    unfold Agree.candidate? at hsecond
    rw [hsecond]
  | some first =>
    cases hsecond : (Classification.ofRequest engine.patterns b).candidates.find?
        fun candidate => candidate.pattern.same known.pattern with
    | none => exact absurd ((h.symm.candidate?_eq_none hsecond).symm.trans hfirst) (by simp)
    | some second =>
      exact Run.reaches_congr (h.sameTargets_candidate? hdistinct hfirst hsecond) known

end Engine

/-! ### What becomes of the table -/

namespace Run

variable {page : Page N S} {run other : Run N}

/-- What a known match is renewed to is alike if what was found for it is. -/
theorem renewed_rel (hcovers : ∀ known, run.covers page known = other.covers page known)
    (known : Match N) {again found : Option (Match N)} (h : Option.Rel Match.Alike again found) :
    Option.Rel Match.Alike (run.renewed page known again) (other.renewed page known found) := by
  unfold renewed
  rw [hcovers]
  cases h with
  | none =>
    by_cases hknown : other.covers page known = true
    · rw [if_pos hknown]
      exact .none
    · rw [if_neg hknown]
      exact .some ⟨rfl, fun n => Iff.rfl⟩
  | some halike =>
    by_cases hknown : other.covers page known = true
    · simp only [if_pos hknown]
      exact .some ⟨rfl, halike.anchors⟩
    · simp only [if_neg hknown]
      refine .some ⟨rfl, fun n => ?_⟩
      simp only [Match.addAnchors, mem_addNew, halike.anchors n]

variable {hidden : MatchTable N}

/-- **Runs that find and cover the same leave tables that record the same.** -/
theorem sameRecords_hiddenAfter (hhidden : hidden.Tidy) (hrun : run.findings.matched.Tidy)
    (hother : other.findings.matched.Tidy)
    (hfound : run.findings.matched.SameRecords other.findings.matched)
    (hcovers : ∀ known, run.covers page known = other.covers page known) :
    (run.hiddenAfter page hidden).SameRecords (other.hiddenAfter page hidden) := by
  refine .of_tidy (tidy_hiddenAfter page run hhidden hrun)
    (tidy_hiddenAfter page other hhidden hother) fun n pattern => ?_
  rw [match?_hiddenAfter page run hhidden hrun, match?_hiddenAfter page other hhidden hother]
  have hagain := hfound.recorded n pattern
  by_cases hconnected : page.isConnected n = true
  · rw [if_pos hconnected, if_pos hconnected]
    cases hidden.match? n pattern with
    | none => exact hagain
    | some known =>
      exact (renewed_rel hcovers known hagain).or hagain
  · rw [if_neg hconnected, if_neg hconnected]
    exact hagain

/-- Such runs show the same elements again. -/
theorem shownAgain_eq (hfound : run.findings.matched.SameRecords other.findings.matched)
    (hcovers : ∀ known, run.covers page known = other.covers page known) :
    run.shownAgain page hidden = other.shownAgain page hidden := by
  have hnone : ∀ n, (run.findings.matched.matches? n).isNone =
      (other.findings.matched.matches? n).isNone := by
    intro n
    rw [Bool.eq_iff_iff, Option.isNone_iff_eq_none, Option.isNone_iff_eq_none,
      MatchTable.matches?_eq_none_iff, MatchTable.matches?_eq_none_iff, hfound.nodes n]
  have hempty : ∀ n (known : List (Match N)),
      (known.filterMap (run.renew? page (run.findings.matched.matches? n))).isEmpty =
        (known.filterMap (other.renew? page (other.findings.matched.matches? n))).isEmpty := by
    intro n known
    rw [Bool.eq_iff_iff, List.isEmpty_iff, List.isEmpty_iff, List.filterMap_eq_nil_iff,
      List.filterMap_eq_nil_iff]
    refine forall₂_congr fun m _ => ?_
    rw [renew?_eq, renew?_eq]
    exact (renewed_rel hcovers m (hfound.recorded n m.pattern)).eq_none_iff
  have hkeep : ∀ n known, (run.keep? page n known).isNone = (other.keep? page n known).isNone := by
    intro n known
    unfold keep?
    by_cases hconnected : page.isConnected n = true
    · rw [if_pos hconnected, if_pos hconnected]
      simp only [hnone n, hempty n known]
      split <;> rfl
    · rw [if_neg hconnected, if_neg hconnected]
  unfold shownAgain
  simp only [hkeep]

end Run

end CosmeticFilter
