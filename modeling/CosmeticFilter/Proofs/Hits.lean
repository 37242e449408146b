/-
The hits of a run among all hits there are.

On a page, a pattern has certain hits once and for all: those of its unconfined evaluation
with all styles of the page.  A run finds some of them.  It never finds anything else,
however few styles it looks at, and a confined candidate finds those hits that its targets
reach.  So what a run claims to cover it has really found.
-/
import CosmeticFilter.Proofs.Provenance
import CosmeticFilter.Proofs.Styles
import CosmeticFilter.Proofs.Tree
import Mathlib.Data.List.Nodup

namespace CosmeticFilter

variable {N S κ : Type} [DecidableEq N]

/-- The laws of a page that runs rely on. -/
structure Page.Lawful (page : Page N S) : Prop extends page.Orderly where
  connected : ∀ {selector nodes}, page.queryAll page.document selector = .ok nodes →
    ∀ n ∈ nodes, page.isConnected n = true
  styles : ∀ sheets, ∀ style ∈ page.styles sheets, style ∈ page.styles page.sheets

theorem Document.page_lawful (doc : Document) : doc.page.Lawful where
  toOrderly := doc.page_orderly
  connected h _ hn := contains_of_mem_queryAll h hn
  styles := by
    intro sheets style hstyle
    obtain ⟨sheet, -, hsheet⟩ := List.mem_flatMap.mp hstyle
    refine List.mem_flatMap.mpr ⟨sheet, ?_, hsheet⟩
    -- A sheet that the document lacks has no rules.
    by_contra hlacks
    simp only [page, List.mem_range, Nat.not_lt] at hlacks
    have hnone : doc.page.rules? sheet = none := by
      simp [page, Array.getElem?_eq_none hlacks]
    simp only [Page.sheetStyles, hnone] at hsheet
    split at hsheet <;> simp [Except.toOption] at hsheet

/-! ### Hits of candidates -/

namespace Hit

variable {config : Config} {page : Page N S} {styles : List Style} {candidate : Candidate N}

theorem mem_ofCandidate {hit : Hit N} :
    hit ∈ ofCandidate config page styles candidate ↔
      hit.pattern = candidate.pattern ∧ config.hidesBySelector candidate.pattern = false ∧
      ∃ selector nodes,
        (selector, hit.anchors) ∈ founds (Run.candidateItems page styles candidate) ∧
        page.queryAll page.document selector = .ok nodes ∧ hit.node ∈ nodes := by
  unfold ofCandidate
  simp only [List.mem_flatMap, founds, List.mem_filterMap]
  constructor
  · rintro ⟨item, hitem, hhit⟩
    cases item with
    | pause => simp [ofItem] at hhit
    | found selector anchors =>
      simp only [ofItem] at hhit
      split at hhit
      · simp at hhit
      · rename_i hshown
        obtain ⟨n, hn, rfl⟩ := List.mem_map.mp hhit
        cases hquery : page.queryAll page.document selector with
        | error e => simp [hquery, Except.toOption] at hn
        | ok nodes =>
          refine ⟨rfl, by simpa using hshown, selector, nodes, ⟨_, hitem, rfl⟩, hquery, ?_⟩
          simpa [hquery, Except.toOption] using hn
  · rintro ⟨hpattern, hshown, selector, nodes, ⟨item, hitem, hfound⟩, hquery, hn⟩
    refine ⟨item, hitem, ?_⟩
    cases item with
    | pause => simp [Item.found?] at hfound
    | found other anchors =>
      obtain ⟨rfl, rfl⟩ := Prod.mk.inj (Option.some.inj hfound)
      simp only [ofItem, hshown, hquery, Except.toOption, Bool.false_eq_true, if_false,
        Option.getD_some, List.mem_map]
      exact ⟨hit.node, hn, by rw [← hpattern]⟩

/-- Targets let those hits through whose anchors they reach. -/
theorem mem_ofCandidate_iff_reaches (h : page.Orderly) {hit : Hit N} :
    hit ∈ ofCandidate config page styles candidate ↔
      hit ∈ ofCandidate config page styles ⟨candidate.pattern, none⟩ ∧
      Run.reaches page candidate ⟨hit.pattern, hit.anchors⟩ = true := by
  have hfounds := Evaluation.founds_items ⟨page, styles, candidate.targets⟩ h
    candidate.pattern.chain "" page.document
  have hreaches : (hit.anchors.all fun a =>
      !Scene.prunes (⟨page, styles, candidate.targets⟩ : Scene N S) a) =
      Run.reaches page candidate ⟨hit.pattern, hit.anchors⟩ := by
    unfold Run.reaches Scene.prunes
    cases candidate.targets <;> simp
  simp only [mem_ofCandidate, Run.candidateItems]
  rw [hfounds]
  simp only [List.mem_filter, hreaches]
  tauto

/-- With more styles there are more hits, or the same if the pattern does not depend on them. -/
theorem mem_ofCandidate_of_styles {pattern : Pattern} {few many : List Style}
    (hstyles : pattern.dependencies.style = true → ∀ style ∈ few, style ∈ many) {hit : Hit N}
    (h : hit ∈ ofCandidate config page few ⟨pattern, none⟩) :
    hit ∈ ofCandidate config page many ⟨pattern, none⟩ := by
  rw [mem_ofCandidate] at h ⊢
  obtain ⟨hpattern, hshown, selector, nodes, hfound, hquery, hn⟩ := h
  exact ⟨hpattern, hshown, selector, nodes,
    Evaluation.founds_items_styles page pattern.chain hstyles _ _ _ hfound, hquery, hn⟩

end Hit

/-! ### All hits, and those of a run -/

/-- The hits of a pattern on a page. -/
def Pattern.hits (config : Config) (page : Page N S) (pattern : Pattern) : List (Hit N) :=
  Hit.ofCandidate config page (page.styles page.sheets) ⟨pattern, none⟩

/-- The hits of patterns on a page. -/
def hitsOf (config : Config) (page : Page N S) (patterns : List Pattern) : List (Hit N) :=
  patterns.flatMap (Pattern.hits config page)

theorem mem_hitsOf {config : Config} {page : Page N S} {patterns : List Pattern} {hit : Hit N} :
    hit ∈ hitsOf config page patterns ↔
      hit.pattern ∈ patterns ∧ hit ∈ hit.pattern.hits config page := by
  unfold hitsOf
  rw [List.mem_flatMap]
  constructor
  · rintro ⟨pattern, hpattern, hhit⟩
    have heq := (Hit.mem_ofCandidate.mp hhit).1
    simp only at heq
    rw [heq]
    exact ⟨hpattern, hhit⟩
  · exact fun h => ⟨hit.pattern, h.1, h.2⟩

theorem connected_of_mem_hits {config : Config} {page : Page N S} (h : page.Lawful)
    {pattern : Pattern} {hit : Hit N} (hhit : hit ∈ pattern.hits config page) :
    page.isConnected hit.node = true := by
  obtain ⟨-, -, selector, nodes, -, hquery, hn⟩ := Hit.mem_ofCandidate.mp hhit
  exact h.connected hquery _ hn

namespace Engine

/-- The hits of the run of a request. -/
def runHits (page : Page N S) (engine : Engine S N κ) (request : Request S N) : List (Hit N) :=
  let classification := Classification.ofRequest engine.patterns request
  classification.candidates.flatMap
    (Hit.ofCandidate engine.config page (runStyles page request classification).1)

theorem runOf_collects (page : Page N S) (engine : Engine S N κ) (request : Request S N) :
    Collects (engine.runOf page request).findings.matched (engine.runHits page request) := by
  unfold runOf runHits
  simp only
  rw [Run.completed_hits]
  exact collects_foldl _

@[simp] theorem runOf_candidates (page : Page N S) (engine : Engine S N κ)
    (request : Request S N) : (engine.runOf page request).candidates =
      (Classification.ofRequest engine.patterns request).candidates := rfl

@[simp] theorem runOf_full (page : Page N S) (engine : Engine S N κ) (request : Request S N) :
    (engine.runOf page request).full = request.isFull := by
  cases request <;> rfl

variable {page : Page N S} {engine : Engine S N κ} {request : Request S N}

/-- A run finds nothing but hits. -/
theorem runHits_subset (h : page.Lawful) {hit : Hit N}
    (hhit : hit ∈ engine.runHits page request) :
    hit ∈ hitsOf engine.config page engine.patterns := by
  obtain ⟨candidate, hcandidate, hhit⟩ := List.mem_flatMap.mp hhit
  have heq := (Hit.mem_ofCandidate.mp hhit).1
  have hwide := ((Hit.mem_ofCandidate_iff_reaches h.toOrderly).mp hhit).1
  refine mem_hitsOf.mpr ⟨heq ▸ pattern_mem_of_candidate hcandidate, ?_⟩
  rw [heq]
  refine Hit.mem_ofCandidate_of_styles (fun _ style hstyle => ?_) hwide
  exact h.styles _ style hstyle

/-- The styles of a run that depends on them and does not lack any. -/
theorem styles_subset_of_complete {candidate : Candidate N}
    (hcandidate : candidate ∈ (Classification.ofRequest engine.patterns request).candidates)
    (hcomplete : candidate.pattern.dependencies.style = true →
      (engine.runOf page request).completeStyles = true)
    (hdepends : candidate.pattern.dependencies.style = true) :
    (runStyles page request (Classification.ofRequest engine.patterns request)).1 =
      page.styles page.sheets := by
  have hneeds : (Classification.ofRequest engine.patterns request :
      Classification N).needsStyles = true :=
    List.any_eq_true.mpr ⟨candidate, hcandidate, hdepends⟩
  have hscope : (Classification.ofRequest engine.patterns request : Classification N).styleScope =
      .allSheets := by
    have := hcomplete hdepends
    simpa [runOf, Run.completed, Run.ofClassification] using this
  simp [runStyles, Classification.indexed, hneeds, hscope]

/-- If a run covers a match, a candidate of its pattern reaches what has no other anchors. -/
theorem exists_candidate_of_covers (hdistinct : (engine.patterns.map Pattern.serial).Nodup)
    {known : Match N} (hcovers : (engine.runOf page request).covers page known = true)
    {pattern : Pattern} (hregistered : pattern ∈ engine.patterns)
    (hpattern : pattern = known.pattern) {anchors : List N}
    (hanchors : ∀ a ∈ anchors, a ∈ known.anchors) :
    ∃ candidate ∈ (Classification.ofRequest engine.patterns request :
        Classification N).candidates,
      candidate.pattern = pattern ∧ Run.reaches page candidate ⟨pattern, anchors⟩ = true ∧
        (pattern.dependencies.style = true →
          (engine.runOf page request).completeStyles = true) := by
  cases request with
  | full => exact ⟨⟨pattern, none⟩, List.mem_map.mpr ⟨_, hregistered, rfl⟩, rfl, rfl, fun _ => rfl⟩
  | partly sheets changes =>
    unfold Run.covers at hcovers
    rw [runOf_full] at hcovers
    simp only [Request.isFull, Bool.false_eq_true, if_false] at hcovers
    split at hcovers
    · simp at hcovers
    · rename_i hstyles
      split at hcovers
      · rename_i candidate hfind
        have hmem := List.mem_of_find?_eq_some hfind
        have hsame := List.find?_some hfind
        rw [runOf_candidates] at hmem
        have heq : candidate.pattern = pattern := by
          refine List.inj_on_of_nodup_map hdistinct (pattern_mem_of_candidate hmem) hregistered ?_
          rw [hpattern]
          exact beq_iff_eq.mp hsame
        refine ⟨candidate, hmem, heq, ?_, ?_⟩
        · unfold Run.reaches at hcovers ⊢
          cases htargets : candidate.targets with
          | none => rfl
          | some targets =>
            simp only [htargets, Option.all_some, List.all_eq_true] at hcovers ⊢
            exact fun a ha => hcovers a (hanchors a ha)
        · intro hdepends
          rw [hpattern] at hdepends
          simpa [hdepends] using hstyles
      · simp at hcovers

/-- What a run covers it has found. -/
theorem mem_runHits_of_covers (h : page.Lawful)
    (hdistinct : (engine.patterns.map Pattern.serial).Nodup) {known : Match N}
    (hcovers : (engine.runOf page request).covers page known = true) {hit : Hit N}
    (hhit : hit ∈ hitsOf engine.config page engine.patterns)
    (hpattern : hit.pattern = known.pattern) (hanchors : ∀ a ∈ hit.anchors, a ∈ known.anchors) :
    hit ∈ engine.runHits page request := by
  obtain ⟨hregistered, hhits⟩ := mem_hitsOf.mp hhit
  obtain ⟨candidate, hmem, heq, hreaches, hcomplete⟩ :=
    exists_candidate_of_covers hdistinct hcovers hregistered hpattern hanchors
  refine List.mem_flatMap.mpr ⟨candidate, hmem, ?_⟩
  refine (Hit.mem_ofCandidate_iff_reaches h.toOrderly).mpr ⟨?_, hreaches⟩
  rw [heq]
  refine Hit.mem_ofCandidate_of_styles (fun hdepends => ?_) hhits
  rw [styles_subset_of_complete hmem (heq ▸ hcomplete) (heq ▸ hdepends)]
  exact fun _ hstyle => hstyle

end Engine

end CosmeticFilter
