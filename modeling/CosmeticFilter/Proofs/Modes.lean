/-
The three ways of hiding agree.

A pattern gives selectors.  Depending on the settings they are reported as they stand, or
each is resolved on the page and its elements are entered in the table.  Either way the
items of the pattern are the same, since an evaluation does not know the settings.  So a
run that is completed has told of a list of selectors, one for each item of a pattern that
is reported, and of a table that holds the hits of the other patterns.  Whatever a selector
finds on the page when it is reported is what would have been entered for it.
-/
import CosmeticFilter.Proofs.Convergence

namespace CosmeticFilter

/-! ### What a run reports as selectors -/

section Selectors

variable {N S : Type} [DecidableEq N]

namespace Findings

/-- What an item of a pattern is reported as, with the text of the pattern. -/
def reportItem (config : Config) (pattern : Pattern) : Item N → Option (String × String)
  | .pause => Option.none
  | .found selector _ =>
    if config.hidesBySelector pattern then some (selector, pattern.text) else Option.none

theorem entering_selectors (config : Config) (page : Page N S) (pattern : Pattern)
    (findings : Findings N) (pulled : Pulled N) :
    (findings.entering config page pattern pulled).selectors =
      findings.selectors ++ pulled.item.toList.filterMap (reportItem config pattern) := by
  have hseen : (if config.testMode then findings.examine pulled.reports
      else findings).selectors = findings.selectors := by
    split <;> rfl
  unfold entering enterPulled
  cases pulled.item with
  | none => simp [hseen]
  | some item =>
    cases item with
    | pause => simp [hseen, reportItem]
    | found selector anchors =>
      by_cases hhides : config.hidesBySelector pattern = true
      · simp [enter, hhides, addSelector, hseen, reportItem]
      · cases hquery : page.queryAll page.document selector with
        | error e => simp [enter, hhides, hquery, hseen, reportItem]
        | ok nodes => simp [enter, hhides, hquery, addMatches, hseen, reportItem]

end Findings

namespace Run

theorem drain_selectors (config : Config) (scene : Scene N S) (pattern : Pattern)
    (evaluation : Evaluation N) (findings : Findings N) :
    (drain config scene pattern evaluation findings).selectors =
      findings.selectors ++
        (evaluation.left scene).filterMap (Findings.reportItem config pattern) := by
  fun_induction drain config scene pattern evaluation findings with
  | case1 evaluation findings pulled entered hitem =>
    rw [Evaluation.left_of_none hitem, Findings.entering_selectors, hitem]
    rfl
  | case2 evaluation findings pulled entered item hitem ih =>
    rw [ih, Evaluation.left_of_some hitem, Findings.entering_selectors, hitem,
      List.append_assoc, ← List.filterMap_append]
    rfl

/-- **What a completed run reports as selectors**, given by the items of its candidates. -/
theorem completed_selectors (config : Config) (page : Page N S)
    (classification : Classification N) (styles : List Style) :
    ((Run.ofClassification classification styles).completed config page).findings.selectors =
      classification.candidates.flatMap fun candidate =>
        (candidateItems page styles candidate).filterMap
          (Findings.reportItem config candidate.pattern) := by
  have hall : ∀ (candidates : List (Candidate N)) (findings : Findings N),
      (drainAll config page styles candidates none findings).selectors =
        findings.selectors ++ candidates.flatMap fun candidate =>
          (candidateItems page styles candidate).filterMap
            (Findings.reportItem config candidate.pattern) := by
    intro candidates
    induction candidates with
    | nil => intro findings; simp [drainAll]
    | cons candidate more ih =>
      intro findings
      simp only [drainAll, List.foldl_cons, List.flatMap_cons] at ih ⊢
      rw [ih, drain_selectors, List.append_assoc, candidateItems, ← Evaluation.left_start]
  exact hall classification.candidates .none

end Run

namespace Findings

omit [DecidableEq N] in
theorem mem_reported {config : Config} {pattern : Pattern} {items : List (Item N)}
    {selector text : String} :
    (selector, text) ∈ items.filterMap (reportItem config pattern) ↔
      config.hidesBySelector pattern = true ∧ pattern.text = text ∧
        ∃ anchors, (selector, anchors) ∈ founds items := by
  simp only [List.mem_filterMap, founds]
  constructor
  · rintro ⟨item, hitem, hreport⟩
    cases item with
    | pause => simp [reportItem] at hreport
    | found other anchors =>
      simp only [reportItem] at hreport
      split at hreport
      · rename_i hhides
        obtain ⟨rfl, rfl⟩ := Prod.mk.inj (Option.some.inj hreport)
        exact ⟨hhides, rfl, anchors, _, hitem, rfl⟩
      · simp at hreport
  · rintro ⟨hhides, rfl, anchors, item, hitem, hfound⟩
    cases item with
    | pause => simp [Item.found?] at hfound
    | found other more =>
      obtain ⟨rfl, rfl⟩ := Prod.mk.inj (Option.some.inj hfound)
      exact ⟨_, hitem, by simp [reportItem, hhides]⟩

end Findings

end Selectors

/-! ### Full runs on a document -/

/-- The evaluation of the chain gives the selector. -/
def Chain.Gives (doc : Document) (chain : Chain) (selector : String) : Prop :=
  ∃ limit anchors, .found selector anchors ∈ (Evaluation.pulls doc.scene limit
    (.start doc.scene.styles chain "" doc.page.document)).1

theorem Chain.gives_iff {doc : Document} {chain : Chain} {selector : String} :
    chain.Gives doc selector ↔
      ∃ anchors, (selector, anchors) ∈ founds (Evaluation.items doc.scene chain "" 0) := by
  unfold Gives
  rw [exists_comm]
  exact exists_congr fun anchors => Evaluation.exists_pulls_iff

theorem Chain.findsOn_iff_gives {doc : Document} {chain : Chain} {n : Nat} :
    chain.FindsOn doc n ↔ ∃ selector, chain.Gives doc selector ∧ doc.Finds selector n := by
  unfold FindsOn Gives
  constructor
  · rintro ⟨limit, selector, anchors, hfound, hfinds⟩
    exact ⟨selector, ⟨limit, anchors, hfound⟩, hfinds⟩
  · rintro ⟨selector, ⟨limit, anchors, hfound⟩, hfinds⟩
    exact ⟨limit, selector, anchors, hfound, hfinds⟩

namespace Engine

variable {κ : Type} {doc : Document} {engine : Engine Nat Nat κ}

/-- The styles that a full run looks at are enough for each of its patterns. -/
theorem mem_founds_runStyles {pattern : Pattern} (hpattern : pattern ∈ engine.patterns)
    {found : String × List Nat} :
    found ∈ founds (Run.candidateItems doc.page
        (runStyles doc.page .full (Classification.everything engine.patterns)).1
        ⟨pattern, none⟩) ↔
      found ∈ founds (Evaluation.items doc.scene pattern.chain "" 0) := by
  have hall : pattern.dependencies.style = true →
      (runStyles doc.page .full (Classification.everything engine.patterns)).1 =
        doc.page.styles doc.page.sheets := by
    intro hdepends
    have hneeds : (Classification.everything engine.patterns :
        Classification Nat).needsStyles = true :=
      List.any_eq_true.mpr ⟨⟨pattern, none⟩, List.mem_map_of_mem hpattern, hdepends⟩
    have hscope : (Classification.everything engine.patterns :
        Classification Nat).styleScope = .allSheets := rfl
    simp only [runStyles, Classification.indexed, hneeds, hscope, if_true]
  constructor
  · exact Evaluation.founds_items_styles doc.page pattern.chain
      (fun hdepends style hstyle => hall hdepends ▸ hstyle) "" 0 found
  · exact Evaluation.founds_items_styles doc.page pattern.chain
      (fun hdepends style hstyle => (hall hdepends).symm ▸ hstyle) "" 0 found

/-- What a full run reports as selectors: what the patterns give that are reported. -/
theorem mem_selectors_runOf {selector text : String} :
    (selector, text) ∈ (engine.runOf doc.page .full).findings.selectors ↔
      ∃ pattern ∈ engine.patterns, engine.config.hidesBySelector pattern = true ∧
        pattern.text = text ∧ pattern.chain.Gives doc selector := by
  unfold runOf
  rw [Run.completed_selectors]
  simp only [Classification.ofRequest, Classification.everything, List.flatMap_map,
    List.mem_flatMap, Findings.mem_reported, Chain.gives_iff]
  refine exists_congr fun pattern => and_congr_right fun hpattern => ?_
  exact and_congr_right fun _ => and_congr_right fun _ =>
    exists_congr fun anchors => mem_founds_runStyles hpattern

/-- What is found by the selectors of a full run: what the patterns find that are reported. -/
theorem finds_selectors_runOf {n : Nat} :
    (∃ reported ∈ (engine.runOf doc.page .full).findings.selectors, doc.Finds reported.1 n) ↔
      ∃ pattern ∈ engine.patterns, engine.config.hidesBySelector pattern = true ∧
        pattern.chain.FindsOn doc n := by
  constructor
  · rintro ⟨⟨selector, text⟩, hreported, hfinds⟩
    obtain ⟨pattern, hpattern, hhides, -, hgives⟩ := mem_selectors_runOf.mp hreported
    exact ⟨pattern, hpattern, hhides, Chain.findsOn_iff_gives.mpr ⟨selector, hgives, hfinds⟩⟩
  · rintro ⟨pattern, hpattern, hhides, hfindsOn⟩
    obtain ⟨selector, hgives, hfinds⟩ := Chain.findsOn_iff_gives.mp hfindsOn
    exact ⟨(selector, pattern.text),
      mem_selectors_runOf.mpr ⟨pattern, hpattern, hhides, rfl, hgives⟩, hfinds⟩

/-- What a full run matches: what the other patterns find. -/
theorem mem_matched_runOf {n : Nat} :
    n ∈ (engine.runOf doc.page .full).findings.matched.nodes ↔
      ∃ pattern ∈ engine.patterns, engine.config.hidesBySelector pattern = false ∧
        pattern.chain.FindsOn doc n := by
  rw [(runOf_collects doc.page engine .full).mem_nodes]
  simp only [runHits, Classification.ofRequest, Classification.everything, List.flatMap_map,
    List.mem_flatMap, Hit.mem_ofCandidate, Chain.findsOn_iff_gives, Chain.gives_iff]
  constructor
  · rintro ⟨hit, ⟨pattern, hpattern, -, hshown, selector, nodes, hfound, hquery, hn⟩, rfl⟩
    exact ⟨pattern, hpattern, hshown, selector,
      ⟨hit.anchors, (mem_founds_runStyles hpattern).mp hfound⟩, nodes, hquery, hn⟩
  · rintro ⟨pattern, hpattern, hshown, selector, ⟨anchors, hfound⟩, nodes, hquery, hn⟩
    exact ⟨⟨pattern, anchors, n⟩, ⟨pattern, hpattern, rfl, hshown, selector, nodes,
      (mem_founds_runStyles hpattern).mpr hfound, hquery, hn⟩, rfl⟩

end Engine

/-! ### What the outside is told -/

namespace Effect

variable {N : Type}

def isHide : Effect N → Bool
  | hide .. => true
  | _ => false

def isAddSelectors : Effect N → Bool
  | addSelectors .. => true
  | _ => false

theorem isDecision_of_isHide {effect : Effect N} (h : effect.isHide = true) :
    effect.isDecision = true := by
  cases effect with
  | hide => rfl
  | _ => simp [isHide] at h

theorem isDecision_of_isAddSelectors {effect : Effect N} (h : effect.isAddSelectors = true) :
    effect.isDecision = true := by
  cases effect with
  | addSelectors => rfl
  | _ => simp [isAddSelectors] at h

end Effect

theorem mem_decisions {N : Type} {effects : List (Effect N)} {effect : Effect N}
    (hdecision : effect.isDecision = true) : effect ∈ decisions effects ↔ effect ∈ effects := by
  unfold decisions
  rw [List.mem_filter, hdecision]
  simp

theorem countP_decisions {N : Type} {effects : List (Effect N)} {p : Effect N → Bool}
    (hp : ∀ {effect}, p effect = true → effect.isDecision = true) :
    (decisions effects).countP p = effects.countP p := by
  unfold decisions
  rw [List.countP_filter]
  refine List.countP_congr fun effect _ => ?_
  simp only [Bool.and_eq_true, and_iff_left_iff_imp]
  exact hp

namespace Run

variable {N S : Type} [DecidableEq N] (page : Page N S) (run : Run N)

theorem countP_isAddSelectors_effects (hidden : MatchTable N) :
    (run.effects page hidden).countP Effect.isAddSelectors ≤ 1 := by
  unfold effects
  simp only
  split <;> split <;> split <;> simp [Effect.isAddSelectors, List.countP_cons]

theorem countP_isHide_effects (hidden : MatchTable N) :
    (run.effects page hidden).countP Effect.isHide ≤ 1 := by
  unfold effects
  simp only
  split <;> split <;> split <;> simp [Effect.isHide, List.countP_cons]

theorem addSelectors_mem_effects {hidden : MatchTable N} {selectors texts : List String} :
    .addSelectors selectors texts ∈ run.effects page hidden ↔
      run.findings.selectors ≠ [] ∧ selectors = run.findings.selectors.map (·.1) ∧
        texts = run.findings.selectors.map (·.2) := by
  unfold effects
  simp only
  split <;> split <;> split <;> simp_all

theorem hide_mem_effects (htidy : run.findings.matched.Tidy) {hidden : MatchTable N}
    {nodes : List N} :
    (∃ texts, .hide nodes texts ∈ run.effects page hidden) ↔
      run.findings.matched ≠ [] ∧ nodes = run.findings.matched.nodes := by
  unfold effects
  simp only [MatchTable.firstTexts_nodes htidy.filled]
  split <;> split <;> split <;> simp_all

/-- Where nothing was hidden before, what a run has matched is hidden. -/
theorem nodes_hiddenAfter_nil (htidy : run.findings.matched.Tidy) :
    (run.hiddenAfter page []).nodes = run.findings.matched.nodes := by
  have hadded : ∀ (found table : MatchTable N), (table.nodes ++ found.nodes).Nodup →
      (addEntries table found).nodes = table.nodes ++ found.nodes := by
    intro found
    induction found with
    | nil => intro table _; simp [addEntries, MatchTable.nodes]
    | cons entry rest ih =>
      intro table hnodup
      have hnodes : MatchTable.nodes (entry :: rest) = entry.1 :: MatchTable.nodes rest := rfl
      rw [hnodes] at hnodup ⊢
      have hnew : entry.1 ∉ table.nodes := fun hmem =>
        (List.nodup_append.mp hnodup).2.2 _ hmem _ List.mem_cons_self rfl
      have hupdate : (table.update entry.1 (Match.addPatterns · entry.2)).nodes =
          table.nodes ++ [entry.1] := by
        rw [MatchTable.nodes_update, if_neg hnew]
      have hstep : addEntries table (entry :: rest) =
          addEntries (table.update entry.1 (Match.addPatterns · entry.2)) rest := rfl
      rw [hstep, ih _ (by rw [hupdate, List.append_assoc]; exact hnodup), hupdate,
        List.append_assoc]
      rfl
  rw [hiddenAfter_eq]
  exact hadded run.findings.matched [] htidy.nodup

end Run

namespace Engine

section Applying

variable {S N κ : Type} [DecidableEq N] [Clock κ] {page : Page N S}

omit [Clock κ] in
/-- What is told besides decisions is no part of the way of a request. -/
theorem Pursues.retold {engine : Engine S N κ} {request : Request S N}
    {outcome other : Outcome S N κ} (h : Pursues page engine request outcome)
    (hengine : other.engine = outcome.engine) (hwake : other.wake = outcome.wake)
    (htold : decisions other.effects = decisions outcome.effects) :
    Pursues page engine request other := by
  have hunmoved : Unmoved engine outcome → Unmoved engine other := fun h =>
    ⟨hengine ▸ h.patterns, hengine ▸ h.reports, hengine ▸ h.hidden, hengine ▸ h.processed,
      htold.trans h.decisions⟩
  cases h with
  | debouncing hphase hdelay h =>
    exact .debouncing (hengine ▸ hphase) (hwake ▸ hdelay) (hunmoved h)
  | awaitingReady hphase hready h =>
    exact .awaitingReady (hengine ▸ hphase) (hwake.trans hready) (hunmoved h)
  | started hqueued h =>
    refine .started (hengine ▸ hqueued) ?_
    cases h with
    | heads hresume h =>
      exact .heads (hwake.trans hresume) ⟨hunmoved h.toUnmoved, hengine ▸ h.running⟩
    | reports hnone h =>
      exact .reports (hwake.trans hnone) ⟨hengine ▸ h.phase, hengine ▸ h.patterns,
        hengine ▸ h.reports, hengine ▸ h.hidden, hengine ▸ h.processed,
        htold.trans h.decisions⟩

/-- An idle engine that is given sources is on the way to a full run for them. -/
theorem apply_pursues (page : Page N S) {engine : Engine S N κ} (hphase : engine.phase = .idle)
    {sources : List PatternSource} (hsome : ¬(engine.given sources).patterns.isEmpty = true) :
    Pursues page (engine.given sources) .full (engine.apply page sources) := by
  have hidle : (engine.given sources).phase = .idle := hphase
  obtain ⟨hengine, hwake⟩ := apply_of_not_isEmpty page hsome
  refine (request_pursues page hidle .full).retold hengine hwake ?_
  have hobserve : ∀ options, decisions [Effect.observe (N := N) options] = [] := fun _ => rfl
  unfold apply
  simp only
  split
  · rename_i hnone
    exact absurd hnone hsome
  · simp only [Outcome.after, decisions_append, decisions_notes, hobserve, List.nil_append,
      List.append_nil]
    rfl

/-- Where nothing is read from the sources nothing is told of elements. -/
theorem decisions_apply_of_isEmpty (page : Page N S) {engine : Engine S N κ}
    {sources : List PatternSource} (hnone : (engine.given sources).patterns.isEmpty = true) :
    decisions (engine.apply page sources).effects = [] := by
  unfold apply
  simp only
  split
  · simp only [Outcome.after, Outcome.quiet, decisions_append, decisions_notes]
    rfl
  · rename_i hsome
    exact absurd hnone hsome

end Applying

/-! ### What a run shows -/

/-- What is told of elements, and hidden, is what a run makes of an empty table. -/
structure Shows {S N κ : Type} [DecidableEq N] (page : Page N S) (run : Run N)
    (last : Outcome S N κ) : Prop where
  tidy : run.findings.matched.Tidy
  hidden : last.engine.hiddenElements = run.findings.matched.nodes
  decisions : decisions last.effects = decisions (run.effects page [])

namespace Shows

variable {S N κ : Type} [DecidableEq N] {page : Page N S} {run : Run N} {last : Outcome S N κ}
  (h : Shows page run last)

include h

theorem mem_effects {effect : Effect N} (hdecision : effect.isDecision = true) :
    effect ∈ last.effects ↔ effect ∈ run.effects page [] := by
  rw [← mem_decisions hdecision, h.decisions, mem_decisions hdecision]

theorem countP_effects {p : Effect N → Bool}
    (hp : ∀ {effect}, p effect = true → effect.isDecision = true) :
    last.effects.countP p = (run.effects page []).countP p := by
  rw [← countP_decisions hp, h.decisions, countP_decisions hp]

theorem addSelectors_iff {selectors texts : List String} :
    .addSelectors selectors texts ∈ last.effects ↔
      run.findings.selectors ≠ [] ∧ selectors = run.findings.selectors.map (·.1) ∧
        texts = run.findings.selectors.map (·.2) := by
  rw [h.mem_effects rfl]
  exact Run.addSelectors_mem_effects page run

theorem exists_selector_iff {p : String → Prop} :
    (∃ selectors texts, .addSelectors selectors texts ∈ last.effects ∧
      ∃ selector ∈ selectors, p selector) ↔ ∃ reported ∈ run.findings.selectors, p reported.1 := by
  constructor
  · rintro ⟨selectors, texts, hmem, selector, hselector, hp⟩
    obtain ⟨-, rfl, -⟩ := h.addSelectors_iff.mp hmem
    obtain ⟨reported, hreported, rfl⟩ := List.mem_map.mp hselector
    exact ⟨reported, hreported, hp⟩
  · rintro ⟨reported, hreported, hp⟩
    exact ⟨_, _, h.addSelectors_iff.mpr ⟨List.ne_nil_of_mem hreported, rfl, rfl⟩, reported.1,
      List.mem_map_of_mem hreported, hp⟩

/-- The elements that are hidden were passed to be hidden. -/
theorem hidden_iff {n : N} : n ∈ last.engine.hiddenElements ↔
    ∃ nodes texts, .hide nodes texts ∈ last.effects ∧ n ∈ nodes := by
  constructor
  · intro hn
    have hsome : run.findings.matched ≠ [] := by
      intro hnil
      rw [h.hidden, hnil] at hn
      exact absurd hn List.not_mem_nil
    obtain ⟨texts, hmem⟩ := (Run.hide_mem_effects page run h.tidy).mpr ⟨hsome, rfl⟩
    exact ⟨_, texts, (h.mem_effects rfl).mpr hmem, h.hidden ▸ hn⟩
  · rintro ⟨nodes, texts, hmem, hn⟩
    have htold := (Run.hide_mem_effects page run h.tidy).mp ⟨texts, (h.mem_effects rfl).mp hmem⟩
    rw [h.hidden, ← htold.2]
    exact hn

end Shows

/-! ### The first run of a new engine -/

variable {κ : Type} [Clock κ] {doc : Document}

/-- What a new engine shows when it rests: the completed run of the patterns it was given. -/
theorem rests_apply_new {config : Config} {clock : κ} {sources : List PatternSource}
    {last : Outcome Nat Nat κ}
    (hlast : Rests doc.page ((Engine.new config clock).apply doc.page sources) last) :
    let run := ((Engine.new config clock : Engine Nat Nat κ).given sources).runOf doc.page .full
    last.engine.hiddenElements = run.findings.matched.nodes ∧
      decisions last.effects = decisions (run.effects doc.page []) := by
  intro run
  by_cases hnone : ((Engine.new config clock : Engine Nat Nat κ).given sources).patterns.isEmpty
  · obtain ⟨hengine, hwake⟩ := apply_of_isEmpty doc.page hnone
    have hnil : (registration 0 sources).1 = [] := List.isEmpty_iff.mp hnone
    have hfindings : run.findings = .none := by
      simp only [run, runOf, given, Engine.new, hnil]
      rfl
    rw [hlast.eq_of_none hwake, hengine, decisions_apply_of_isEmpty doc.page hnone]
    unfold Run.effects
    rw [hfindings]
    exact ⟨rfl, rfl⟩
  · have hpursues := apply_pursues doc.page (rfl : (Engine.new config clock).phase = .idle) hnone
    have hreports := hlast.reports hpursues
    refine ⟨?_, hreports.decisions⟩
    unfold hiddenElements
    rw [hreports.hidden]
    exact Run.nodes_hiddenAfter_nil doc.page run (runOf_collects doc.page _ .full).tidy

/-- The effect hides the element: it names it, or a selector that finds it. -/
def Hides (doc : Document) (n : Nat) : Effect Nat → Prop
  | .hide nodes _ => n ∈ nodes
  | .addSelectors selectors _ => ∃ selector ∈ selectors, doc.Finds selector n
  | _ => False

/-- What a new engine with these settings has told and hidden after its first full run. -/
structure FirstRun (doc : Document) (config : Config) (patterns : List Pattern)
    (last : Outcome Nat Nat κ) : Prop where
  /-- Each selector stands beside the text of a pattern that gives it, and none is missing. -/
  paired : ∀ selectors texts, .addSelectors selectors texts ∈ last.effects →
    selectors.length = texts.length ∧ ∀ selector text,
      (selector, text) ∈ selectors.zip texts ↔
        ∃ pattern ∈ patterns, config.hidesBySelector pattern = true ∧
          pattern.text = text ∧ pattern.chain.Gives doc selector
  selectorsOnce : last.effects.countP Effect.isAddSelectors ≤ 1
  hideOnce : last.effects.countP Effect.isHide ≤ 1
  /-- The table holds what was passed to be hidden. -/
  hidden : ∀ n, n ∈ last.engine.hiddenElements ↔
    ∃ nodes texts, .hide nodes texts ∈ last.effects ∧ n ∈ nodes
  /-- Only patterns that are not reported as selectors have come into the table. -/
  entered : ∀ n, n ∈ last.engine.hiddenElements ↔
    ∃ pattern ∈ patterns, config.hidesBySelector pattern = false ∧ pattern.chain.FindsOn doc n
  /-- Both ways together reach what the patterns find. -/
  reached : ∀ n, (∃ effect ∈ last.effects, Hides doc n effect) ↔
    ∃ pattern ∈ patterns, pattern.chain.FindsOn doc n

/-- An element is reached by a selector that is reported, or it is named. -/
theorem exists_hides_iff {effects : List (Effect Nat)} {n : Nat} :
    (∃ effect ∈ effects, Hides doc n effect) ↔
      (∃ selectors texts, .addSelectors selectors texts ∈ effects ∧
        ∃ selector ∈ selectors, doc.Finds selector n) ∨
      ∃ nodes texts, .hide nodes texts ∈ effects ∧ n ∈ nodes := by
  constructor
  · rintro ⟨effect, heffect, hhides⟩
    cases effect with
    | hide nodes texts => exact .inr ⟨nodes, texts, heffect, hhides⟩
    | addSelectors selectors texts => exact .inl ⟨selectors, texts, heffect, hhides⟩
    | _ => exact hhides.elim
  · rintro (⟨selectors, texts, heffect, hfinds⟩ | ⟨nodes, texts, heffect, hn⟩)
    · exact ⟨_, heffect, hfinds⟩
    · exact ⟨_, heffect, hn⟩

theorem firstRun_of_rests {config : Config} {clock : κ} {sources : List PatternSource}
    {last : Outcome Nat Nat κ}
    (hlast : Rests doc.page ((Engine.new config clock).apply doc.page sources) last) :
    FirstRun doc config (registration 0 sources).1 last := by
  let given : Engine Nat Nat κ := (Engine.new config clock).given sources
  have hshows : Shows doc.page (given.runOf doc.page .full) last := by
    obtain ⟨hhidden, hdecisions⟩ := rests_apply_new hlast
    exact ⟨(runOf_collects doc.page given .full).tidy, hhidden, hdecisions⟩
  have hentered : ∀ n, n ∈ last.engine.hiddenElements ↔
      ∃ pattern ∈ (registration 0 sources).1, config.hidesBySelector pattern = false ∧
        pattern.chain.FindsOn doc n := by
    intro n
    rw [hshows.hidden]
    exact mem_matched_runOf
  refine ⟨?_, ?_, ?_, fun n => hshows.hidden_iff, hentered, ?_⟩
  · intro selectors texts hmem
    obtain ⟨-, rfl, rfl⟩ := hshows.addSelectors_iff.mp hmem
    refine ⟨by simp, fun selector text => ?_⟩
    rw [← List.unzip_fst, ← List.unzip_snd, List.zip_unzip]
    exact mem_selectors_runOf
  · rw [hshows.countP_effects Effect.isDecision_of_isAddSelectors]
    exact Run.countP_isAddSelectors_effects doc.page _ []
  · rw [hshows.countP_effects Effect.isDecision_of_isHide]
    exact Run.countP_isHide_effects doc.page _ []
  · intro n
    have hreported : (∃ selectors texts, .addSelectors selectors texts ∈ last.effects ∧
        ∃ selector ∈ selectors, doc.Finds selector n) ↔
        ∃ pattern ∈ (registration 0 sources).1, config.hidesBySelector pattern = true ∧
          pattern.chain.FindsOn doc n :=
      hshows.exists_selector_iff.trans finds_selectors_runOf
    rw [exists_hides_iff, ← hshows.hidden_iff, hentered, hreported]
    constructor
    · rintro (⟨pattern, hpattern, -, hfinds⟩ | ⟨pattern, hpattern, -, hfinds⟩)
      · exact ⟨pattern, hpattern, hfinds⟩
      · exact ⟨pattern, hpattern, hfinds⟩
    · rintro ⟨pattern, hpattern, hfinds⟩
      cases hhides : config.hidesBySelector pattern with
      | false => exact .inr ⟨pattern, hpattern, hhides, hfinds⟩
      | true => exact .inl ⟨pattern, hpattern, hhides, hfinds⟩

/--
**The modes agree.**  Two new engines are given the same sources on a document that stays as
it is, and their wake-ups are followed to rest, with any clocks and settings; the second one
hides elements only.  What the first one hides by selectors and by elements, taken together,
is what the second one has hidden.
-/
theorem modes_agree {κ' : Type} [Clock κ'] (doc : Document) (sources : List PatternSource)
    (config plain : Config) (hplain : plain.selectorHiding = .never) (clock : κ)
    (plainClock : κ') :
    (∃ last, Rests doc.page ((Engine.new config clock).apply doc.page sources) last) ∧
    (∃ last, Rests doc.page ((Engine.new plain plainClock).apply doc.page sources) last) ∧
    ∀ last, Rests doc.page ((Engine.new config clock).apply doc.page sources) last →
    ∀ other, Rests doc.page ((Engine.new plain plainClock).apply doc.page sources) other →
      FirstRun doc config (registration 0 sources).1 last ∧
      (∀ n, (∃ effect ∈ last.effects, Hides doc n effect) ↔ n ∈ other.engine.hiddenElements) := by
  refine ⟨exists_rests_apply doc.page rfl sources, exists_rests_apply doc.page rfl sources,
    fun last hlast other hother => ?_⟩
  have hfirst := firstRun_of_rests hlast
  refine ⟨hfirst, fun n => ?_⟩
  rw [hfirst.reached, (firstRun_of_rests hother).entered]
  have hshown : ∀ pattern, plain.hidesBySelector pattern = false := by
    intro pattern
    simp [Config.hidesBySelector, hplain]
  simp only [hshown, true_and]

/-- Boxes are hidden by a selector, and nothing is entered in the table. -/
theorem modes_agree_boxes :
    let always := { Config.default with selectorHiding := .always }
    let start : PausedClock := ⟨.zero⟩
    ∃ last other : Outcome Nat Nat PausedClock,
      Rests boxDocument.page ((Engine.new always start).apply boxDocument.page boxSources) last ∧
      Rests boxDocument.page
        ((Engine.new Config.default start).apply boxDocument.page boxSources) other ∧
      (∀ n, n ∉ last.engine.hiddenElements) ∧
      ∀ n, (∃ effect ∈ last.effects, Hides boxDocument n effect) ↔
        n ∈ other.engine.hiddenElements := by
  intro always start
  obtain ⟨⟨last, hlast⟩, ⟨other, hother⟩, hagree⟩ :=
    modes_agree boxDocument boxSources always Config.default rfl start start
  obtain ⟨hfirst, hsame⟩ := hagree last hlast other hother
  refine ⟨last, other, hlast, hother, fun n hn => ?_, hsame⟩
  obtain ⟨pattern, -, hshown, -⟩ := (hfirst.entered n).mp hn
  exact absurd hshown (by simp [Config.hidesBySelector, always])

end Engine

end CosmeticFilter
