/-
What the run for a batch makes of one element.

After a completed full run the table of hidden elements collects all hits.  The run for a
batch of changes derives anew what it covers, and takes the rest as it stands.  Whether that
is right can be told for each element by itself: if the hits of the element that the run does
not cover are just those that were there before, then the element is hidden after the run if
and only if a pattern hits it on the document as it is now.

Nothing is said here of the shape of the patterns.  It decides which hits stay as they were.
-/
import CosmeticFilter.Proofs.Incremental
import CosmeticFilter.Proofs.Ledger

namespace CosmeticFilter

/-! ### Tables -/

namespace Run

variable {N S : Type} [DecidableEq N] {page : Page N S} {run : Run N}

omit [DecidableEq N] in
/-- A run covers a match if it covers what is derived from each anchor. -/
theorem covers_iff_singles {pattern : Pattern} {anchors : List N} :
    run.covers page ⟨pattern, anchors⟩ = true ↔
      run.covers page ⟨pattern, []⟩ = true ∧
        ∀ a ∈ anchors, run.covers page ⟨pattern, [a]⟩ = true := by
  unfold covers
  by_cases hfull : run.full = true
  · simp [hfull]
  · simp only [if_neg hfull]
    by_cases hstyles : (!run.completeStyles && pattern.dependencies.style) = true
    · simp [hstyles]
    · simp only [if_neg hstyles]
      cases run.candidates.find? fun candidate => candidate.pattern.same pattern with
      | none => simp
      | some candidate =>
        unfold reaches
        cases htargets : candidate.targets with
        | none => simp [htargets]
        | some targets => simp [htargets]

/-- A run after changes, with the hits that it found and those of the page before and after. -/
structure Revises (page : Page N S) (run : Run N) (found old new : List (Hit N)) : Prop where
  finds : Collects run.findings.matched found
  subset : ∀ hit ∈ found, hit ∈ new
  covered : ∀ hit ∈ new, run.covers page ⟨hit.pattern, hit.anchors⟩ = true → hit ∈ found
  unique : ∀ hit ∈ old ++ new, ∀ other ∈ old ++ new,
    hit.pattern.serial = other.pattern.serial → hit.pattern = other.pattern
  connected : ∀ hit ∈ new, page.isConnected hit.node = true

/-- The hits of the element that the run does not cover are those that there were before. -/
def Keeps (page : Page N S) (run : Run N) (old new : List (Hit N)) (n : N) : Prop :=
  ∀ hit : Hit N, hit.node = n → run.covers page ⟨hit.pattern, hit.anchors⟩ = false →
    (hit ∈ new ↔ hit ∈ old ∧ page.isConnected n = true)

namespace Revises

variable {found old new : List (Hit N)} {hidden : MatchTable N}

/-- A known match that is not covered has a hit that is not covered. -/
theorem exists_uncovered (h : Revises page run found old new) (hhidden : Collects hidden old)
    {n : N} {pattern : Pattern} {known : Match N} (hknown : hidden.match? n pattern = some known)
    (hcovers : run.covers page known = false) :
    ∃ hit ∈ old, hit.node = n ∧ run.covers page ⟨hit.pattern, hit.anchors⟩ = false := by
  obtain ⟨first, hfirst, hnode, hpattern⟩ := hhidden.pattern n pattern known hknown
  have hsome : run.covers page ⟨known.pattern, []⟩ = false ∨
      ∃ a ∈ known.anchors, run.covers page ⟨known.pattern, [a]⟩ = false := by
    by_contra hall
    rw [not_or] at hall
    have hyes : run.covers page ⟨known.pattern, known.anchors⟩ = true := by
      refine covers_iff_singles.mpr ⟨by simpa using hall.1, fun a ha => ?_⟩
      by_contra hno
      exact hall.2 ⟨a, ha, by simpa using hno⟩
    simp [hcovers] at hyes
  rcases hsome with hnone | ⟨a, ha, hsingle⟩
  · refine ⟨first, hfirst, hnode, ?_⟩
    rw [Bool.eq_false_iff]
    intro hyes
    rw [hpattern] at hyes
    simp [(covers_iff_singles.mp hyes).1] at hnone
  · obtain ⟨hit, hhit, hat, hserial, hanchor⟩ := (hhidden.anchors n pattern known hknown a).mp ha
    have hsame : hit.pattern = known.pattern := by
      rw [← hpattern]
      refine h.unique hit (List.mem_append_left _ hhit) first (List.mem_append_left _ hfirst) ?_
      rw [hserial, hpattern, MatchTable.match?_serial hknown]
    refine ⟨hit, hhit, hat, ?_⟩
    rw [Bool.eq_false_iff]
    intro hyes
    rw [hsame] at hyes
    simp [(covers_iff_singles.mp hyes).2 a hanchor] at hsingle

/-- An element of the table after the run is hit. -/
theorem exists_hit (h : Revises page run found old new) (hhidden : Collects hidden old) {n : N}
    (hkeeps : Keeps page run old new n) (hn : n ∈ (run.hiddenAfter page hidden).nodes) :
    ∃ hit ∈ new, hit.node = n := by
  have hfound : ∀ {pattern m}, run.findings.matched.match? n pattern = some m →
      ∃ hit ∈ new, hit.node = n := by
    intro pattern m hm
    obtain ⟨hit, hhit, hnode, -⟩ := h.finds.pattern n pattern m hm
    exact ⟨hit, h.subset hit hhit, hnode⟩
  have htidy := tidy_hiddenAfter page run hhidden.tidy h.finds.tidy
  obtain ⟨pattern, m, hm⟩ := htidy.mem_nodes_iff.mp hn
  rcases cases_match?_hiddenAfter hhidden.tidy h.finds.tidy hm with
    ⟨hconnected, known, hknown, hrenewed⟩ | hm
  · cases hmatch : run.findings.matched.match? n pattern with
    | some again => exact hfound hmatch
    | none =>
      cases hcovers : run.covers page known with
      | true => simp [renewed, hmatch, hcovers] at hrenewed
      | false =>
        obtain ⟨hit, hhit, hnode, hnot⟩ := h.exists_uncovered hhidden hknown hcovers
        exact ⟨hit, (hkeeps hit hnode hnot).mpr ⟨hhit, hconnected⟩, hnode⟩
  · exact hfound hm

/-- An element that is hit is in the table after the run. -/
theorem mem_nodes_of_hit (h : Revises page run found old new) (hhidden : Collects hidden old)
    {hit : Hit N} (hkeeps : Keeps page run old new hit.node) (hhit : hit ∈ new) :
    hit.node ∈ (run.hiddenAfter page hidden).nodes := by
  have htidy := tidy_hiddenAfter page run hhidden.tidy h.finds.tidy
  have hmatched : hit.node ∈ run.findings.matched.nodes →
      hit.node ∈ (run.hiddenAfter page hidden).nodes :=
    fun hmem => (mem_nodes_hiddenAfter hhidden.tidy h.finds.tidy).mpr (.inl hmem)
  cases hcovers : run.covers page ⟨hit.pattern, hit.anchors⟩ with
  | true => exact hmatched (h.finds.mem_nodes.mpr ⟨hit, h.covered hit hhit hcovers, rfl⟩)
  | false =>
    obtain ⟨hold, hconnected⟩ := (hkeeps hit rfl hcovers).mp hhit
    obtain ⟨known, hknown⟩ := (hhidden.found hit.node hit.pattern).mpr ⟨hit, hold, rfl, rfl⟩
    cases hmatch : run.findings.matched.match? hit.node hit.pattern with
    | some again => exact hmatched (h.finds.tidy.mem_nodes_iff.mpr ⟨_, again, hmatch⟩)
    | none =>
      -- The match has the anchors of the hit among its own, so it is not covered either.
      have hnot : run.covers page known = false := by
        rw [Bool.eq_false_iff]
        intro hyes
        obtain ⟨first, hfirst, -, hpattern⟩ := hhidden.pattern _ _ known hknown
        have hsame : known.pattern = hit.pattern := by
          rw [← hpattern]
          refine h.unique first (List.mem_append_left _ hfirst) hit
            (List.mem_append_right _ hhit) ?_
          rw [hpattern, MatchTable.match?_serial hknown]
        rw [show known = ⟨hit.pattern, known.anchors⟩ by rw [← hsame]] at hyes
        have hsubset : ∀ a ∈ hit.anchors, a ∈ known.anchors := fun a ha =>
          (hhidden.anchors _ _ known hknown a).mpr ⟨hit, hold, rfl, rfl, ha⟩
        simp [covers_of_subset hsubset hyes] at hcovers
      have hrenewed : run.renewed page known
          (run.findings.matched.match? hit.node hit.pattern) = some known := by
        simp [renewed, hmatch, hnot]
      exact htidy.mem_nodes_iff.mpr ⟨_, known,
        match?_hiddenAfter_of_renewed hhidden.tidy h.finds.tidy hconnected hknown hrenewed⟩

/-- **If a run keeps the hits of an element that it does not cover, it is right about it.** -/
theorem mem_nodes_iff (h : Revises page run found old new) (hhidden : Collects hidden old) {n : N}
    (hkeeps : Keeps page run old new n) :
    n ∈ (run.hiddenAfter page hidden).nodes ↔ ∃ hit ∈ new, hit.node = n := by
  constructor
  · exact h.exists_hit hhidden hkeeps
  · rintro ⟨hit, hhit, rfl⟩
    exact h.mem_nodes_of_hit hhidden hkeeps hhit

end Revises

end Run

/-! ### Engines -/

namespace Engine

variable {κ : Type} [Clock κ]

omit [Clock κ] in
/-- A run for changes finds what they reach. -/
theorem reached_of_mem_runHits {page : Page Nat Nat} (h : page.Orderly)
    {engine : Engine Nat Nat κ} {changes : List (Mutation Nat)} {hit : Hit Nat}
    (hhit : hit ∈ engine.runHits page (.partly [] changes))
    (hsiblings : hit.pattern.dependencies.siblings = false) :
    ∀ c ∈ hit.anchors, page.reaches changes c = true := by
  obtain ⟨candidate, hcandidate, hhit⟩ := List.mem_flatMap.mp hhit
  obtain ⟨hwide, hreaches⟩ := (Hit.mem_ofCandidate_iff_reaches h).mp hhit
  obtain ⟨pattern, hpattern, rfl⟩ := List.mem_map.mp hcandidate
  have hsame : hit.pattern = pattern := (Hit.mem_ofCandidate.mp hwide).1
  have hchanges : changes.isEmpty = false := by
    cases changes with
    | nil => simp [Classification.affected, Pattern.affectedByBatch] at hpattern
    | cons => rfl
  simpa [Run.reaches, Classification.confinement, hsame ▸ hsiblings, hchanges, Page.reaches]
    using hreaches

/-- A settled engine is told of changes of its document, and followed to rest. -/
structure Revised (before after : Document) (engine last : Engine Nat Nat κ) : Prop where
  settled : Settled before.page engine
  never : engine.config.selectorHiding = .never
  searching : SearchingPatterns engine.patterns
  recorded : Document.Recorded engine.observeOptions engine.patterns before after
  rests : ∃ outcome, Rests after.page (engine.changed after.page after.records) outcome ∧
    outcome.engine = last

/--
The element is found as before where the run does not look: by patterns that do not relate
siblings, and by way of an anchor that is out of reach of the changes.
-/
def KeepsOutOfReach (patterns : List Pattern) (before after : Document) (n : Nat) : Prop :=
  ∀ pattern ∈ patterns, pattern.dependencies.siblings = false → ∀ anchors : List Nat,
    (∃ c ∈ anchors, after.page.reaches after.records c = false) →
    (pattern.chain.FindsBy after anchors n ↔
      pattern.chain.FindsBy before anchors n ∧ after.isConnected n = true)

namespace Revised

variable {before after : Document} {engine last : Engine Nat Nat κ}

theorem revises (h : Revised before after engine last) :
    (engine.runOf after.page (.partly [] after.records)).Revises after.page
      (engine.runHits after.page (.partly [] after.records))
      (hitsOf engine.config before.page engine.patterns)
      (hitsOf engine.config after.page engine.patterns) where
  finds := runOf_collects ..
  subset _ hhit := runHits_subset after.page_lawful hhit
  covered _ hhit hcovered := mem_runHits_of_covers after.page_lawful h.searching.distinct hcovered
    hhit rfl fun _ ha => ha
  unique := by
    have hpattern : ∀ hit ∈ hitsOf engine.config before.page engine.patterns ++
        hitsOf engine.config after.page engine.patterns, hit.pattern ∈ engine.patterns := by
      intro hit hhit
      rcases List.mem_append.mp hhit with hhit | hhit
      · exact (mem_hitsOf.mp hhit).1
      · exact (mem_hitsOf.mp hhit).1
    exact fun hit hhit other hother hserial => List.inj_on_of_nodup_map h.searching.distinct
      (hpattern hit hhit) (hpattern other hother) hserial
  connected _ hhit := connected_of_mem_hits after.page_lawful (mem_hitsOf.mp hhit).2

/-- What the run does not cover is not affected, or out of reach. -/
theorem keeps (h : Revised before after engine last) {n : Nat}
    (hkeeps : KeepsOutOfReach engine.patterns before after n) :
    (engine.runOf after.page (.partly [] after.records)).Keeps after.page
      (hitsOf engine.config before.page engine.patterns)
      (hitsOf engine.config after.page engine.patterns) n := by
  rintro hit rfl huncovered
  rw [mem_hitsOf, mem_hitsOf, and_assoc]
  refine and_congr_right fun hpattern => ?_
  rw [covers_runOf after.page h.searching.distinct hpattern
    (Chain.searches_iff.mp (h.searching.searches _ hpattern)), Bool.and_eq_false_iff]
    at huncovered
  rw [Pattern.mem_hits_iff h.never, Pattern.mem_hits_iff h.never, and_assoc]
  refine and_congr_right fun _ => ?_
  rcases huncovered with hunaffected | hunreached
  · rw [h.recorded.findsBy_iff_of_unaffected h.searching hpattern hunaffected, iff_self_and]
    exact fun hfinds =>
      h.recorded.connected_of_unaffected hpattern hunaffected hfinds.place.2
  · obtain ⟨hsiblings, hunreached⟩ := Bool.or_eq_false_iff.mp hunreached
    obtain ⟨c, hc, hunreached⟩ := List.all_eq_false.mp hunreached
    exact hkeeps _ hpattern hsiblings _ ⟨c, hc, Bool.eq_false_iff.mpr hunreached⟩

/-- Without a record there is nothing to do, and nothing has changed. -/
theorem exists_hit_iff_of_none (h : Revised before after engine last)
    (hnone : (engine.patterns.isEmpty || after.records.isEmpty) = true) {n : Nat} :
    (∃ hit ∈ hitsOf engine.config before.page engine.patterns, hit.node = n) ↔
      ∃ hit ∈ hitsOf engine.config after.page engine.patterns, hit.node = n := by
  refine exists_congr fun hit => and_congr_left fun _ => ?_
  rw [mem_hitsOf, mem_hitsOf, Pattern.mem_hits_iff h.never, Pattern.mem_hits_iff h.never]
  refine and_congr_right fun hpattern => and_congr_right fun _ => ?_
  exact (h.recorded.findsBy_iff_of_unaffected h.searching hpattern
    (Pattern.unaffected_of_isEmpty hnone _ hpattern)).symm

/-- **An element that keeps its hits out of reach** is hidden if and only if it is hit. -/
theorem mem_hidden_iff (h : Revised before after engine last) {n : Nat}
    (hkeeps : KeepsOutOfReach engine.patterns before after n) :
    n ∈ last.hiddenElements ↔
      ∃ hit ∈ hitsOf engine.config after.page engine.patterns, hit.node = n := by
  obtain ⟨outcome, hrests, rfl⟩ := h.rests
  unfold Engine.changed at hrests
  split at hrests
  · rename_i hnone
    rw [hrests.eq_of_none rfl, ← h.exists_hit_iff_of_none hnone]
    exact h.settled.collects.mem_nodes
  · have hreports := hrests.reports (request_pursues after.page h.settled.phase _)
    rw [hiddenElements, hreports.hidden]
    exact h.revises.mem_nodes_iff h.settled.collects (h.keeps hkeeps)

/-- **What is new is missed out of reach**: an element is not hidden that was not found before,
and is found now only by way of anchors of which one is out of reach. -/
theorem not_mem_hidden (h : Revised before after engine last) {n : Nat}
    (hbefore : ∀ p ∈ engine.patterns, ∀ anchors, ¬ p.chain.FindsBy before anchors n)
    (hafter : ∀ p ∈ engine.patterns, ∀ anchors, p.chain.FindsBy after anchors n →
      p.dependencies.siblings = false ∧ ∃ c ∈ anchors, after.page.reaches after.records c = false) :
    n ∉ last.hiddenElements := by
  have hold : n ∉ engine.hiddenElements := by
    intro hn
    obtain ⟨hit, hhit, rfl⟩ := h.settled.collects.mem_nodes.mp hn
    obtain ⟨hpattern, hhit⟩ := mem_hitsOf.mp hhit
    exact hbefore _ hpattern _ ((Pattern.mem_hits_iff h.never).mp hhit).2
  obtain ⟨outcome, hrests, rfl⟩ := h.rests
  unfold Engine.changed at hrests
  split at hrests
  · rw [hrests.eq_of_none rfl]
    exact hold
  · have hreports := hrests.reports (request_pursues after.page h.settled.phase _)
    rw [hiddenElements, hreports.hidden]
    intro hn
    rcases (Run.mem_nodes_hiddenAfter h.settled.collects.tidy h.revises.finds.tidy).mp hn with
      hn | ⟨hn, -⟩
    · obtain ⟨hit, hhit, rfl⟩ := h.revises.finds.mem_nodes.mp hn
      obtain ⟨hpattern, hall⟩ := mem_hitsOf.mp (h.revises.subset hit hhit)
      obtain ⟨hsiblings, c, hc, hunreached⟩ := hafter _ hpattern _
        ((Pattern.mem_hits_iff h.never).mp hall).2
      simp [reached_of_mem_runHits after.page_orderly hhit hsiblings c hc] at hunreached
    · exact hold hn

end Revised

/-! ### One batch after a full run -/

theorem Batches.exists_of_single {doc now : Document} {engine last : Engine Nat Nat κ}
    {changes : List Change} (h : Batches doc engine [changes] now last) :
    (doc.changeAll changes).WellFormed ∧ now = (doc.changeAll changes).takeRecords.2 ∧
      ∃ clock outcome, Rests (doc.changeAll changes).page
        ({ engine with clock := clock }.changed (doc.changeAll changes).page
          (doc.changeAll changes).records) outcome ∧ outcome.engine = last := by
  generalize hbatches : [changes] = batches at h
  cases h with
  | none => simp at hbatches
  | @next earlier before current h others hformed clock outcome hlast =>
    obtain ⟨rfl, rfl⟩ : earlier = [] ∧ others = changes := by
      cases earlier with
      | nil => exact ⟨rfl, (List.cons.inj hbatches).1.symm⟩
      | cons => simp at hbatches
    generalize hnone : ([] : List (List Change)) = batches at h
    cases h with
    | none =>
      rw [Document.takeRecords_eq, Document.page_telling] at hlast
      exact ⟨hformed, rfl, clock, outcome, hlast, rfl⟩
    | next => simp at hnone

/-- A reachable engine that has completed a full run and is told of a batch is revised. -/
theorem exists_revised {doc : Document} {config : Config} {clock : κ}
    {events : List (Event Nat Nat κ)} {sources : List PatternSource} {serial : Nat}
    {first : Outcome Nat Nat κ}
    (hsources : ((Engine.new config clock).meetAll events).engine.patterns =
      (registration serial sources).1)
    (hsearches : ∀ p ∈ (registration serial sources).1, Chain.searches p.chain = true)
    (hnever : ((Engine.new config clock).meetAll events).engine.config.selectorHiding = .never)
    (hformed : doc.WellFormed)
    (hfull : Execution doc.page
      (((Engine.new config clock).meetAll events).engine.startRun doc.page .full) first)
    {changes : List Change} {now : Document} {last : Engine Nat Nat κ}
    (hbatch : Batches (doc.observe first.engine.observeOptions) first.engine [changes] now last) :
    ∃ engine : Engine Nat Nat κ, engine.patterns = (registration serial sources).1 ∧
      engine.config.selectorHiding = .never ∧
      Revised (doc.observe first.engine.observeOptions)
        ((doc.observe first.engine.observeOptions).changeAll changes) engine last := by
  obtain ⟨known, hconsistent⟩ := meetAll_consistent config clock events
  have hreports := hfull.reports (startRun_onTheWay doc.page _ .full)
  have hsettled := settled_of_full doc.page_lawful hconsistent hreports
  have hregistered := hreports.patterns.trans hsources
  have hfirst := hreports.reports.selectorHiding.trans hnever
  obtain ⟨hafter, -, later, outcome, hrests, hlast⟩ := hbatch.exists_of_single
  have hobserved : (doc.observe first.engine.observeOptions).page = doc.page := by
    rw [Document.observe_eq, Document.page_telling]
  refine ⟨{ first.engine with clock := later }, hregistered, hfirst, ?_, hfirst, ?_, ?_,
    outcome, hrests, hlast⟩
  · refine ⟨hsettled.phase, hsettled.distinct, ?_⟩
    rw [hobserved]
    exact hsettled.collects
  · refine ⟨hsettled.distinct, fun p hp => hsearches p (hregistered ▸ hp), fun p hp => ?_⟩
    rw [hreports.patterns] at hp
    obtain ⟨selector, hread⟩ := hconsistent.stock.read p (hconsistent.patterns p hp)
    exact Chain.apart_parse hread
  · refine ⟨Document.documented_changeAll rfl rfl changes, ?_, hafter, ?_, ?_⟩
    · rw [Document.observe_eq]
      exact hformed.telling _ _
    · exact fun p hp hasks => List.any_eq_true.mpr ⟨p, hp, hasks⟩
    · exact fun p hp hasks => List.any_eq_true.mpr ⟨p, hp, hasks⟩

omit [Clock κ] in
/-- A fresh engine hides what the patterns hit. -/
theorem mem_hidden_fresh {κ' : Type} [Clock κ'] {doc : Document} {engine : Engine Nat Nat κ}
    {sources : List PatternSource} {serial : Nat}
    (hregistered : engine.patterns = (registration serial sources).1)
    (hnever : engine.config.selectorHiding = .never) {freshConfig : Config}
    (hfreshNever : freshConfig.selectorHiding = .never) {freshClock : κ'}
    {fresh : Outcome Nat Nat κ'}
    (hfresh : Rests doc.page ((Engine.new freshConfig freshClock).apply doc.page sources) fresh)
    {n : Nat} : n ∈ fresh.engine.hiddenElements ↔
      ∃ hit ∈ hitsOf engine.config doc.page engine.patterns, hit.node = n := by
  rw [mem_hidden_apply hfresh, exists_hit_iff hfreshNever, registration_chains sources 0 serial,
    ← hregistered, ← exists_hit_iff hnever]

/-! ### Batches on a clock that stands still -/

/-- A new engine after it has been given sources. -/
def supplied (doc : Document) (sources : List PatternSource) : Engine Nat Nat PausedClock :=
  ((Engine.new Config.default ⟨.zero⟩).meetAll [.called doc.page (.apply sources)]).engine

theorem supplied_registers (doc : Document) (sources : List PatternSource) :
    (supplied doc sources).patterns = (registration 0 sources).1 ∧
      (supplied doc sources).config.selectorHiding = .never := by
  have hregisters := apply_registers doc.page
    (show (Engine.new Config.default ⟨.zero⟩ : Engine Nat Nat PausedClock).phase = .idle from rfl)
    sources
  exact ⟨hregisters.1, hregisters.2.selectorHiding⟩

/-- There are a full run, a batch after it, and a fresh engine to compare with. -/
theorem exists_batch (doc : Document) {sources : List PatternSource} (changes : List Change)
    {options : ObserveOptions}
    (hoptions : ((Engine.new Config.default ⟨.zero⟩ : Engine Nat Nat PausedClock).given
      sources).observeOptions = options)
    (hformed : ((doc.observe options).changeAll changes).WellFormed) :
    ∃ (first fresh : Outcome Nat Nat PausedClock) (last : Engine Nat Nat PausedClock),
      Execution doc.page ((supplied doc sources).startRun doc.page .full) first ∧
      first.engine.observeOptions = options ∧
      Batches (doc.observe options) first.engine [changes]
        ((doc.observe options).changeAll changes).takeRecords.2 last ∧
      Rests ((doc.observe options).changeAll changes).takeRecords.2.page
        ((Engine.new Config.default ⟨.zero⟩).apply
          ((doc.observe options).changeAll changes).takeRecords.2.page sources) fresh := by
  obtain ⟨first, hfull⟩ := exists_execution doc.page (supplied doc sources) .full
  have hreports := hfull.reports (startRun_onTheWay doc.page _ .full)
  have hobserves : first.engine.observeOptions = options := by
    rw [← hoptions, observeOptions, observeOptions, hreports.patterns,
      (supplied_registers doc sources).1]
    rfl
  obtain ⟨last, hlast⟩ := exists_rests_changed
    ((doc.observe options).changeAll changes).takeRecords.2.page hreports.phase
    ((doc.observe options).changeAll changes).takeRecords.1
  obtain ⟨fresh, hfresh⟩ := exists_rests_apply
    ((doc.observe options).changeAll changes).takeRecords.2.page
    (show (Engine.new Config.default ⟨.zero⟩ : Engine Nat Nat PausedClock).phase = .idle from rfl)
    sources
  exact ⟨first, fresh, last.engine, hfull, hobserves,
    Batches.none.next changes hformed first.engine.clock hlast, hfresh⟩

/-- A fresh engine hides what one of its patterns finds. -/
theorem mem_hidden_of_findings {doc : Document} {sources : List PatternSource}
    {fresh : Outcome Nat Nat PausedClock}
    (hfresh : Rests doc.page ((Engine.new Config.default ⟨.zero⟩).apply doc.page sources) fresh)
    {n : Nat} (hnow : ∃ p ∈ (registration 0 sources).1,
      ∃ found ∈ p.chain.findings doc, found.2 = n) :
    n ∈ fresh.engine.hiddenElements := by
  obtain ⟨p, hp, found, hfound, rfl⟩ := hnow
  obtain ⟨hsources, hnever⟩ := supplied_registers doc sources
  rw [mem_hidden_fresh hsources hnever rfl hfresh, exists_hit_iff hnever]
  exact ⟨p.chain, List.mem_map_of_mem (hsources ▸ hp), found.1, Chain.mem_findings.mp hfound⟩

/--
**A batch after which an element is missed**: it is found from scratch then, but it was not
found before, and only by way of anchors that are not all in reach of the changes.
-/
theorem exists_missed {doc : Document} {sources : List PatternSource} {changes : List Change}
    {options : ObserveOptions}
    (hoptions : ((Engine.new Config.default ⟨.zero⟩ : Engine Nat Nat PausedClock).given
      sources).observeOptions = options)
    (hsearches : ∀ p ∈ (registration 0 sources).1, Chain.searches p.chain = true)
    (hformed : doc.WellFormed) (hafter : ((doc.observe options).changeAll changes).WellFormed)
    {n : Nat}
    (hbefore : ∀ p ∈ (registration 0 sources).1,
      ∀ found ∈ p.chain.findings (doc.observe options), found.2 ≠ n)
    (hnow : ∃ p ∈ (registration 0 sources).1,
      ∃ found ∈ p.chain.findings ((doc.observe options).changeAll changes).takeRecords.2,
        found.2 = n)
    (hmissed : ∀ p ∈ (registration 0 sources).1,
      ∀ found ∈ p.chain.findings ((doc.observe options).changeAll changes), found.2 = n →
        p.dependencies.siblings = false ∧ ∃ c ∈ found.1,
          ((doc.observe options).changeAll changes).page.reaches
            ((doc.observe options).changeAll changes).records c = false) :
    ∃ (first fresh : Outcome Nat Nat PausedClock) (now : Document)
      (last : Engine Nat Nat PausedClock),
      Execution doc.page ((supplied doc sources).startRun doc.page .full) first ∧
      Batches (doc.observe first.engine.observeOptions) first.engine [changes] now last ∧
      Rests now.page ((Engine.new Config.default ⟨.zero⟩).apply now.page sources) fresh ∧
      n ∉ last.hiddenElements ∧ n ∈ fresh.engine.hiddenElements := by
  obtain ⟨first, fresh, last, hfull, rfl, hbatch, hfresh⟩ :=
    exists_batch doc changes hoptions hafter
  obtain ⟨hsources, hnever⟩ := supplied_registers doc sources
  obtain ⟨engine, hregistered, hfirst, hrevised⟩ :=
    exists_revised hsources hsearches hnever hformed hfull hbatch
  refine ⟨first, fresh, _, last, hfull, hbatch, hfresh, hrevised.not_mem_hidden ?_ ?_,
    mem_hidden_of_findings hfresh hnow⟩
  · intro p hp anchors hfinds
    exact hbefore p (hregistered ▸ hp) _ (Chain.mem_findings.mpr hfinds) rfl
  · intro p hp anchors hfinds
    exact hmissed p (hregistered ▸ hp) _ (Chain.mem_findings.mpr hfinds) rfl

end Engine

end CosmeticFilter
