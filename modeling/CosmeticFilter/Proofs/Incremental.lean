/-
Filtering step by step gives what filtering from scratch gives.

After a completed full run the table of hidden elements tracks the hits on the document.
Each batch of changes is recorded, the engine is told of the records and followed until it
is idle, and by then its table tracks the hits on the document as it is now: either the run
for the batch has seen to it, or there was no run because nothing could have changed.  A
fresh engine collects the same hits, so both hide the same elements.
-/
import CosmeticFilter.Proofs.Batch
import CosmeticFilter.Proofs.RequestFlow

namespace CosmeticFilter

open CosmeticFilter.Text

/-! ### What is followed, and what is told on the way -/

namespace Engine

section Following

variable {S N κ : Type} [DecidableEq N] [Clock κ] {page : Page N S}

/-- An engine that needs nothing stays as it is. -/
theorem Rests.eq_of_none {outcome last : Outcome S N κ} (h : Rests page outcome last)
    (hwake : outcome.wake = none) : last = outcome := by
  cases h with
  | idle => rfl
  | answered hsome => simp [hwake] at hsome

/-- What was told before is no part of where an engine comes to rest. -/
theorem Rests.retold {outcome last : Outcome S N κ} (h : Rests page outcome last)
    (other : Outcome S N κ) (hengine : other.engine = outcome.engine)
    (hwake : other.wake = outcome.wake) :
    ∃ otherLast, Rests page other otherLast ∧ otherLast.engine = last.engine := by
  induction h generalizing other with
  | idle hphase => exact ⟨other, .idle (hengine ▸ hphase), hengine⟩
  | @answered outcome last wake hsome clock _ ih =>
    obtain ⟨otherLast, hlast, heq⟩ := ih
      (other.andThen ({ other.engine with clock := clock }.answer page wake))
      (by rw [hengine]; rfl) (by rw [hengine]; rfl)
    exact ⟨otherLast, .answered (hwake.trans hsome) clock hlast, heq⟩

omit [Clock κ] in
/-- A request leaves the patterns and the settings that matter as they are. -/
theorem Pursues.unchanged {engine : Engine S N κ} {request : Request S N} {outcome : Outcome S N κ}
    (h : Pursues page engine request outcome) :
    outcome.engine.patterns = engine.patterns ∧
      SameReports outcome.engine.config engine.config := by
  cases h with
  | debouncing _ _ h => exact ⟨h.patterns, h.reports⟩
  | awaitingReady _ _ h => exact ⟨h.patterns, h.reports⟩
  | started _ h =>
    cases h with
    | reports _ h => exact ⟨h.patterns, h.reports⟩
    | heads _ h => exact ⟨h.patterns, h.reports⟩

/-- Where nothing is read from the sources there is nothing to do. -/
theorem apply_of_isEmpty (page : Page N S) {engine : Engine S N κ} {sources : List PatternSource}
    (hnone : (engine.given sources).patterns.isEmpty = true) :
    (engine.apply page sources).engine = engine.given sources ∧
      (engine.apply page sources).wake = none := by
  unfold apply
  simp only
  split
  · exact ⟨rfl, rfl⟩
  · rename_i hsome
    exact absurd hnone hsome

/-- But for what is told, to apply patterns is to request a full run with them. -/
theorem apply_of_not_isEmpty (page : Page N S) {engine : Engine S N κ}
    {sources : List PatternSource} (hsome : ¬(engine.given sources).patterns.isEmpty = true) :
    (engine.apply page sources).engine = ((engine.given sources).request page .full).engine ∧
      (engine.apply page sources).wake = ((engine.given sources).request page .full).wake := by
  unfold apply
  simp only
  split
  · rename_i hnone
    exact absurd hnone hsome
  · exact ⟨rfl, rfl⟩

/-- An idle engine that is given sources has the patterns that are read from them. -/
theorem apply_registers (page : Page N S) {engine : Engine S N κ} (hphase : engine.phase = .idle)
    (sources : List PatternSource) :
    (engine.apply page sources).engine.patterns = (registration engine.nextSerial sources).1 ∧
      SameReports (engine.apply page sources).engine.config engine.config := by
  by_cases hnone : (engine.given sources).patterns.isEmpty = true
  · rw [(apply_of_isEmpty page hnone).1]
    exact ⟨rfl, .refl _⟩
  · have hidle : (engine.given sources).phase = .idle := hphase
    rw [(apply_of_not_isEmpty page hnone).1]
    exact (request_pursues page hidle .full).unchanged

/-- When an idle engine is told of changes, it comes to rest again. -/
theorem exists_rests_changed (page : Page N S) {engine : Engine S N κ}
    (hphase : engine.phase = .idle) (changes : List (Mutation N)) :
    ∃ last, Rests page (engine.changed page changes) last := by
  unfold changed
  split
  · exact ⟨_, .idle hphase⟩
  · exact exists_rests page hphase _

/-- When an idle engine is given sources, it comes to rest again. -/
theorem exists_rests_apply (page : Page N S) {engine : Engine S N κ}
    (hphase : engine.phase = .idle) (sources : List PatternSource) :
    ∃ last, Rests page (engine.apply page sources) last := by
  have hidle : (engine.given sources).phase = .idle := hphase
  by_cases hnone : (engine.given sources).patterns.isEmpty = true
  · refine ⟨_, .idle ?_⟩
    rw [(apply_of_isEmpty page hnone).1]
    exact hidle
  · obtain ⟨last, hlast⟩ := exists_rests page hidle .full
    obtain ⟨hengine, hwake⟩ := apply_of_not_isEmpty page hnone
    obtain ⟨otherLast, hother, -⟩ := hlast.retold _ hengine hwake
    exact ⟨otherLast, hother⟩

end Following

end Engine

/-! ### From batch to batch -/

namespace Document

theorem WellFormed.telling {doc : Document} (h : doc.WellFormed)
    (observed : Option ObserveOptions) (records : List (Mutation Nat)) :
    (doc.telling observed records).WellFormed :=
  ⟨h.top, h.parents, h.root, h.tags⟩

/-- If no record can affect any pattern, a table that tracks the hits needs no run. -/
theorem Batch.tracks_of_unaffected {κ : Type} {options : ObserveOptions}
    {engine : Engine Nat Nat κ} {a b : Document} (h : Batch options engine.patterns a b)
    (hnever : engine.config.selectorHiding = .never)
    (hunaffected : ∀ p ∈ engine.patterns, p.affectedByBatch b.records = false)
    (htracks : Tracks a.page engine.hidden (hitsOf engine.config a.page engine.patterns)) :
    Tracks b.page engine.hidden (hitsOf engine.config b.page engine.patterns) := by
  have hsame : ∀ hit, hit ∈ hitsOf engine.config b.page engine.patterns ↔
      hit ∈ hitsOf engine.config a.page engine.patterns := by
    intro hit
    rw [mem_hitsOf, mem_hitsOf]
    exact and_congr_right fun hpattern =>
      h.mem_hits_iff_of_unaffected hnever hpattern (hunaffected _ hpattern)
  refine htracks.carried hsame fun hit hhit hsiblings => ?_
  exact h.carried hnever hit hhit hsiblings
    (connected_of_mem_hits b.page_lawful (mem_hitsOf.mp ((hsame hit).mpr hhit)).2)

end Document

namespace Engine

variable {κ : Type} [Clock κ]

/--
The engine is idle and has these patterns, is told of what matters to them, and its table
tracks the hits on the document.
-/
structure UpToDate (patterns : List Pattern) (doc : Document) (engine : Engine Nat Nat κ) :
    Prop where
  phase : engine.phase = .idle
  registered : engine.patterns = patterns
  never : engine.config.selectorHiding = .never
  single : SinglePatterns engine.patterns
  formed : doc.WellFormed
  observed : doc.observed = some engine.observeOptions
  tracks : Tracks doc.page engine.hidden (hitsOf engine.config doc.page engine.patterns)

variable {patterns : List Pattern} {doc : Document} {engine : Engine Nat Nat κ}

omit [Clock κ] in
theorem UpToDate.batch (h : UpToDate patterns doc engine) {changes : List Change}
    (hformed : (doc.changeAll changes).WellFormed) :
    Document.Batch engine.observeOptions engine.patterns doc (doc.changeAll changes) where
  documented := Document.documented_changeAll h.observed rfl changes
  before := h.formed
  after := hformed
  single := h.single
  attributes p hp hasks := List.any_eq_true.mpr ⟨p, hp, hasks⟩
  text p hp hasks := List.any_eq_true.mpr ⟨p, hp, hasks⟩

/-- **One batch.**  When the engine is told of it and followed to rest, it is up to date again. -/
theorem UpToDate.changed (h : UpToDate patterns doc engine) {changes : List Change}
    (hformed : (doc.changeAll changes).WellFormed) {last : Outcome Nat Nat κ}
    (hlast : Rests (doc.changeAll changes).page
      (engine.changed (doc.changeAll changes).page (doc.changeAll changes).records) last) :
    UpToDate patterns (doc.changeAll changes).takeRecords.2 last.engine := by
  have hbatch := h.batch hformed
  have hobserved : (doc.changeAll changes).observed = some engine.observeOptions :=
    hbatch.documented.observed.trans h.observed
  generalize doc.changeAll changes = after at *
  unfold Engine.changed at hlast
  rw [Document.takeRecords_eq]
  split at hlast
  · rename_i hnothing
    obtain rfl := hlast.eq_of_none rfl
    have hunaffected := Pattern.unaffected_of_isEmpty hnothing
    refine ⟨h.phase, h.registered, h.never, h.single, hformed.telling _ _, hobserved, ?_⟩
    rw [after.page_telling]
    exact hbatch.tracks_of_unaffected h.never hunaffected h.tracks
  · have hreports := hlast.reports (request_pursues after.page h.phase _)
    refine ⟨hreports.phase, hreports.patterns.trans h.registered,
      hreports.reports.selectorHiding.trans h.never, hreports.patterns ▸ h.single,
      hformed.telling _ _, ?_, ?_⟩
    · unfold observeOptions at hobserved ⊢
      rw [hreports.patterns]
      exact hobserved
    · rw [after.page_telling, hreports.hidden, hreports.patterns, hitsOf_congr hreports.reports]
      exact (hbatch.updates h.never).hiddenAfter h.tracks

/--
Batches of changes, one after the other: the document stays well-formed, its records are
taken, and the engine is told of them and followed until it is idle, whatever the time.
-/
inductive Batches (doc : Document) (engine : Engine Nat Nat κ) :
    List (List Change) → Document → Engine Nat Nat κ → Prop
  | none : Batches doc engine [] doc engine
  | next {batches : List (List Change)} {now : Document} {current : Engine Nat Nat κ}
      (h : Batches doc engine batches now current) (changes : List Change)
      (hformed : (now.changeAll changes).WellFormed) (clock : κ) {last : Outcome Nat Nat κ}
      (hlast : Rests (now.changeAll changes).takeRecords.2.page
        ({ current with clock := clock }.changed (now.changeAll changes).takeRecords.2.page
          (now.changeAll changes).takeRecords.1) last) :
      Batches doc engine (batches ++ [changes]) (now.changeAll changes).takeRecords.2 last.engine

/-- After every batch the engine is up to date. -/
theorem Batches.upToDate (h : UpToDate patterns doc engine) {batches : List (List Change)}
    {now : Document}
    {last : Engine Nat Nat κ} (hbatches : Batches doc engine batches now last) :
    UpToDate patterns now last := by
  induction hbatches with
  | none => exact h
  | @next batches now current _ changes hformed clock last hlast ih =>
    have hretimed : UpToDate patterns now { current with clock := clock } :=
      ⟨ih.phase, ih.registered, ih.never, ih.single, ih.formed, ih.observed, ih.tracks⟩
    rw [Document.takeRecords_eq, Document.page_telling] at hlast
    exact hretimed.changed hformed hlast

omit [Clock κ] in
/-- A settled engine is up to date as soon as the document is observed for it. -/
theorem Settled.upToDate (h : Settled doc.page engine)
    (hnever : engine.config.selectorHiding = .never) (hsingle : SinglePatterns engine.patterns)
    (hformed : doc.WellFormed) :
    UpToDate engine.patterns (doc.observe engine.observeOptions) engine := by
  rw [Document.observe_eq]
  refine ⟨h.phase, rfl, hnever, hsingle, hformed.telling _ _, rfl, ?_⟩
  rw [Document.page_telling]
  exact .of_collects doc.page_orderly (hformed.nested hnever hsingle) h.collects

/-! ### From scratch -/

omit [Clock κ] in
/-- What patterns hit is a matter of their chains. -/
theorem exists_hit_iff {config : Config} (hnever : config.selectorHiding = .never)
    {patterns : List Pattern} {n : Nat} :
    (∃ hit ∈ hitsOf config doc.page patterns, hit.node = n) ↔
      ∃ chain ∈ patterns.map Pattern.chain, ∃ anchors, chain.FindsBy doc anchors n := by
  constructor
  · rintro ⟨hit, hhit, rfl⟩
    obtain ⟨hpattern, hhit⟩ := mem_hitsOf.mp hhit
    exact ⟨_, List.mem_map_of_mem hpattern, _, ((Pattern.mem_hits_iff hnever).mp hhit).2⟩
  · rintro ⟨chain, hchain, anchors, hfinds⟩
    obtain ⟨pattern, hpattern, rfl⟩ := List.mem_map.mp hchain
    exact ⟨⟨pattern, anchors, n⟩,
      mem_hitsOf.mpr ⟨hpattern, (Pattern.mem_hits_iff hnever).mpr ⟨rfl, hfinds⟩⟩, rfl⟩

/-- Sources are read as the same chains whatever numbers their patterns get. -/
theorem registration_chains (sources : List PatternSource) (serial other : Nat) :
    (registration serial sources).1.map Pattern.chain =
      (registration other sources).1.map Pattern.chain := by
  induction sources generalizing serial other with
  | nil => rfl
  | cons source rest ih =>
    simp only [registration]
    split
    · exact ih serial other
    · exact ih serial other
    · exact congrArg (_ :: ·) (ih (serial + 1) (other + 1))

/-- What an engine hides that has done nothing before. -/
theorem mem_hidden_apply {config : Config} {clock : κ} {sources : List PatternSource}
    {fresh : Outcome Nat Nat κ}
    (hfresh : Rests doc.page ((Engine.new config clock).apply doc.page sources) fresh) {n : Nat} :
    n ∈ fresh.engine.hiddenElements ↔
      ∃ hit ∈ hitsOf config doc.page (registration 0 sources).1, hit.node = n := by
  obtain ⟨known, hnew⟩ := meetAll_consistent (S := Nat) (N := Nat) config clock []
  obtain ⟨more, hconsistent⟩ := hnew.given sources
  by_cases hnone : ((Engine.new config clock : Engine Nat Nat κ).given sources).patterns.isEmpty
  · obtain ⟨hengine, hwake⟩ := apply_of_isEmpty doc.page hnone
    have hnil : (registration 0 sources).1 = [] := List.isEmpty_iff.mp hnone
    rw [hfresh.eq_of_none hwake, hengine, hnil]
    simp [hitsOf, hiddenElements, given, Engine.new, MatchTable.nodes]
  · -- The effects told in front and behind do not matter.
    obtain ⟨hengine, hwake⟩ := apply_of_not_isEmpty doc.page hnone
    obtain ⟨last, hlast, heq⟩ := hfresh.retold _ hengine.symm hwake.symm
    have hreports := hlast.reports (request_pursues doc.page rfl .full)
    have hsettled := settled_of_full doc.page_lawful hconsistent hreports
    rw [← heq]
    have hcollects := hsettled.collects
    rw [hreports.patterns, hitsOf_congr hreports.reports] at hcollects
    exact hcollects.mem_nodes

/-! ### The same in the end -/

/--
**Filtering step by step agrees with filtering from scratch.**  A reachable engine whose
patterns have one `has` at most, and no `properties`, has completed a full run on a
well-formed document.  Then after any batches of changes it hides the elements that a fresh
engine hides which is given the same patterns and the document as it is now.
-/
theorem batches_agree_with_fresh {κ' : Type} [Clock κ'] (doc : Document) (config : Config)
    (clock : κ) (events : List (Event Nat Nat κ)) (sources : List PatternSource) (serial : Nat)
    {first : Outcome Nat Nat κ}
    (hsources : ((Engine.new config clock).meetAll events).engine.patterns =
      (registration serial sources).1)
    (hsingle : ∀ p ∈ (registration serial sources).1, p.chain.SingleHas)
    (hnever : ((Engine.new config clock).meetAll events).engine.config.selectorHiding = .never)
    (hformed : doc.WellFormed)
    (hfull : Execution doc.page
      (((Engine.new config clock).meetAll events).engine.startRun doc.page .full) first)
    {batches : List (List Change)} {now : Document} {last : Engine Nat Nat κ}
    (hbatches : Batches (doc.observe first.engine.observeOptions) first.engine batches now last)
    {freshConfig : Config} (hfreshNever : freshConfig.selectorHiding = .never) {freshClock : κ'}
    {fresh : Outcome Nat Nat κ'}
    (hfresh : Rests now.page ((Engine.new freshConfig freshClock).apply now.page sources) fresh)
    (n : Nat) : n ∈ last.hiddenElements ↔ n ∈ fresh.engine.hiddenElements := by
  obtain ⟨known, hconsistent⟩ := meetAll_consistent config clock events
  have hreports := hfull.reports (startRun_onTheWay doc.page _ .full)
  have hsettled := settled_of_full doc.page_lawful hconsistent hreports
  have hregistered := hreports.patterns.trans hsources
  have hpatterns : SinglePatterns first.engine.patterns := by
    refine ⟨hsettled.distinct, hregistered ▸ hsingle, fun p hp => ?_⟩
    rw [hreports.patterns] at hp
    obtain ⟨selector, hread⟩ := hconsistent.stock.read p (hconsistent.patterns p hp)
    exact Chain.apart_parse hread
  have hfirst := hreports.reports.selectorHiding.trans hnever
  have hlast := hbatches.upToDate (hsettled.upToDate hfirst hpatterns hformed)
  rw [mem_hidden_apply hfresh, exists_hit_iff hfreshNever, registration_chains sources 0 serial,
    ← hregistered, ← hlast.registered, ← exists_hit_iff hlast.never]
  exact hlast.tracks.mem_nodes

/-- A pattern for boxes with paragraphs in them. -/
def boxSources : List PatternSource :=
  [⟨"div:-abp-has(p)", "boxes"⟩]

theorem registration_boxSources :
    (registration 0 boxSources).1 = [⟨0, [.plain "div", .has [.plain "p"]], "boxes"⟩] := by
  have hargument : readLinks "div:-abp-has(p)" ['p'] = .ok [.plain "p"] := by
    rw [readLinks]
    rfl
  have hend : readLinks "div:-abp-has(p)" [] = .ok [] := by
    rw [readLinks]
    rfl
  have hfound : findPseudo? "div:-abp-has(p)".toList =
      some ⟨"div".toList, .has, "-abp-has".toList, "p)".toList⟩ := rfl
  have hclose : closeArgument? .top "p)".toList = some (['p'], []) := rfl
  have hread : readLinks "div:-abp-has(p)" "div:-abp-has(p)".toList =
      .ok [.plain "div", .has [.plain "p"]] := by
    rw [readLinks, if_neg (by decide)]
    split
    · rename_i hnone
      exact absurd (hfound.symm.trans hnone) (by simp)
    · rename_i found hsome
      obtain rfl := Option.some.inj (hfound.symm.trans hsome)
      split
      · rename_i hnone
        exact absurd (hclose.symm.trans hnone) (by simp)
      · rename_i argument after hsome
        obtain ⟨rfl, rfl⟩ := Prod.mk.inj (Option.some.inj (hclose.symm.trans hsome))
        simp only [hargument, hend]
        rfl
  have hlinks : (Chain.read "div:-abp-has(p)").links =
      .ok [.plain "div", .has [.plain "p"]] := by
    unfold Chain.read
    rw [hread]
    rfl
  simp only [boxSources, registration, hlinks]

/-- A box is hidden for the paragraph in it, and the paragraph is removed. -/
theorem batches_agree_with_fresh_box :
    ∃ (first fresh : Outcome Nat Nat PausedClock) (now : Document)
      (last : Engine Nat Nat PausedClock),
      Execution boxDocument.page
        (((Engine.new Config.default ⟨.zero⟩).meetAll
          [.called boxDocument.page (.apply boxSources)]).engine.startRun
            boxDocument.page .full) first ∧
      Batches (boxDocument.observe first.engine.observeOptions) first.engine [[.remove 3]] now
        last ∧
      Rests now.page ((Engine.new Config.default ⟨.zero⟩).apply now.page boxSources) fresh ∧
      ∀ n, n ∈ last.hiddenElements ↔ n ∈ fresh.engine.hiddenElements := by
  let engine : Engine Nat Nat PausedClock := ((Engine.new Config.default ⟨.zero⟩).meetAll
    [.called boxDocument.page (.apply boxSources)]).engine
  have hregisters := apply_registers boxDocument.page
    (show (Engine.new Config.default ⟨.zero⟩ : Engine Nat Nat PausedClock).phase = .idle from rfl)
    boxSources
  have hsources : engine.patterns = (registration 0 boxSources).1 := hregisters.1
  obtain ⟨first, hfull⟩ := exists_execution boxDocument.page engine .full
  have hreports := hfull.reports (startRun_onTheWay boxDocument.page _ .full)
  have hoptions : first.engine.observeOptions = ⟨true, false, false, true, false⟩ := by
    unfold observeOptions
    rw [hreports.patterns, hsources, registration_boxSources]
    rfl
  let after := (boxDocument.observe first.engine.observeOptions).changeAll [.remove 3]
  have hafter : after.WellFormed := by
    simp only [after, hoptions]
    decide
  obtain ⟨last, hlast⟩ := exists_rests_changed after.takeRecords.2.page hreports.phase
    after.takeRecords.1
  have hbatches := Batches.none.next [.remove 3] hafter first.engine.clock hlast
  obtain ⟨fresh, hfresh⟩ := exists_rests_apply after.takeRecords.2.page
    (show (Engine.new Config.default ⟨.zero⟩ : Engine Nat Nat PausedClock).phase = .idle from rfl)
    boxSources
  refine ⟨first, fresh, _, _, hfull, hbatches, hfresh,
    batches_agree_with_fresh boxDocument _ _ _ boxSources 0 hsources ?_ ?_ (by decide) hfull
      hbatches rfl hfresh⟩
  · rw [registration_boxSources]
    exact List.forall_mem_singleton.mpr (.has (some "div") none [.plain "p"] rfl (by simp))
  · exact hregisters.2.selectorHiding

end Engine

end CosmeticFilter
