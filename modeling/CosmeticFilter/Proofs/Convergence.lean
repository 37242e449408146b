/-
Applying patterns forgets what was before.

An engine can be given new patterns in any state: while it waits for something, or in the
middle of a run of earlier patterns whose findings are still to be entered.  What the new
patterns ask for is a full request, which absorbs all that is queued.  It waits until a run
takes it up, and this run keeps nothing of the table but what it has found itself.

So the way from there is told in three stages: a full request waits, or its run is under
way, or the engine is settled on all the hits there are.  Wake-ups lead from stage to stage
on a page that stays the same; those that nobody waits for lead nowhere.
-/
import CosmeticFilter.Proofs.Incremental
import CosmeticFilter.Proofs.Waking

namespace CosmeticFilter

/-! ### What sources find -/

/-- What an evaluation may look at that has no targets and the styles of all sheets. -/
def Document.scene (doc : Document) : Scene Nat Nat :=
  ⟨doc.page, doc.page.styles doc.page.sheets, none⟩

/-- Some selector that the evaluation of the chain gives finds the element. -/
def Chain.FindsOn (doc : Document) (chain : Chain) (n : Nat) : Prop :=
  ∃ limit selector anchors,
    .found selector anchors ∈ (Evaluation.pulls doc.scene limit
      (.start doc.scene.styles chain "" doc.page.document)).1 ∧ doc.Finds selector n

/-- Pulls give what the items of the chain say. -/
theorem Evaluation.exists_pulls_iff {N S : Type} [DecidableEq N] {scene : Scene N S}
    {chain : Chain} {before : String} {scope : N} {selector : String} {anchors : List N} :
    (∃ limit, .found selector anchors ∈
      (pulls scene limit (.start scene.styles chain before scope)).1) ↔
      (selector, anchors) ∈ founds (items scene chain before scope) := by
  have hpulls : ∀ limit, (pulls scene limit (.start scene.styles chain before scope)).1 =
      (items scene chain before scope).take limit := by
    intro limit
    rw [pulls_eq_take]
    exact congrArg (List.take limit) (left_start scene chain before scope)
  constructor
  · rintro ⟨limit, hfound⟩
    rw [hpulls] at hfound
    exact List.mem_filterMap.mpr ⟨_, List.mem_of_mem_take hfound, rfl⟩
  · intro hfound
    obtain ⟨item, hitem, heq⟩ := List.mem_filterMap.mp hfound
    cases item with
    | pause => simp [Item.found?] at heq
    | found other more =>
      obtain ⟨rfl, rfl⟩ := Prod.mk.inj (Option.some.inj heq)
      refine ⟨(items scene chain before scope).length, ?_⟩
      rw [hpulls, List.take_length]
      exact hitem

theorem Chain.findsOn_iff {doc : Document} {chain : Chain} {n : Nat} :
    chain.FindsOn doc n ↔ ∃ anchors, chain.FindsBy doc anchors n := by
  unfold FindsOn
  constructor
  · rintro ⟨limit, selector, anchors, hfound, hfinds⟩
    exact ⟨anchors, selector, Evaluation.exists_pulls_iff.mp ⟨limit, hfound⟩, hfinds⟩
  · rintro ⟨anchors, selector, hfound, hfinds⟩
    obtain ⟨limit, hpulled⟩ := Evaluation.exists_pulls_iff.mpr hfound
    exact ⟨limit, selector, anchors, hpulled, hfinds⟩

/-- The empty text is no selector. -/
theorem Document.not_finds_empty (doc : Document) (n : Nat) : ¬ doc.Finds "" n := by
  rintro ⟨nodes, hquery, -⟩
  have htrimmed : Text.trimmed "" = "" := rfl
  have hlist : Family.queryList (Text.trimmed "") = [⟨[], []⟩] := by
    rw [htrimmed, Family.queryList, if_neg (by simp), SelectorList.parse, SelectorList.split,
      splitFrom_single _ (by simp), List.map_cons, List.map_nil, List.map_cons, List.map_nil]
    exact congrArg (fun sel => [sel]) Complex.parse_empty
  rw [Document.queryAll_eq, hlist] at hquery
  simp [SelectorList.isSupported, Complex.isSupported, Complex.compounds] at hquery

/-- A chain without links gives the empty text. -/
theorem Chain.not_findsOn_nil (doc : Document) (n : Nat) : ¬ Chain.FindsOn doc [] n := by
  intro hfinds
  obtain ⟨anchors, selector, hfound, hfinds⟩ := Chain.findsOn_iff.mp hfinds
  obtain ⟨rfl, -⟩ : selector = "" ∧ anchors = [] := by
    simpa [Evaluation.items, founds, Item.found?] using hfound
  exact doc.not_finds_empty n hfinds

/-- What the hits of a pattern are about. -/
theorem Pattern.exists_hit_iff {config : Config} (hnever : config.selectorHiding = .never)
    {doc : Document} {pattern : Pattern} {n : Nat} :
    (∃ hit ∈ pattern.hits config doc.page, hit.node = n) ↔ pattern.chain.FindsOn doc n := by
  rw [Chain.findsOn_iff]
  constructor
  · rintro ⟨hit, hhit, rfl⟩
    exact ⟨hit.anchors, ((Pattern.mem_hits_iff hnever).mp hhit).2⟩
  · rintro ⟨anchors, hfinds⟩
    exact ⟨⟨pattern, anchors, n⟩, (Pattern.mem_hits_iff hnever).mpr ⟨rfl, hfinds⟩, rfl⟩

/-- The selector of the source can be read. -/
def PatternSource.parses (source : PatternSource) : Bool :=
  (Chain.parse source.selector).toOption.isSome

namespace Engine

/-- A pattern is registered for each source whose chain is not empty. -/
theorem mem_chains_registration {serial : Nat} {sources : List PatternSource} {chain : Chain} :
    chain ∈ (registration serial sources).1.map Pattern.chain ↔
      chain ≠ [] ∧ ∃ source ∈ sources, Chain.parse source.selector = .ok chain := by
  induction sources generalizing serial with
  | nil => simp [registration]
  | cons source rest ih =>
    have hparse : (Chain.read source.selector).links = Chain.parse source.selector := rfl
    rw [registration]
    simp only [hparse]
    split
    · rename_i hread
      simp [ih, hread]
    · rename_i hread
      rw [ih]
      simp only [List.exists_mem_cons_iff, hread, Except.ok.injEq]
      tauto
    · rename_i read hne hread
      have hnil : read ≠ [] := fun hnil => hne (hnil ▸ rfl)
      rw [List.map_cons, List.mem_cons, ih]
      simp only [List.exists_mem_cons_iff, hread, Except.ok.injEq]
      constructor
      · rintro (rfl | ⟨hchain, hmore⟩)
        · exact ⟨hnil, Or.inl rfl⟩
        · exact ⟨hchain, Or.inr hmore⟩
      · rintro ⟨hchain, rfl | hmore⟩
        · exact Or.inl rfl
        · exact Or.inr ⟨hchain, hmore⟩

/-- A source that cannot be read gets no pattern, and no number. -/
theorem registration_filter (serial : Nat) (sources : List PatternSource) :
    (registration serial (sources.filter PatternSource.parses)).1 =
      (registration serial sources).1 := by
  induction sources generalizing serial with
  | nil => rfl
  | cons source rest ih =>
    have hparse : (Chain.read source.selector).links = Chain.parse source.selector := rfl
    by_cases hsource : source.parses = true
    · rw [List.filter_cons_of_pos hsource, registration, registration]
      simp only
      split
      · exact ih serial
      · exact ih serial
      · exact congrArg (_ :: ·) (ih (serial + 1))
    · rw [List.filter_cons_of_neg hsource, ih, registration]
      simp only [hparse]
      unfold PatternSource.parses at hsource
      cases hread : Chain.parse source.selector with
      | error e => rfl
      | ok chain => simp [hread, Except.toOption] at hsource

/-! ### From the request to the settled engine -/

section Stages

variable {S N κ : Type} [DecidableEq N] [Clock κ] {page : Page N S} {engine : Engine S N κ}

/-- The stages of a full request, from when it was made until its run is completed. -/
inductive Converging (page : Page N S) (engine : Engine S N κ) : Prop
  | waiting (hqueued : engine.queued = some .full)
  | running (run : Run N) (hphase : engine.phase = .running run none)
      (hrun : run.completed engine.config page = engine.runOf page .full)
  | settled (h : Settled page engine)

omit [Clock κ] in
/-- A full run on its way, with nothing queued behind it. -/
theorem OnTheWay.converging (h : page.Lawful) {known : Pattern → Prop}
    (hconsistent : Consistent known engine) {outcome : Outcome S N κ}
    (hway : OnTheWay page engine (engine.runOf page .full) outcome)
    (hqueued : outcome.engine.queued = none) : Converging page outcome.engine := by
  cases hway with
  | reports _ hreports => exact .settled (settled_of_full h hconsistent hreports)
  | heads _ hheads =>
    obtain ⟨run, queued, hphase, hrun⟩ := hheads.running
    obtain rfl : queued = none := by simpa [Engine.queued, hphase] using hqueued
    refine .running run hphase ?_
    rw [Run.completed_congr hheads.reports, hrun]
    exact runOf_congr page hheads.patterns.symm hheads.reports.symm .full

theorem converging_startRun (h : page.Lawful) {known : Pattern → Prop}
    (hconsistent : Consistent known engine) :
    Converging page (engine.startRun page .full).engine :=
  (startRun_onTheWay page engine .full).converging h hconsistent
    (startRun_queued page engine .full)

theorem converging_startWhenReady (h : page.Lawful) {known : Pattern → Prop}
    (hconsistent : Consistent known engine) :
    Converging page (engine.startWhenReady page .full).engine := by
  unfold startWhenReady
  split
  · exact .waiting rfl
  · exact converging_startRun h hconsistent

theorem converging_takeUp (h : page.Lawful) {known : Pattern → Prop}
    (hconsistent : Consistent known engine) :
    Converging page (engine.takeUp page .full).engine := by
  unfold takeUp
  simp only
  split
  · exact .waiting rfl
  · have hretimed := hconsistent.retimed engine.config (Clock.now engine.clock).2
    exact converging_startWhenReady h hretimed

/-- **A full request absorbs** whatever the engine is doing. -/
theorem converging_request (h : page.Lawful) {known : Pattern → Prop}
    (hconsistent : Consistent known engine) :
    Converging page (engine.request page .full).engine := by
  have hmerge : ∀ waiting : Request S N, waiting.merge .full = .full := by
    intro waiting
    cases waiting <;> rfl
  unfold Engine.request
  cases hphase : engine.phase with
  | idle => exact converging_takeUp h hconsistent
  | debouncing waiting => exact .waiting (congrArg some (hmerge waiting))
  | awaitingReady waiting => exact .waiting (congrArg some (hmerge waiting))
  | running run queued =>
    refine .waiting (congrArg some ?_)
    cases queued with
    | none => rfl
    | some waiting => exact hmerge waiting

theorem Converging.timerFired (h : page.Lawful) (hconverging : Converging page engine)
    {known : Pattern → Prop} (hconsistent : Consistent known engine) :
    Converging page (engine.timerFired page).engine := by
  unfold Engine.timerFired
  split
  · rename_i request hphase
    have hidle : Consistent known { engine with phase := .idle } :=
      hconsistent.waits engine.config engine.clock rfl
    cases hconverging with
    | waiting hqueued =>
      obtain rfl : request = .full := by simpa [queued, hphase] using hqueued
      exact converging_startWhenReady h hidle
    | running run hrunning => simp [hphase] at hrunning
    | settled hsettled => simpa [hphase] using hsettled.phase
  · exact hconverging

theorem Converging.documentReady (h : page.Lawful) (hconverging : Converging page engine)
    {known : Pattern → Prop} (hconsistent : Consistent known engine) :
    Converging page (engine.documentReady page).engine := by
  unfold Engine.documentReady
  split
  · rename_i request hphase
    have hidle : Consistent known { engine with phase := .idle } :=
      hconsistent.waits engine.config engine.clock rfl
    cases hconverging with
    | waiting hqueued =>
      obtain rfl : request = .full := by simpa [queued, hphase] using hqueued
      exact converging_startRun h hidle
    | running run hrunning => simp [hphase] at hrunning
    | settled hsettled => simpa [hphase] using hsettled.phase
  · exact hconverging

/-- A slice, of an earlier run behind which the request waits, or of its own run. -/
theorem Converging.resume (h : page.Lawful) (hconverging : Converging page engine)
    {known : Pattern → Prop} (hconsistent : Consistent known engine) :
    Converging page (engine.resume page).engine := by
  cases hphase : engine.phase with
  | idle | debouncing | awaitingReady => simpa [Engine.resume, hphase] using hconverging
  | running run queued =>
    cases hconverging with
    | waiting hqueued =>
      obtain rfl : queued = some .full := by simpa [Engine.queued, hphase] using hqueued
      have hslice := (hconsistent.running run _ hphase).slice page engine.config engine.clock
      unfold Engine.resume workOn
      simp only [hphase]
      split
      · have hfinished := (hconsistent.retimed engine.config
          (run.slice page engine.config engine.clock).2.2.1).finishRun page hslice
        exact converging_takeUp h hfinished
      · exact .waiting rfl
    | running other hrunning hrun =>
      obtain ⟨rfl, rfl⟩ := Phase.running.inj (hphase.symm.trans hrunning)
      have hresume : engine.resume page = engine.workOn page run none .quiet := by
        unfold Engine.resume
        simp only [hphase]
      have hqueued : (engine.workOn page run none .quiet).engine.queued = none := by
        unfold workOn
        simp only
        split <;> rfl
      rw [hresume]
      exact (hrun ▸ workOn_onTheWay page engine run none).converging h hconsistent hqueued
    | settled hsettled =>
      have hidle := hsettled.phase
      simp [hphase] at hidle

/-! ### Following the wake-ups -/

/-- A consistent engine with these patterns and settings, in one of the stages. -/
structure Converges (page : Page N S) (patterns : List Pattern) (config : Config)
    (engine : Engine S N κ) : Prop where
  consistent : ∃ known, Consistent known engine
  patterns : engine.patterns = patterns
  config : engine.config = config
  stage : Converging page engine

variable {patterns : List Pattern} {config : Config}

/-- Wake-ups leave the patterns alone, and the settings. -/
theorem terms_meet (engine : Engine S N κ) {event : Event S N κ} (hwakes : event.Wakes page) :
    (engine.meet event).engine.patterns = engine.patterns ∧
      (engine.meet event).engine.config = engine.config := by
  have hcall : ∀ call : Call S N, engine.heard call = engine →
      (engine.call page call).engine.patterns = engine.patterns ∧
        (engine.call page call).engine.config = engine.config := by
    intro call hheard
    have hterms := (call_moves page engine call).terms
    rw [hheard] at hterms
    exact ⟨hterms.1, hterms.2.2⟩
  cases hwakes with
  | clockMoved clock => exact ⟨rfl, rfl⟩
  | timerFired => exact hcall .timerFired rfl
  | documentReady => exact hcall .documentReady rfl
  | resume => exact hcall .resume rfl

/-- **A wake-up**, or time that passes, leads from one stage to another. -/
theorem Converges.meet (h : page.Lawful) (hconverges : Converges page patterns config engine)
    {event : Event S N κ} (hwakes : event.Wakes page) :
    Converges page patterns config (engine.meet event).engine := by
  obtain ⟨known, hconsistent⟩ := hconverges.consistent
  obtain ⟨hpatterns, hconfig⟩ := terms_meet engine hwakes
  refine ⟨hconsistent.meet event, hpatterns.trans hconverges.patterns,
    hconfig.trans hconverges.config, ?_⟩
  cases hwakes with
  | clockMoved clock =>
    cases hconverges.stage with
    | waiting hqueued => exact .waiting hqueued
    | running run hphase hrun => exact .running run hphase hrun
    | settled hsettled => exact .settled ⟨hsettled.phase, hsettled.distinct, hsettled.collects⟩
  | timerFired => exact hconverges.stage.timerFired h hconsistent
  | documentReady => exact hconverges.stage.documentReady h hconsistent
  | resume => exact hconverges.stage.resume h hconsistent

theorem Converges.meetAll (h : page.Lawful) (hconverges : Converges page patterns config engine)
    {events : List (Event S N κ)} (hwakes : ∀ event ∈ events, event.Wakes page) :
    Converges page patterns config (engine.meetAll events).engine := by
  induction events using List.reverseRecOn with
  | nil => exact hconverges
  | append_singleton events event ih =>
    rw [meetAll_concat]
    have hearlier := ih fun other hother => hwakes other (List.mem_append_left _ hother)
    exact hearlier.meet h (hwakes event (List.mem_append_right _ (List.mem_singleton.mpr rfl)))

omit [Clock κ] in
/-- When the engine is idle again it is settled. -/
theorem Converges.settled_of_idle (hconverges : Converges page patterns config engine)
    (hidle : engine.phase = .idle) : Settled page engine := by
  cases hconverges.stage with
  | waiting hqueued => simp [queued, hidle] at hqueued
  | running run hphase => simp [hidle] at hphase
  | settled hsettled => exact hsettled

/-- Giving patterns to an engine in any state is the first stage. -/
theorem converges_apply (h : page.Lawful) {known : Pattern → Prop}
    (hconsistent : Consistent known engine) {sources : List PatternSource}
    (hsome : (registration engine.nextSerial sources).1 ≠ []) :
    Converges page (registration engine.nextSerial sources).1 engine.config
      (engine.apply page sources).engine := by
  have hfilled : ¬(engine.given sources).patterns.isEmpty = true := by
    simpa [given] using hsome
  obtain ⟨more, hgiven⟩ := hconsistent.given sources
  have hmoves := request_moves page (engine.given sources) .full
  obtain ⟨hpatterns, -, hconfig⟩ := hmoves.terms
  rw [(apply_of_not_isEmpty page hfilled).1]
  exact ⟨⟨more, hgiven.moves hmoves⟩, hpatterns, hconfig, converging_request h hgiven⟩

/-- Sources that cannot be read make no difference but for the notes about them. -/
theorem apply_filter (page : Page N S) (engine : Engine S N κ) (sources : List PatternSource) :
    (engine.apply page (sources.filter PatternSource.parses)).engine =
        (engine.apply page sources).engine ∧
      (engine.apply page (sources.filter PatternSource.parses)).wake =
        (engine.apply page sources).wake ∧
      decisions (engine.apply page (sources.filter PatternSource.parses)).effects =
        decisions (engine.apply page sources).effects := by
  unfold apply
  simp only [registration_filter, Outcome.after, decisions_append, decisions_notes,
    List.nil_append, and_self]

end Stages

/-! ### What is hidden in the end -/

variable {κ : Type} {doc : Document}

/--
The engine hides what the sources find, and for each of these elements it has recorded, once
each, the patterns registered for them that find it.
-/
structure FromScratch (doc : Document) (sources : List PatternSource) (serial : Nat)
    (engine : Engine Nat Nat κ) : Prop where
  hidden : ∀ n, n ∈ engine.hiddenElements ↔ ∃ source ∈ sources, ∃ chain,
    Chain.parse source.selector = .ok chain ∧ chain.FindsOn doc n
  distinct : ∀ entry ∈ engine.hidden, Match.Distinct entry.2
  recorded : ∀ entry ∈ engine.hidden, ∀ p, p ∈ entry.2.map Match.pattern ↔
    p ∈ (registration serial sources).1 ∧ p.chain.FindsOn doc entry.1

/-- An element is hit for the registered patterns that find it. -/
theorem exists_hitsOf_iff {engine : Engine Nat Nat κ}
    (hnever : engine.config.selectorHiding = .never) {n : Nat} {p : Pattern} :
    (∃ hit ∈ hitsOf engine.config doc.page engine.patterns, hit.node = n ∧ hit.pattern = p) ↔
      p ∈ engine.patterns ∧ p.chain.FindsOn doc n := by
  rw [← Pattern.exists_hit_iff hnever]
  constructor
  · rintro ⟨hit, hhit, hnode, rfl⟩
    obtain ⟨hpattern, hhit⟩ := mem_hitsOf.mp hhit
    exact ⟨hpattern, hit, hhit, hnode⟩
  · rintro ⟨hpattern, hit, hhit, hnode⟩
    have hsame := ((Pattern.mem_hits_iff hnever).mp hhit).1
    exact ⟨hit, mem_hitsOf.mpr ⟨hsame ▸ hpattern, hsame ▸ hhit⟩, hnode, hsame⟩

/-- Registered patterns are the chains that are not empty, and an empty one finds nothing. -/
theorem exists_registered_iff {sources : List PatternSource} {serial n : Nat} :
    (∃ p ∈ (registration serial sources).1, p.chain.FindsOn doc n) ↔
      ∃ source ∈ sources, ∃ chain, Chain.parse source.selector = .ok chain ∧
        chain.FindsOn doc n := by
  constructor
  · rintro ⟨p, hp, hfinds⟩
    obtain ⟨-, source, hsource, hparse⟩ := mem_chains_registration.mp (List.mem_map_of_mem hp)
    exact ⟨source, hsource, p.chain, hparse, hfinds⟩
  · rintro ⟨source, hsource, chain, hparse, hfinds⟩
    have hchain : chain ≠ [] := fun hnil => Chain.not_findsOn_nil doc n (hnil ▸ hfinds)
    have hregistered : chain ∈ (registration serial sources).1.map Pattern.chain :=
      mem_chains_registration.mpr ⟨hchain, source, hsource, hparse⟩
    obtain ⟨p, hp, rfl⟩ := List.mem_map.mp hregistered
    exact ⟨p, hp, hfinds⟩

section Settled

variable {engine : Engine Nat Nat κ} (h : Settled doc.page engine)

include h

/-- The patterns that are recorded for an element are those of its hits. -/
theorem Settled.mem_recorded_iff {n : Nat} {list : List (Match Nat)}
    (hentry : (n, list) ∈ engine.hidden) {p : Pattern} :
    p ∈ list.map Match.pattern ↔
      ∃ hit ∈ hitsOf engine.config doc.page engine.patterns, hit.node = n ∧ hit.pattern = p := by
  constructor
  · intro hp
    obtain ⟨m, hm, rfl⟩ := List.mem_map.mp hp
    have hmatch := h.collects.tidy.match?_of_mem hentry hm
    obtain ⟨hit, hhit, hnode, hpattern⟩ := h.collects.pattern n m.pattern m hmatch
    exact ⟨hit, hhit, hnode, hpattern⟩
  · rintro ⟨hit, hhit, hnode, rfl⟩
    obtain ⟨m, hmatch⟩ := (h.collects.found n hit.pattern).mpr ⟨hit, hhit, hnode, rfl⟩
    obtain ⟨other, hother, -, hpattern⟩ := h.collects.pattern n hit.pattern m hmatch
    -- Numbers tell the patterns apart.
    have hsame : m.pattern = hit.pattern := by
      rw [← hpattern]
      refine unique_of_mem_hitsOf h.distinct other hother hit hhit ?_
      rw [hpattern, MatchTable.match?_serial hmatch]
    obtain ⟨known, hknown, hfind⟩ := Option.bind_eq_some_iff.mp hmatch
    have hlist := MatchTable.matches?_of_mem h.collects.tidy.nodup hentry
    obtain rfl : list = known := Option.some.inj (hlist.symm.trans hknown)
    exact List.mem_map.mpr ⟨m, (Match.find?_serial hfind).1, hsame⟩

theorem Settled.mem_hiddenElements (hnever : engine.config.selectorHiding = .never) {n : Nat} :
    n ∈ engine.hiddenElements ↔ ∃ p ∈ engine.patterns, p.chain.FindsOn doc n := by
  rw [hiddenElements, h.collects.mem_nodes]
  constructor
  · rintro ⟨hit, hhit, hnode⟩
    exact ⟨hit.pattern, (exists_hitsOf_iff hnever).mp ⟨hit, hhit, hnode, rfl⟩⟩
  · rintro ⟨p, hp⟩
    obtain ⟨hit, hhit, hnode, -⟩ := (exists_hitsOf_iff hnever).mpr hp
    exact ⟨hit, hhit, hnode⟩

theorem Settled.fromScratch (hnever : engine.config.selectorHiding = .never)
    {sources : List PatternSource} {serial : Nat}
    (hpatterns : engine.patterns = (registration serial sources).1) :
    FromScratch doc sources serial engine where
  hidden n := by
    rw [h.mem_hiddenElements hnever, hpatterns]
    exact exists_registered_iff
  distinct := h.collects.tidy.distinct
  recorded := by
    rintro ⟨n, list⟩ hentry p
    rw [h.mem_recorded_iff hentry, exists_hitsOf_iff hnever, hpatterns]

end Settled

/--
**Applying patterns leads to what they find.**  An engine with any history is given sources,
one of which at least can be read as a chain that is not empty.  From then on the page stays
the same.  Whatever wake-ups are delivered, when the engine is idle it hides what the sources
find, for the patterns that it has now.  To follow the wake-ups it asks for makes it idle,
whatever the clock says.  Sources that cannot be read make no difference.
-/
theorem apply_converges [Clock κ] (doc : Document) (config : Config) (clock : κ)
    (events : List (Event Nat Nat κ)) (sources : List PatternSource) {engine : Engine Nat Nat κ}
    (hreached : ((Engine.new config clock).meetAll events).engine = engine)
    (hnever : engine.config.selectorHiding = .never)
    (hsome : ∃ source ∈ sources, ∃ chain, Chain.parse source.selector = .ok chain ∧ chain ≠ []) :
    let applied := engine.apply doc.page sources
    (∀ wakes, (∀ event ∈ wakes, event.Wakes doc.page) →
      (applied.engine.meetAll wakes).engine.phase = .idle →
        FromScratch doc sources engine.nextSerial (applied.engine.meetAll wakes).engine) ∧
    (∀ clocks : Nat → κ, ∃ steps,
      let wakes := wakeUps doc.page clocks steps applied.engine
      (∀ event ∈ wakes, event.Wakes doc.page) ∧
        (applied.engine.meetAll wakes).engine.phase = .idle) ∧
    let readable := engine.apply doc.page (sources.filter PatternSource.parses)
    readable.engine = applied.engine ∧ readable.wake = applied.wake ∧
      decisions readable.effects = decisions applied.effects := by
  obtain ⟨known, hconsistent⟩ := meetAll_consistent (S := Nat) (N := Nat) config clock events
  rw [hreached] at hconsistent
  have hregistered : (registration engine.nextSerial sources).1 ≠ [] := by
    obtain ⟨source, hsource, chain, hparse, hchain⟩ := hsome
    have hmem : chain ∈ (registration engine.nextSerial sources).1.map Pattern.chain :=
      mem_chains_registration.mpr ⟨hchain, source, hsource, hparse⟩
    exact fun hnil => by simp [hnil] at hmem
  have hstart := converges_apply doc.page_lawful hconsistent hregistered
  refine ⟨fun wakes hwakes hidle => ?_, fun clocks => ?_, apply_filter doc.page engine sources⟩
  · have hconverges := hstart.meetAll doc.page_lawful hwakes
    exact (hconverges.settled_of_idle hidle).fromScratch
      (hconverges.config ▸ hnever) hconverges.patterns
  · obtain ⟨steps, hidle⟩ := exists_idle doc.page clocks (engine.apply doc.page sources).engine
    exact ⟨steps, wakes_wakeUps doc.page clocks steps _, hidle⟩

/-- The pattern for boxes is applied again, and both runs are awaited. -/
theorem apply_converges_boxes :
    let engine : Engine Nat Nat PausedClock := ((Engine.new Config.default ⟨.zero⟩).meetAll
      [.called boxDocument.page (.apply boxSources)]).engine
    ∃ wakes, (∀ event ∈ wakes, event.Wakes boxDocument.page) ∧
      let last := ((engine.apply boxDocument.page boxSources).engine.meetAll wakes).engine
      last.phase = .idle ∧ FromScratch boxDocument boxSources engine.nextSerial last := by
  intro engine
  have hregisters := apply_registers boxDocument.page
    (show (Engine.new Config.default ⟨.zero⟩ : Engine Nat Nat PausedClock).phase = .idle from rfl)
    boxSources
  have hsome : ∃ source ∈ boxSources, ∃ chain,
      Chain.parse source.selector = .ok chain ∧ chain ≠ [] := by
    have hmem : [.plain "div", .has [.plain "p"]] ∈
        (registration 0 boxSources).1.map Pattern.chain := by
      rw [registration_boxSources]
      exact List.mem_singleton.mpr rfl
    obtain ⟨hchain, source, hsource, hparse⟩ := mem_chains_registration.mp hmem
    exact ⟨source, hsource, _, hparse, hchain⟩
  let start : PausedClock := ⟨.zero⟩
  obtain ⟨hfollowed, hidle, -⟩ := apply_converges boxDocument Config.default start
    [.called boxDocument.page (.apply boxSources)] boxSources rfl hregisters.2.selectorHiding hsome
  obtain ⟨steps, hwakes, hlast⟩ := hidle fun _ => start
  exact ⟨_, hwakes, hlast, hfollowed _ hwakes hlast⟩

end Engine

end CosmeticFilter
