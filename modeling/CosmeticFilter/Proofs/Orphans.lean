/-
No element stays hidden for patterns that are gone.

New patterns take the place of the old ones at once, but the matches of the old ones are still
recorded.  What drops them is a full run: it keeps no match that it has not found itself.  Such
a run is asked for when patterns are registered, so until it is over the engine is on its way:
the full request waits, or its run is under way, or only matches of the patterns allowed are
recorded.  An engine that is idle has come to the last of these.

There is one case in which no run is asked for: no selector that was given could be kept.  Then
the matches of the patterns before stay recorded, until a full run begins for another reason.
-/
import CosmeticFilter.Proofs.Convergence
import Mathlib

namespace CosmeticFilter

variable {S N κ : Type} [DecidableEq N]

/-! ### After a full run -/

/-- After a full run nothing is recorded but what it has found. -/
theorem Run.within_hiddenAfter_full {page : Page N S} {run : Run N} (hfull : run.full = true)
    {known allowed : Pattern → Prop} {next : Nat} (hstock : Stock known next)
    {hidden : MatchTable N} (htidy : hidden.Tidy) (hhidden : hidden.Within known)
    (hrun : run.findings.Within known) (hallowed : run.findings.Within allowed) :
    (run.hiddenAfter page hidden).Within allowed := by
  have hsame : ∀ n pattern m again, hidden.match? n pattern = some m →
      run.findings.matched.match? n pattern = some again → m.pattern = again.pattern := by
    intro n pattern m again hm hagain
    refine hstock.unique _ _ (hhidden n pattern m hm) (hrun.within n pattern again hagain) ?_
    rw [MatchTable.match?_serial hm, MatchTable.match?_serial hagain]
  intro n pattern m hm
  rw [match?_hiddenAfter_full page hfull htidy hallowed.tidy hsame] at hm
  exact hallowed.within n pattern m hm

variable [Clock κ]

theorem Run.full_slice (page : Page N S) (config : Config) (run : Run N) (clock : κ) :
    (run.slice page config clock).2.1.full = run.full := by
  unfold slice sliceFrom
  simp only
  split <;> rfl

namespace Engine

variable {page : Page N S} {engine : Engine S N κ} {known allowed : Pattern → Prop}

/-! ### The way to a clean table -/

/-- Only matches of allowed patterns are recorded, or found by the run that is under way. -/
structure Clean (allowed : Pattern → Prop) (engine : Engine S N κ) : Prop where
  hidden : engine.hidden.Within allowed
  running : ∀ run queued, engine.phase = .running run queued → run.Within allowed

/-- The table is clean, or it will be when the full run that is under way is over. -/
inductive Cleaning (allowed : Pattern → Prop) (engine : Engine S N κ) : Prop
  | running (run : Run N) (queued : Option (Request S N))
      (hphase : engine.phase = .running run queued) (hfull : run.full = true)
      (hrun : run.Within allowed)
  | clean (h : Clean allowed engine)

/-- The table is on its way to be clean; a full request may still have to wait. -/
def OnCourse (allowed : Pattern → Prop) (engine : Engine S N κ) : Prop :=
  engine.queued = some .full ∨ Cleaning allowed engine

omit [Clock κ] in
theorem Cleaning.clean_of_not_running (h : Cleaning allowed engine)
    (hphase : engine.phase.isRunning = false) : Clean allowed engine := by
  cases h with
  | running run queued hrunning => simp [hrunning, Phase.isRunning] at hphase
  | clean hclean => exact hclean

omit [Clock κ] in
/-- A clean table stays clean while the engine waits. -/
theorem Clean.waits (h : engine.hidden.Within allowed) (clock : κ) {phase : Phase S N}
    (hphase : phase.isRunning = false) :
    Clean allowed { engine with clock := clock, phase := phase } := by
  refine ⟨h, fun run queued hrunning => ?_⟩
  obtain rfl : phase = .running run queued := hrunning
  simp [Phase.isRunning] at hphase

omit [Clock κ] in
theorem Clean.mono (h : Clean allowed engine) {more : Pattern → Prop}
    (hmore : ∀ p, allowed p → more p) : Clean more engine where
  hidden n pattern m hm := hmore _ (h.hidden n pattern m hm)
  running run queued hphase := (h.running run queued hphase).mono hmore

omit [Clock κ] in
theorem OnCourse.mono (h : OnCourse allowed engine) {more : Pattern → Prop}
    (hmore : ∀ p, allowed p → more p) : OnCourse more engine := by
  rcases h with hqueued | ⟨run, queued, hphase, hfull, hrun⟩ | hclean
  · exact .inl hqueued
  · exact .inr (.running run queued hphase hfull (hrun.mono hmore))
  · exact .inr (.clean (hclean.mono hmore))

/-- **Every move** of an engine whose patterns are allowed leads on. -/
theorem Cleaning.moves {effects : List (Effect N)} {other : Engine S N κ}
    (h : Cleaning allowed engine) (hconsistent : Consistent known engine)
    (hpatterns : ∀ p ∈ engine.patterns, allowed p) (hmoves : Moves page engine effects other) :
    Cleaning allowed other := by
  induction hmoves with
  | tells => exact h
  | retimed engine clock =>
    cases h with
    | running run queued hphase hfull hrun => exact .running run queued hphase hfull hrun
    | clean hclean => exact .clean ⟨hclean.hidden, hclean.running⟩
  | @waits engine hphase _ hwaits =>
    exact .clean (Clean.waits (h.clean_of_not_running hphase).hidden engine.clock hwaits)
  | @queues engine run before hphase after =>
    cases h with
    | running other queued hrunning hfull hrun =>
      obtain ⟨rfl, -⟩ := Phase.running.inj (hphase.symm.trans hrunning)
      exact .running run after rfl hfull hrun
    | clean hclean =>
      refine .clean ⟨hclean.hidden, fun other queued hrunning => ?_⟩
      obtain ⟨rfl, -⟩ := Phase.running.inj hrunning
      exact hclean.running run before hphase
  | @begins engine hphase request =>
    refine .clean ⟨(h.clean_of_not_running hphase).hidden, fun run queued hrunning => ?_⟩
    obtain ⟨rfl, -⟩ := Phase.running.inj hrunning
    exact within_ofRequest hpatterns page request
  | @sliced engine run queued hphase =>
    cases h with
    | running other before hrunning hfull hrun =>
      obtain ⟨rfl, -⟩ := Phase.running.inj (hphase.symm.trans hrunning)
      refine .running _ queued rfl ?_ (hrun.slice page engine.config engine.clock)
      rw [Run.full_slice, hfull]
    | clean hclean =>
      refine .clean ⟨hclean.hidden, fun other before hrunning => ?_⟩
      obtain ⟨rfl, -⟩ := Phase.running.inj hrunning
      exact (hclean.running run queued hphase).slice page engine.config engine.clock
  | @finished engine run queued hphase =>
    have hknown := hconsistent.running run queued hphase
    refine .clean ⟨?_, fun other before hrunning => by simp [finishRun] at hrunning⟩
    cases h with
    | running other before hrunning hfull hrun =>
      -- A full run drops whatever was recorded before.
      obtain ⟨rfl, -⟩ := Phase.running.inj (hphase.symm.trans hrunning)
      exact Run.within_hiddenAfter_full hfull hconsistent.stock hconsistent.tidy
        hconsistent.hidden hknown.findings hrun.findings
    | clean hclean =>
      exact Run.within_hiddenAfter (hclean.running run queued hphase) page hconsistent.tidy
        hclean.hidden
  | append hmoves _ ih ihlast =>
    have hterms := hmoves.terms
    exact ihlast (ih h hconsistent hpatterns) (hconsistent.moves hmoves)
      fun p hp => hpatterns p (hterms.1 ▸ hp)

/-! ### Requests that are taken up -/

section TakingUp

variable (hconsistent : Consistent known engine) (hpatterns : ∀ p ∈ engine.patterns, allowed p)
  {request : Request S N} (hclean : request = .full ∨ engine.hidden.Within allowed)

include hconsistent hpatterns hclean

/-- A run that begins is full, or the table is clean already. -/
theorem startRun_cleaning (page : Page N S) :
    Cleaning allowed (engine.startRun page request).engine := by
  have hrun := within_ofRequest hpatterns page request
  have hbegun : Cleaning allowed (engine.begin page request) := by
    rcases hclean with rfl | hhidden
    · exact .running _ none rfl rfl hrun
    · refine .clean ⟨hhidden, fun other queued hrunning => ?_⟩
      obtain ⟨rfl, -⟩ := Phase.running.inj hrunning
      exact hrun
  have hknown := within_ofRequest hconsistent.patterns page request
  exact hbegun.moves (hconsistent.runs engine.clock hknown none) hpatterns
    (begin_moves page engine request)

theorem startWhenReady_onCourse (page : Page N S) :
    OnCourse allowed (engine.startWhenReady page request).engine := by
  unfold startWhenReady
  split
  · rcases hclean with rfl | hhidden
    · exact .inl rfl
    · exact .inr (.clean (Clean.waits hhidden engine.clock rfl))
  · exact .inr (startRun_cleaning hconsistent hpatterns hclean page)

theorem takeUp_onCourse (page : Page N S) :
    OnCourse allowed (engine.takeUp page request).engine := by
  unfold takeUp
  simp only
  split
  · rcases hclean with rfl | hhidden
    · exact .inl rfl
    · exact .inr (.clean (Clean.waits hhidden _ rfl))
  · have hretimed := hconsistent.retimed engine.config (Clock.now engine.clock).2
    exact startWhenReady_onCourse hretimed hpatterns hclean page

end TakingUp

/-- A full request puts any engine on course. -/
theorem request_full_onCourse (hconsistent : Consistent known engine)
    (hpatterns : ∀ p ∈ engine.patterns, allowed p) (page : Page N S) :
    OnCourse allowed (engine.request page .full).engine := by
  have hmerge : ∀ waiting : Request S N, waiting.merge .full = .full := by
    intro waiting
    cases waiting <;> rfl
  unfold Engine.request
  cases hphase : engine.phase with
  | idle => exact takeUp_onCourse hconsistent hpatterns (.inl rfl) page
  | debouncing waiting => exact .inl (congrArg some (hmerge waiting))
  | awaitingReady waiting => exact .inl (congrArg some (hmerge waiting))
  | running run queued =>
    refine .inl (congrArg some ?_)
    cases queued with
    | none => rfl
    | some waiting => exact hmerge waiting

/-- A full request that waits absorbs any other. -/
theorem request_queued_full (hqueued : engine.queued = some .full) (page : Page N S)
    (request : Request S N) : (engine.request page request).engine.queued = some .full := by
  unfold Engine.request
  cases hphase : engine.phase with
  | idle => simp [queued, hphase] at hqueued
  | debouncing waiting | awaitingReady waiting =>
    obtain rfl : waiting = .full := by simpa [queued, hphase] using hqueued
    rfl
  | running run waiting =>
    obtain rfl : waiting = some .full := by simpa [queued, hphase] using hqueued
    rfl

/-! ### Calls -/

section Waiting

variable (hqueued : engine.queued = some .full)

include hqueued

theorem apply_queued_full (page : Page N S) (sources : List PatternSource) :
    (engine.apply page sources).engine.queued = some .full := by
  by_cases hnone : (engine.given sources).patterns.isEmpty = true
  · rw [(apply_of_isEmpty page hnone).1]
    exact hqueued
  · have hgiven : (engine.given sources).queued = some .full := hqueued
    rw [(apply_of_not_isEmpty page hnone).1]
    exact request_queued_full hgiven page .full

theorem changed_queued_full (page : Page N S) (changes : List (Mutation N)) :
    (engine.changed page changes).engine.queued = some .full := by
  unfold changed
  split
  · exact hqueued
  · exact request_queued_full hqueued page _

theorem sheetLoaded_queued_full (page : Page N S) (sheet : S) :
    (engine.sheetLoaded page sheet).engine.queued = some .full := by
  unfold sheetLoaded
  split
  · exact hqueued
  · exact request_queued_full hqueued page _

variable (hconsistent : Consistent known engine) (hpatterns : ∀ p ∈ engine.patterns, allowed p)

include hconsistent hpatterns

theorem timerFired_onCourse (page : Page N S) :
    OnCourse allowed (engine.timerFired page).engine := by
  unfold timerFired
  split
  · rename_i request hphase
    obtain rfl : request = .full := by simpa [queued, hphase] using hqueued
    have hidle : Consistent known { engine with phase := .idle } :=
      hconsistent.waits engine.config engine.clock rfl
    exact startWhenReady_onCourse hidle hpatterns (.inl rfl) page
  · exact .inl hqueued

theorem documentReady_onCourse (page : Page N S) :
    OnCourse allowed (engine.documentReady page).engine := by
  unfold documentReady
  split
  · rename_i request hphase
    obtain rfl : request = .full := by simpa [queued, hphase] using hqueued
    have hidle : Consistent known { engine with phase := .idle } :=
      hconsistent.waits engine.config engine.clock rfl
    exact .inr (startRun_cleaning hidle hpatterns (.inl rfl) page)
  · exact .inl hqueued

theorem resume_onCourse (page : Page N S) : OnCourse allowed (engine.resume page).engine := by
  unfold resume
  split
  · rename_i run waiting hphase
    obtain rfl : waiting = some .full := by simpa [queued, hphase] using hqueued
    have hslice := (hconsistent.running run _ hphase).slice page engine.config engine.clock
    unfold workOn
    simp only
    split
    · have hfinished := (hconsistent.retimed engine.config
        (run.slice page engine.config engine.clock).2.2.1).finishRun page hslice
      exact takeUp_onCourse hfinished hpatterns (.inl rfl) page
    · exact .inl rfl
  · exact .inl hqueued

end Waiting

variable {call : Call S N}

/-- **Every call** leads on an engine that has heard it, if the patterns are allowed then. -/
theorem OnCourse.called (h : OnCourse allowed (engine.heard call))
    (hconsistent : Consistent known (engine.heard call))
    (hpatterns : ∀ p ∈ (engine.heard call).patterns, allowed p) (page : Page N S) :
    OnCourse allowed (engine.call page call).engine := by
  rcases h with hqueued | hcleaning
  · -- A full request waits, and goes on waiting until it is taken up.
    cases call with
    | apply sources =>
      have hwaits : engine.queued = some .full := hqueued
      exact .inl (apply_queued_full hwaits page sources)
    | request request => exact .inl (request_queued_full hqueued page request)
    | changed changes => exact .inl (changed_queued_full hqueued page changes)
    | sheetLoaded sheet => exact .inl (sheetLoaded_queued_full hqueued page sheet)
    | timerFired => exact timerFired_onCourse hqueued hconsistent hpatterns page
    | documentReady => exact documentReady_onCourse hqueued hconsistent hpatterns page
    | resume => exact resume_onCourse hqueued hconsistent hpatterns page
  · exact .inr (hcleaning.moves hconsistent hpatterns (call_moves page engine call))

/-- Without any pattern that is kept nothing begins. -/
theorem apply_begun_eq_nil {sources : List PatternSource}
    (hnone : (engine.given sources).patterns = []) (page : Page N S) :
    (engine.apply page sources).begun = [] := by
  have hempty : (registration engine.nextSerial sources).1 = [] := hnone
  unfold Engine.apply
  simp only [hempty]
  rfl

/-- Patterns that are registered put any engine on course. -/
theorem apply_onCourse {sources : List PatternSource}
    (hconsistent : Consistent known (engine.given sources))
    (hpatterns : ∀ p ∈ (engine.given sources).patterns, allowed p)
    (hsome : (engine.given sources).patterns ≠ []) (page : Page N S) :
    OnCourse allowed (engine.apply page sources).engine := by
  have hfilled : ¬ (engine.given sources).patterns.isEmpty = true := by
    rw [List.isEmpty_iff]
    exact hsome
  rw [(apply_of_not_isEmpty page hfilled).1]
  exact request_full_onCourse hconsistent hpatterns page

omit [DecidableEq N] [Clock κ] in
theorem Settles.full {request : Request S N} {outcome : Outcome S N κ}
    (h : Settles request outcome) (hbegun : .full ∈ outcome.begun) : request = .full := by
  have hmem := List.mem_append_left outcome.engine.queued.toList hbegun
  rw [h.kept, List.mem_singleton] at hmem
  exact hmem.symm

/-- The full run that a request begins is its own. -/
theorem request_begun_full {request : Request S N}
    (hbegun : .full ∈ (engine.request page request).begun) : request = .full := by
  unfold Engine.request at hbegun
  split at hbegun
  · exact (takeUp_settles page engine request).full hbegun
  all_goals exact absurd hbegun List.not_mem_nil

/-- What is asked for on a change is not full. -/
theorem changed_begun_full {changes : List (Mutation N)} :
    .full ∉ (engine.changed page changes).begun := by
  unfold changed
  split
  · exact List.not_mem_nil
  · exact fun hbegun => absurd (request_begun_full hbegun) (by simp)

theorem sheetLoaded_begun_full {sheet : S} : .full ∉ (engine.sheetLoaded page sheet).begun := by
  unfold sheetLoaded
  split
  · exact List.not_mem_nil
  · exact fun hbegun => absurd (request_begun_full hbegun) (by simp)

/-- The full run that begins on a wake-up has waited for it. -/
theorem timerFired_begun_full (hbegun : .full ∈ (engine.timerFired page).begun) :
    engine.queued = some .full := by
  unfold timerFired at hbegun
  split at hbegun
  · rename_i request hphase
    obtain rfl := (startWhenReady_settles page _ request).full hbegun
    simp [queued, hphase]
  · exact absurd hbegun List.not_mem_nil

theorem documentReady_begun_full (hbegun : .full ∈ (engine.documentReady page).begun) :
    engine.queued = some .full := by
  unfold documentReady at hbegun
  split at hbegun
  · rename_i request hphase
    obtain rfl := (startRun_settles page _ request).full hbegun
    simp [queued, hphase]
  · exact absurd hbegun List.not_mem_nil

theorem resume_begun_full (hbegun : .full ∈ (engine.resume page).begun) :
    engine.queued = some .full := by
  unfold resume at hbegun
  split at hbegun
  · rename_i run waiting hphase
    unfold workOn at hbegun
    simp only at hbegun
    split at hbegun
    · cases waiting with
      | none => exact absurd hbegun List.not_mem_nil
      | some request =>
        obtain rfl := (takeUp_settles page _ request).full hbegun
        simp [queued, hphase]
    · exact absurd hbegun List.not_mem_nil
  · exact absurd hbegun List.not_mem_nil

/-- **A full run that begins** puts any engine on course that has heard the call. -/
theorem onCourse_of_begun_full (hconsistent : Consistent known (engine.heard call))
    (hpatterns : ∀ p ∈ (engine.heard call).patterns, allowed p)
    (hbegun : .full ∈ (engine.call page call).begun) :
    OnCourse allowed (engine.call page call).engine := by
  cases call with
  | apply sources =>
    refine apply_onCourse hconsistent hpatterns (fun hnone => ?_) page
    have hnil : (engine.call page (.apply sources)).begun = [] := apply_begun_eq_nil hnone page
    simp [hnil] at hbegun
  | request request =>
    obtain rfl := request_begun_full hbegun
    exact request_full_onCourse hconsistent hpatterns page
  | changed changes => exact absurd hbegun changed_begun_full
  | sheetLoaded sheet => exact absurd hbegun sheetLoaded_begun_full
  | timerFired =>
    exact timerFired_onCourse (timerFired_begun_full hbegun) hconsistent hpatterns page
  | documentReady =>
    exact documentReady_onCourse (documentReady_begun_full hbegun) hconsistent hpatterns page
  | resume => exact resume_onCourse (resume_begun_full hbegun) hconsistent hpatterns page

end Engine

/-! ### Histories -/

/-- A pattern is registered for the source: its selector can be read, and is not empty. -/
def PatternSource.IsKept (source : PatternSource) : Prop :=
  ∃ chain, Chain.parse source.selector = .ok chain ∧ chain ≠ []

/-- No pattern is registered, be it that sources are given or not. -/
def Event.KeepsNone : Event S N κ → Prop
  | .called _ (.apply sources) => ∀ source ∈ sources, ¬ source.IsKept
  | _ => True

namespace Engine

omit [DecidableEq N] [Clock κ] in
theorem given_patterns_eq_nil_iff (engine : Engine S N κ) {sources : List PatternSource} :
    (engine.given sources).patterns = [] ↔ ∀ source ∈ sources, ¬ source.IsKept := by
  show (registration engine.nextSerial sources).1 = [] ↔ _
  constructor
  · rintro hnil source hsource ⟨chain, hparse, hchain⟩
    have hmem : chain ∈ (registration engine.nextSerial sources).1.map Pattern.chain :=
      mem_chains_registration.mpr ⟨hchain, source, hsource, hparse⟩
    simp [hnil] at hmem
  · intro hnone
    refine List.eq_nil_iff_forall_not_mem.mpr fun p hp => ?_
    obtain ⟨hchain, source, hsource, hparse⟩ :=
      mem_chains_registration.mp (List.mem_map_of_mem hp)
    exact hnone source hsource ⟨p.chain, hparse, hchain⟩

/--
The pattern was registered when sources were given of which none was kept.  Since then nothing
has been registered, and no full run has begun.
-/
def LeftBehind (first : Engine S N κ) (events : List (Event S N κ)) (pattern : Pattern) : Prop :=
  ∃ before page sources after, events = before ++ .called page (.apply sources) :: after ∧
    pattern ∈ (first.meetAll before).engine.patterns ∧
    (∀ event ∈ .called page (.apply sources) :: after, event.KeepsNone) ∧
    .full ∉ ((first.meetAll before).engine.meetAll (.called page (.apply sources) :: after)).begun

variable {first : Engine S N κ} {events : List (Event S N κ)} {pattern : Pattern}

theorem LeftBehind.later (h : LeftBehind first events pattern) {event : Event S N κ}
    (hnone : event.KeepsNone) (hbegun : .full ∉ ((first.meetAll events).engine.meet event).begun) :
    LeftBehind first (events ++ [event]) pattern := by
  obtain ⟨before, page, sources, after, rfl, hpattern, hkept, hfull⟩ := h
  refine ⟨before, page, sources, after ++ [event], by simp, hpattern, ?_, ?_⟩
  · intro other hother
    rw [← List.cons_append, List.mem_append, List.mem_singleton] at hother
    rcases hother with hother | rfl
    · exact hkept other hother
    · exact hnone
  · rw [meetAll_append] at hbegun
    rw [← List.cons_append, meetAll_concat]
    exact fun hmem => (List.mem_append.mp hmem).elim hfull hbegun

/-- Sources of which none is kept leave behind the patterns that there were. -/
theorem LeftBehind.dropped {page : Page N S} {sources : List PatternSource}
    (hpattern : pattern ∈ (first.meetAll events).engine.patterns)
    (hnone : ∀ source ∈ sources, ¬ source.IsKept) :
    LeftBehind first (events ++ [.called page (.apply sources)]) pattern := by
  refine ⟨events, page, sources, [], rfl, hpattern, ?_, ?_⟩
  · exact List.forall_mem_singleton.mpr hnone
  · have hnil := apply_begun_eq_nil
      ((given_patterns_eq_nil_iff (first.meetAll events).engine).mpr hnone) page
    show .full ∉ ((first.meetAll events).engine.apply page sources).begun
    rw [hnil]
    exact List.not_mem_nil

omit [Clock κ] in
/-- What is recorded, and what waits, is the same with other settings and at another time. -/
theorem OnCourse.retimed {engine : Engine S N κ} {allowed : Pattern → Prop}
    (h : OnCourse allowed engine) (config : Config) (clock : κ) :
    OnCourse allowed { engine with config := config, clock := clock } := by
  rcases h with hqueued | ⟨run, queued, hphase, hfull, hrun⟩ | hclean
  · exact .inl hqueued
  · exact .inr (.running run queued hphase hfull hrun)
  · exact .inr (.clean ⟨hclean.hidden, hclean.running⟩)

omit [Clock κ] in
/-- To register patterns touches neither what is recorded nor what waits. -/
theorem OnCourse.heard {engine : Engine S N κ} {allowed : Pattern → Prop}
    (h : OnCourse allowed engine) (call : Call S N) : OnCourse allowed (engine.heard call) := by
  cases call with
  | apply sources =>
    rcases h with hqueued | ⟨run, queued, hphase, hfull, hrun⟩ | hclean
    · exact .inl hqueued
    · exact .inr (.running run queued hphase hfull hrun)
    · exact .inr (.clean ⟨hclean.hidden, hclean.running⟩)
  | _ => exact h

/-- The patterns that there were are the same after the call, or they are left behind. -/
theorem kept_or_leftBehind {page : Page N S} {call : Call S N}
    (hnone : (Event.called page call : Event S N κ).KeepsNone)
    (hpattern : pattern ∈ (first.meetAll events).engine.patterns) :
    pattern ∈ ((first.meetAll events).engine.heard call).patterns ∨
      LeftBehind first (events ++ [.called page call]) pattern := by
  cases call with
  | apply sources => exact .inr (LeftBehind.dropped hpattern hnone)
  | _ => exact .inl hpattern

/-- **What a history allows** to be recorded: registered patterns, and those left behind. -/
theorem meetAll_onCourse (config : Config) (clock : κ) (events : List (Event S N κ)) :
    let first := Engine.new config clock
    OnCourse (fun p => p ∈ (first.meetAll events).engine.patterns ∨ LeftBehind first events p)
      (first.meetAll events).engine := by
  intro first
  induction events using List.reverseRecOn with
  | nil =>
    refine .inr (.clean ⟨fun n pattern m hm => ?_, fun run queued hphase => ?_⟩)
    · simp [first, meetAll, Outcome.quiet, Engine.new, MatchTable.match?, MatchTable.matches?]
        at hm
    · simp [first, meetAll, Outcome.quiet, Engine.new] at hphase
  | append_singleton events event ih =>
    obtain ⟨known, hconsistent⟩ := meetAll_consistent (S := S) (N := N) config clock events
    rw [meetAll_concat]
    cases event with
    | configured config =>
      exact (ih.mono fun p hp => hp.imp_right (·.later trivial List.not_mem_nil)).retimed config _
    | clockMoved clock =>
      exact (ih.mono fun p hp => hp.imp_right (·.later trivial List.not_mem_nil)).retimed _ clock
    | called page call =>
      obtain ⟨more, hheard⟩ := hconsistent.heard call
      let last := (first.meetAll events).engine.call page call
      have hpatterns : last.engine.patterns =
          ((first.meetAll events).engine.heard call).patterns :=
        (call_moves page (first.meetAll events).engine call).terms.1
      show OnCourse (fun p => p ∈ last.engine.patterns ∨ _) last.engine
      rw [hpatterns]
      by_cases hfull : .full ∈ last.begun
      · exact onCourse_of_begun_full hheard (fun p hp => .inl hp) hfull
      by_cases hnone : (Event.called page call : Event S N κ).KeepsNone
      · refine (OnCourse.heard (ih.mono fun p hp => ?_) call).called hheard
          (fun p hp => .inl hp) page
        rcases hp with hp | hp
        · exact kept_or_leftBehind hnone hp
        · exact .inr (hp.later hnone hfull)
      · -- Some source is kept, so a full run is asked for.
        cases call with
        | apply sources =>
          have hsome := mt (given_patterns_eq_nil_iff (first.meetAll events).engine).mp hnone
          exact apply_onCourse hheard (fun p hp => .inl hp) hsome page
        | _ => exact absurd trivial hnone

/--
**No element is hidden for patterns that are gone.**  Whenever the engine is idle, each hidden
element has a match.  Each match is of a pattern that is registered, or of one that was left
behind: it was registered when sources were given of which none was kept, and since then
nothing has been registered and no full run has begun.
-/
theorem matches_registered (config : Config) (clock : κ) (events : List (Event S N κ))
    (hidle : ((Engine.new config clock).meetAll events).engine.isIdle = true) :
    let engine := ((Engine.new config clock).meetAll events).engine
    ∀ entry ∈ engine.hidden, entry.2 ≠ [] ∧ ∀ m ∈ entry.2,
      m.pattern ∈ engine.patterns ∨ LeftBehind (Engine.new config clock) events m.pattern := by
  intro engine entry hentry
  obtain ⟨known, hconsistent⟩ := meetAll_consistent (S := S) (N := N) config clock events
  have hphase : engine.phase = .idle := by
    unfold isIdle at hidle
    split at hidle
    · assumption
    · simp at hidle
  refine ⟨hconsistent.tidy.filled entry hentry, fun m hm => ?_⟩
  rcases meetAll_onCourse config clock events with hqueued | hcleaning
  · change engine.queued = some .full at hqueued
    simp [queued, hphase] at hqueued
  · have hclean := hcleaning.clean_of_not_running (hphase ▸ rfl)
    exact hclean.hidden entry.1 m.pattern m (hconsistent.tidy.match?_of_mem hentry hm)

/-- An engine that filters in slices of one step each. -/
def steppingEngine : Engine Nat Nat ManualClock :=
  Engine.new ⟨.zero, .zero, false, .never⟩ (.ticking (.ofMilliseconds 1))

/-- Elements of a tag are to be hidden, and the run is followed to its end. -/
def hideTag (tag text : String) : List (Event Nat Nat ManualClock) :=
  [.called boxDocument.page (.apply [⟨tag, text⟩]), .called boxDocument.page .resume,
    .called boxDocument.page .resume, .called boxDocument.page .resume]

set_option maxRecDepth 20000 in
/-- After boxes paragraphs are to be hidden; then they are, and for their own pattern only. -/
theorem matches_registered_paragraphs :
    let events := hideTag "div" "boxes" ++ hideTag "p" "paragraphs"
    let engine := (steppingEngine.meetAll events).engine
    engine.isIdle = true ∧
    engine.hidden.map (fun entry => (entry.1, entry.2.map (·.pattern.serial))) = [(3, [1])] ∧
    ∀ entry ∈ engine.hidden, entry.2 ≠ [] ∧ ∀ m ∈ entry.2,
      m.pattern ∈ engine.patterns ∨ LeftBehind steppingEngine events m.pattern := by
  have hidle : (steppingEngine.meetAll
      (hideTag "div" "boxes" ++ hideTag "p" "paragraphs")).engine.isIdle = true := by cbv
  exact ⟨hidle, by cbv, matches_registered _ _ _ hidle⟩

/-- A selector that cannot be read. -/
def emptyHas : PatternSource := ⟨"div:has()", "nothing"⟩

/-- Boxes are hidden, and then a source is given that cannot be read. -/
def boxesDropped : List (Event Nat Nat ManualClock) :=
  hideTag "div" "boxes" ++ [.called boxDocument.page (.apply [emptyHas])]

set_option maxRecDepth 20000 in
/-- The box stays hidden for a pattern that is not registered any more. -/
theorem box_left_hidden :
    (steppingEngine.meetAll boxesDropped).engine.isIdle = true ∧
    (steppingEngine.meetAll boxesDropped).engine.hiddenElements = [2] ∧
    ¬ ∀ entry ∈ (steppingEngine.meetAll boxesDropped).engine.hidden, ∀ m ∈ entry.2,
      m.pattern ∈ (steppingEngine.meetAll boxesDropped).engine.patterns := by
  have hidle : (steppingEngine.meetAll (hideTag "div" "boxes")).engine.isIdle = true := by cbv
  have hhidden : (steppingEngine.meetAll (hideTag "div" "boxes")).engine.hiddenElements = [2] := by
    cbv
  let before := (steppingEngine.meetAll (hideTag "div" "boxes")).engine
  have hnone : (before.given [emptyHas]).patterns = [] := by with_unfolding_all rfl
  have hdropped : (steppingEngine.meetAll boxesDropped).engine = before.given [emptyHas] := by
    rw [boxesDropped, meetAll_concat]
    exact (apply_of_isEmpty boxDocument.page (List.isEmpty_iff.mpr hnone)).1
  rw [hdropped, hnone]
  refine ⟨hidle, hhidden, fun hall => ?_⟩
  -- The box is in the table, with a match.
  have hmem : 2 ∈ before.hidden.nodes := by
    rw [show before.hidden.nodes = [2] from hhidden]
    exact List.mem_singleton_self 2
  obtain ⟨entry, hentry, -⟩ := List.mem_map.mp hmem
  obtain ⟨known, hconsistent⟩ := meetAll_consistent _ _ (hideTag "div" "boxes")
  obtain ⟨m, hm⟩ := List.exists_mem_of_ne_nil _ (hconsistent.tidy.filled entry hentry)
  exact absurd (hall entry hentry m hm) List.not_mem_nil

end Engine

end CosmeticFilter
