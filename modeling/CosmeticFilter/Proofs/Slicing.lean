/-
Where a run is cut into slices makes no difference.

What is left of a suspended run is data: the candidates that wait and the state of one
evaluation.  So there is a run that a suspended run will have become when it is completed,
`Run.completed`, and it can be said without clock and slices: pull what is left to its end.
A slice only goes a part of that way, wherever it stops, and what happens between two
slices does not touch the run.  Two executions of a run therefore meet in the same
completed run, and a completed run alone decides what the outside is told.
-/
import CosmeticFilter.Document.Page
import CosmeticFilter.Engine.Call
import CosmeticFilter.Engine.Progress

namespace CosmeticFilter

variable {N S κ : Type} [DecidableEq N] [Clock κ]

/-- The settings agree in what a run reports; they may differ in how long things take. -/
structure SameReports (a b : Config) : Prop where
  selectorHiding : a.selectorHiding = b.selectorHiding
  testMode : a.testMode = b.testMode

theorem SameReports.refl (config : Config) : SameReports config config := ⟨rfl, rfl⟩

theorem SameReports.symm {a b : Config} (h : SameReports a b) : SameReports b a :=
  ⟨h.selectorHiding.symm, h.testMode.symm⟩

theorem SameReports.trans {a b c : Config} (hab : SameReports a b) (hbc : SameReports b c) :
    SameReports a c :=
  ⟨hab.selectorHiding.trans hbc.selectorHiding, hab.testMode.trans hbc.testMode⟩

namespace Findings

/-- How the result of a pull changes what was found. -/
def entering (config : Config) (page : Page N S) (pattern : Pattern) (findings : Findings N)
    (pulled : Pulled N) : Findings N :=
  (findings.enterPulled config page pattern pulled).1

theorem entering_congr {a b : Config} (h : SameReports a b) (page : Page N S) :
    entering a page = entering b page := by
  obtain ⟨_, _, testMode, selectorHiding⟩ := a
  obtain ⟨_, _, _, _⟩ := b
  obtain ⟨rfl, rfl⟩ := h
  rfl

end Findings

namespace Run

/-! ### What is left of a run -/

/-- Pulls an evaluation to its end, and enters everything that it gives. -/
def drain (config : Config) (scene : Scene N S) (pattern : Pattern) (evaluation : Evaluation N)
    (findings : Findings N) : Findings N :=
  let pulled := evaluation.pull scene
  let entered := findings.entering config scene.page pattern pulled
  match _h : pulled.item with
  | none => entered
  | some _ => drain config scene pattern pulled.next entered
termination_by evaluation
decreasing_by exact Evaluation.follows_of_item _h

theorem drain_of_none (config : Config) {scene : Scene N S} {evaluation : Evaluation N}
    (h : (evaluation.pull scene).item = none) (pattern : Pattern) (findings : Findings N) :
    drain config scene pattern evaluation findings =
      findings.entering config scene.page pattern (evaluation.pull scene) := by
  rw [drain]
  split
  · rfl
  · simp_all

theorem drain_of_some (config : Config) {scene : Scene N S} {evaluation : Evaluation N}
    {item : Item N} (h : (evaluation.pull scene).item = some item) (pattern : Pattern)
    (findings : Findings N) :
    drain config scene pattern evaluation findings =
      drain config scene pattern (evaluation.pull scene).next
        (findings.entering config scene.page pattern (evaluation.pull scene)) := by
  rw [drain]
  split
  · simp_all
  · rfl

/-- What is found when everything that is left has been evaluated. -/
def drainAll (config : Config) (page : Page N S) (styles : List Style)
    (waiting : List (Candidate N)) (current : Option (Candidate N × Evaluation N))
    (findings : Findings N) : Findings N :=
  let first := match current with
    | none => findings
    | some (candidate, evaluation) =>
      drain config ⟨page, styles, candidate.targets⟩ candidate.pattern evaluation findings
  waiting.foldl
    (fun findings candidate => drain config ⟨page, styles, candidate.targets⟩ candidate.pattern
      (.start styles candidate.pattern.chain "" page.document) findings)
    first

/-- The run as it will be when it is completed. -/
def completed (config : Config) (page : Page N S) (run : Run N) : Run N :=
  { run with
    waiting := []
    current := none
    findings := drainAll config page run.styles run.waiting run.current run.findings }

theorem drain_congr {a b : Config} (h : SameReports a b) (scene : Scene N S) (pattern : Pattern)
    (evaluation : Evaluation N) (findings : Findings N) :
    drain a scene pattern evaluation findings = drain b scene pattern evaluation findings := by
  fun_induction drain a scene pattern evaluation findings with
  | case1 evaluation findings pulled entered hitem =>
    rw [drain_of_none b hitem, ← Findings.entering_congr h]
  | case2 evaluation findings pulled entered item hitem ih =>
    rw [drain_of_some b hitem, ← Findings.entering_congr h]
    exact ih

theorem completed_congr {a b : Config} (h : SameReports a b) (page : Page N S) (run : Run N) :
    run.completed a page = run.completed b page := by
  have hdrain : drain (S := S) (N := N) a = drain b := by
    funext scene pattern evaluation findings
    exact drain_congr h scene pattern evaluation findings
  simp only [completed, drainAll, hdrain]

/-! ### A slice goes a part of the way -/

/-- What is found when an evaluation goes on from where a slice left it. -/
def drainStopped (config : Config) (scene : Scene N S) (pattern : Pattern)
    (stopped : Option (Option (Evaluation N))) (findings : Findings N) : Findings N :=
  match stopped with
  | some (some later) => drain config scene pattern later findings
  | _ => findings

theorem evaluate_drain (slice : Slice N S) (candidate : Candidate N) (evaluation : Evaluation N)
    (tally : Tally N κ) :
    drainStopped slice.config (slice.scene candidate) candidate.pattern
        (evaluate slice candidate evaluation tally).1
        (evaluate slice candidate evaluation tally).2.findings =
      drain slice.config (slice.scene candidate) candidate.pattern evaluation tally.findings := by
  fun_induction evaluate slice candidate evaluation tally with
  | case1 evaluation tally pulled entered hover =>
    cases hitem : pulled.item with
    | none => rw [drain_of_none _ hitem]; rfl
    | some item => rw [drain_of_some _ hitem]; rfl
  | case2 evaluation tally pulled entered hover hitem =>
    rw [drain_of_none _ hitem]
    rfl
  | case3 evaluation tally pulled entered hover item hitem ih =>
    rw [ih, drain_of_some _ hitem]
    rfl

/-- What is found when a run goes on from where a slice left it. -/
def Stop.drained (slice : Slice N S) (stop : Stop N) (findings : Findings N) : Findings N :=
  match stop with
  | .completed => findings
  | .suspended waiting current =>
    drainAll slice.config slice.page slice.styles waiting current findings

theorem evaluateAll_drained (slice : Slice N S) (candidates : List (Candidate N))
    (tally : Tally N κ) :
    (evaluateAll slice candidates tally).1.drained slice
        (evaluateAll slice candidates tally).2.findings =
      drainAll slice.config slice.page slice.styles candidates none tally.findings := by
  fun_induction evaluateAll slice candidates tally with
  | case1 tally => rfl
  | case2 candidate waiting tally later hlater ih =>
    have hdrain := evaluate_drain slice candidate (slice.begin candidate) tally
    rw [hlater] at hdrain
    rw [ih]
    simp only [drainStopped] at hdrain
    simp only [drainAll, List.foldl_cons, hdrain]
    rfl
  | case3 candidate waiting tally state later hlater =>
    have hdrain := evaluate_drain slice candidate (slice.begin candidate) tally
    rw [hlater] at hdrain
    cases state with
    | none =>
      simp only [drainStopped] at hdrain
      simp only [Stop.drained, drainAll, Option.map_none, List.foldl_cons, hdrain]
      rfl
    | some state =>
      simp only [drainStopped] at hdrain
      simp only [Stop.drained, drainAll, Option.map_some, List.foldl_cons]
      exact congrArg (fun first => List.foldl _ first waiting) hdrain

theorem proceed_drained (slice : Slice N S) (run : Run N) (tally : Tally N κ) :
    (proceed slice run tally).1.drained slice (proceed slice run tally).2.findings =
      drainAll slice.config slice.page slice.styles run.waiting run.current tally.findings := by
  unfold proceed
  split
  · rename_i hcurrent
    rw [evaluateAll_drained, hcurrent]
  · rename_i candidate evaluation hcurrent
    have hdrain := evaluate_drain slice candidate evaluation tally
    split
    · rename_i later hlater
      rw [hlater] at hdrain
      simp only [drainStopped] at hdrain
      rw [evaluateAll_drained, hcurrent]
      simp only [drainAll, hdrain]
      rfl
    · rename_i state later hlater
      rw [hlater] at hdrain
      rw [hcurrent]
      cases state with
      | none =>
        simp only [drainStopped] at hdrain
        simp only [Stop.drained, drainAll, Option.map_none, hdrain]
        rfl
      | some state =>
        simp only [drainStopped] at hdrain
        simp only [Stop.drained, drainAll, Option.map_some]
        exact congrArg (fun first => List.foldl _ first run.waiting) hdrain

/-- A slice leads to the same completed run, and is that run when it says so. -/
theorem slice_completed (page : Page N S) (config : Config) (run : Run N) (clock : κ) :
    (run.slice page config clock).2.1.completed config page = run.completed config page ∧
    ((run.slice page config clock).1 = true →
      (run.slice page config clock).2.1 = run.completed config page) := by
  have hdrained := proceed_drained ⟨page, config, run.styles, (Clock.now clock).1⟩ run
    (⟨run.findings, (Clock.now clock).2, []⟩ : Tally N κ)
  unfold slice sliceFrom
  simp only
  split
  · rename_i hstop
    rw [hstop] at hdrained
    simp only [Stop.drained] at hdrained
    simp [completed, drainAll, hdrained]
  · rename_i waiting current hstop
    rw [hstop] at hdrained
    simp only [Stop.drained] at hdrained
    simp [completed, hdrained]

end Run

/-! ### Executions of a run -/

/-- The effect tells the outside what to hide or to show. -/
def Effect.isDecision : Effect N → Bool
  | .hide .. | .unhide _ | .addSelectors .. => true
  | _ => false

/-- What the outside is told to hide and to show, in order. -/
def decisions (effects : List (Effect N)) : List (Effect N) :=
  effects.filter Effect.isDecision

omit [DecidableEq N] in
@[simp] theorem decisions_append (first last : List (Effect N)) :
    decisions (first ++ last) = decisions first ++ decisions last :=
  List.filter_append ..

omit [DecidableEq N] in
@[simp] theorem decisions_notes (notes : List Note) :
    decisions (notes.map (Effect.note (N := N))) = [] := by
  simp [decisions, Effect.isDecision]

/-- The call asks for a run of the patterns that are registered. -/
def Call.asks : Call S N → Bool
  | .request _ | .changed _ | .sheetLoaded _ => true
  | _ => false

namespace Engine

/--
One slice of the run that is under way.  Where it completes the run, this is the moment
before anything that is queued is taken up.
-/
def slice (page : Page N S) (engine : Engine S N κ) : Outcome S N κ :=
  match engine.phase with
  | .running run queued => engine.workOn page run queued .quiet
  | _ => .quiet engine

/-- Going on with a run means one slice of it, and then to take up what is queued. -/
theorem resume_eq_slice (page : Page N S) (engine : Engine S N κ) {run : Run N}
    {queued : Option (Request S N)} (hphase : engine.phase = .running run queued) :
    engine.resume page =
      let sliced := engine.slice page
      match sliced.wake, queued with
      | none, some request => sliced.andThen (sliced.engine.takeUp page request)
      | _, _ => sliced := by
  unfold resume slice workOn
  simp only [hphase]
  split
  · cases queued with
    | none => rfl
    | some request => simp [Outcome.andThen, Outcome.after, Outcome.quiet]
  · rfl

/--
The executions of a run, from what has come of it so far to the moment of its completion.
Between two slices more may be asked for, the clock may have moved, and settings may be
changed that do not matter to what the run reports.
-/
inductive Execution (page : Page N S) : Outcome S N κ → Outcome S N κ → Prop
  | completed {outcome : Outcome S N κ} (hwake : outcome.wake = none) :
      Execution page outcome outcome
  | slice {outcome last : Outcome S N κ} (hwake : outcome.wake = some .resume)
      (h : Execution page (outcome.andThen (outcome.engine.slice page)) last) :
      Execution page outcome last
  | asked {outcome last : Outcome S N κ} (hwake : outcome.wake = some .resume)
      (call : Call S N) (hcall : call.asks = true)
      (h : Execution page
        { outcome.andThen (outcome.engine.call page call) with wake := some .resume } last) :
      Execution page outcome last
  | adjusted {outcome last : Outcome S N κ} (hwake : outcome.wake = some .resume)
      (clock : κ) (config : Config) (hreports : SameReports config outcome.engine.config)
      (h : Execution page
        { outcome with engine := { outcome.engine with clock := clock, config := config } }
        last) :
      Execution page outcome last

/-! ### An execution heads for the completed run -/

/-- The outcome shows that an engine has completed the run, and what the engine was before. -/
structure Reports (page : Page N S) (engine : Engine S N κ) (run : Run N)
    (outcome : Outcome S N κ) : Prop where
  phase : outcome.engine.phase = .idle
  patterns : outcome.engine.patterns = engine.patterns
  reports : SameReports outcome.engine.config engine.config
  hidden : outcome.engine.hidden = run.hiddenAfter page engine.hidden
  processed : outcome.engine.lastProcessed =
    if engine.config.testMode then run.findings.processed else engine.lastProcessed
  decisions : decisions outcome.effects = decisions (run.effects page engine.hidden)

/-- So far the outcome shows nothing but the engine as it was. -/
structure Unmoved (engine : Engine S N κ) (outcome : Outcome S N κ) : Prop where
  patterns : outcome.engine.patterns = engine.patterns
  reports : SameReports outcome.engine.config engine.config
  hidden : outcome.engine.hidden = engine.hidden
  processed : outcome.engine.lastProcessed = engine.lastProcessed
  decisions : decisions outcome.effects = []

/-- The outcome is that of an engine on its way to complete the run. -/
structure Heads (page : Page N S) (engine : Engine S N κ) (final : Run N)
    (outcome : Outcome S N κ) : Prop extends Unmoved engine outcome where
  running : ∃ run queued, outcome.engine.phase = .running run queued ∧
    run.completed engine.config page = final

/-- What an execution keeps true until the run is completed, and what is true then. -/
inductive OnTheWay (page : Page N S) (engine : Engine S N κ) (final : Run N)
    (outcome : Outcome S N κ) : Prop
  | heads (hwake : outcome.wake = some .resume) (h : Heads page engine final outcome)
  | reports (hwake : outcome.wake = none) (h : Reports page engine final outcome)

/-- Working on a run leads on the way to the run as it will be completed. -/
theorem workOn_onTheWay (page : Page N S) (engine : Engine S N κ) (run : Run N)
    (queued : Option (Request S N)) :
    OnTheWay page engine (run.completed engine.config page)
      (engine.workOn page run queued .quiet) := by
  obtain ⟨hsame, hdone⟩ := run.slice_completed page engine.config engine.clock
  unfold workOn
  simp only
  split
  · rename_i hcompleted
    refine .reports rfl ⟨rfl, rfl, SameReports.refl _, ?_, ?_, ?_⟩
    · simp only [Outcome.after, Outcome.quiet, finishRun, hdone hcompleted]
    · simp only [Outcome.after, Outcome.quiet, finishRun, hdone hcompleted]
    · simp only [Outcome.after, Outcome.quiet, finishRun, hdone hcompleted, decisions_append,
        decisions_notes, List.append_nil, List.nil_append]
  · refine .heads rfl ⟨⟨rfl, SameReports.refl _, rfl, rfl, ?_⟩, _, _, rfl, hsame⟩
    simp [Outcome.after]

omit [Clock κ] in
/-- What is on the way for the engine of an unmoved outcome is so for the engine before it. -/
theorem Unmoved.onTheWay {page : Page N S} {engine : Engine S N κ} {final : Run N}
    {outcome next : Outcome S N κ} (h : Unmoved engine outcome)
    (hnext : OnTheWay page outcome.engine final next) :
    OnTheWay page engine final (outcome.andThen next) := by
  cases hnext with
  | heads hwake hn =>
    obtain ⟨run, queued, hphase, hrun⟩ := hn.running
    refine .heads hwake ⟨⟨hn.patterns.trans h.patterns, hn.reports.trans h.reports,
      hn.hidden.trans h.hidden, hn.processed.trans h.processed, ?_⟩, run, queued, hphase, ?_⟩
    · simp [Outcome.andThen, h.decisions, hn.decisions]
    · rw [← Run.completed_congr h.reports, hrun]
  | reports hwake hn =>
    refine .reports hwake ⟨hn.phase, hn.patterns.trans h.patterns, hn.reports.trans h.reports,
      ?_, ?_, ?_⟩
    · rw [← h.hidden]
      exact hn.hidden
    · rw [← h.reports.testMode, ← h.processed]
      exact hn.processed
    · simp [Outcome.andThen, h.decisions, hn.decisions, h.hidden]

/-- Asking during a run changes nothing but what is queued. -/
theorem call_heads {page : Page N S} {engine : Engine S N κ} {final : Run N}
    {outcome : Outcome S N κ} (h : Heads page engine final outcome) {call : Call S N}
    (hcall : call.asks = true) :
    Heads page engine final
      { outcome.andThen (outcome.engine.call page call) with wake := some .resume } := by
  obtain ⟨run, queued, hphase, hrun⟩ := h.running
  have hrequest : ∀ request : Request S N, Heads page engine final
      { outcome.andThen (outcome.engine.request page request) with wake := some .resume } := by
    intro request
    refine ⟨⟨?_, ?_, ?_, ?_, ?_⟩, run, some (request.joinTo queued), ?_, hrun⟩
    · simpa [Outcome.andThen, Engine.request, hphase, Outcome.quiet] using h.patterns
    · simpa [Outcome.andThen, Engine.request, hphase, Outcome.quiet] using h.reports
    · simpa [Outcome.andThen, Engine.request, hphase, Outcome.quiet] using h.hidden
    · simpa [Outcome.andThen, Engine.request, hphase, Outcome.quiet] using h.processed
    · simpa [Outcome.andThen, Engine.request, hphase, Outcome.quiet] using h.decisions
    · simp [Outcome.andThen, Engine.request, hphase, Outcome.quiet]
  have hquiet : Heads page engine final
      { outcome.andThen (.quiet outcome.engine) with wake := some .resume } := by
    refine ⟨⟨h.patterns, h.reports, h.hidden, h.processed, ?_⟩, run, queued, hphase, hrun⟩
    simpa [Outcome.andThen, Outcome.quiet] using h.decisions
  cases call with
  | request request => exact hrequest request
  | changed changes =>
    simp only [Engine.call, changed]
    split
    · exact hquiet
    · exact hrequest _
  | sheetLoaded sheet =>
    simp only [Engine.call, sheetLoaded]
    split
    · exact hquiet
    · exact hrequest _
  | apply | timerFired | documentReady | resume => simp [Call.asks] at hcall

theorem slice_onTheWay {page : Page N S} {engine : Engine S N κ} {final : Run N}
    {outcome : Outcome S N κ} (h : Heads page engine final outcome) :
    OnTheWay page engine final (outcome.andThen (outcome.engine.slice page)) := by
  obtain ⟨run, queued, hphase, hrun⟩ := h.running
  refine h.toUnmoved.onTheWay ?_
  rw [← hrun, ← Run.completed_congr h.reports]
  simp only [slice, hphase]
  exact workOn_onTheWay page outcome.engine run queued

/-- An execution ends with what the completed run reports. -/
theorem Execution.reports {page : Page N S} {engine : Engine S N κ} {final : Run N}
    {outcome last : Outcome S N κ} (h : Execution page outcome last)
    (hway : OnTheWay page engine final outcome) : Reports page engine final last := by
  induction h with
  | completed hwake =>
    cases hway with
    | heads hresume _ => simp [hwake] at hresume
    | reports _ h => exact h
  | slice hwake _ ih =>
    cases hway with
    | heads _ h => exact ih (slice_onTheWay h)
    | reports hnone _ => simp [hwake] at hnone
  | asked hwake call hcall _ ih =>
    cases hway with
    | heads _ h => exact ih (.heads rfl (call_heads h hcall))
    | reports hnone _ => simp [hwake] at hnone
  | adjusted hwake clock config hreports _ ih =>
    cases hway with
    | heads _ h =>
      exact ih (.heads hwake ⟨⟨h.patterns, hreports.trans h.reports, h.hidden, h.processed,
        h.decisions⟩, h.running⟩)
    | reports hnone _ => simp [hwake] at hnone

/-! ### The run that a request leads to -/

/-- The run of a request, as it will be when it is completed. -/
def runOf (page : Page N S) (engine : Engine S N κ) (request : Request S N) : Run N :=
  let classification := Classification.ofRequest engine.patterns request
  Run.completed engine.config page
    (.ofClassification classification (runStyles page request classification).1)

theorem startRun_onTheWay (page : Page N S) (engine : Engine S N κ) (request : Request S N) :
    OnTheWay page engine (engine.runOf page request) (engine.startRun page request) := by
  unfold startRun runOf
  simp only
  generalize Run.ofClassification _ _ = run
  cases workOn_onTheWay page engine run none with
  | heads hwake h =>
    refine .heads hwake ⟨⟨h.patterns, h.reports, h.hidden, h.processed, ?_⟩, h.running⟩
    simp only [Outcome.after, decisions_append, decisions_notes, List.nil_append]
    exact h.decisions
  | reports hwake h =>
    refine .reports hwake ⟨h.phase, h.patterns, h.reports, h.hidden, h.processed, ?_⟩
    simp only [Outcome.after, decisions_append, decisions_notes, List.nil_append]
    exact h.decisions

omit [Clock κ] in
theorem runOf_congr {κ' : Type} (page : Page N S) {engine : Engine S N κ}
    {other : Engine S N κ'} (hpatterns : engine.patterns = other.patterns)
    (hreports : SameReports engine.config other.config) (request : Request S N) :
    engine.runOf page request = other.runOf page request := by
  simp only [runOf, hpatterns]
  exact Run.completed_congr hreports page _

/-- Induction along the slices of a run: in the end one of them completes it. -/
theorem slices_induction (page : Page N S) {P : Outcome S N κ → Prop}
    (hlast : ∀ outcome : Outcome S N κ, outcome.wake = none → outcome.engine.phase = .idle →
      P outcome)
    (hnext : ∀ (outcome : Outcome S N κ) (run : Run N) (queued : Option (Request S N)),
      outcome.wake = some .resume → outcome.engine.phase = .running run queued →
      P (outcome.andThen (outcome.engine.slice page)) → P outcome)
    {outcome : Outcome S N κ} {run : Run N} {queued : Option (Request S N)}
    (hwake : outcome.wake = some .resume)
    (hphase : outcome.engine.phase = .running run queued) : P outcome := by
  have hfrom : ∀ (left : Nat × Option (Evaluation N)) (outcome : Outcome S N κ) (run : Run N),
      run.remaining = left → outcome.wake = some .resume →
      outcome.engine.phase = .running run queued → P outcome := by
    have hwf := Run.lessLeft_wellFounded (N := N)
    intro left
    induction left using hwf.induction with
    | _ left ih =>
      intro outcome run hleft hwake hphase
      refine hnext outcome run queued hwake hphase ?_
      cases hsliced : (run.slice page outcome.engine.config outcome.engine.clock).1 with
      | true =>
        refine hlast _ ?_ ?_
        · simp [slice, hphase, workOn, hsliced, Outcome.andThen, Outcome.after, Outcome.quiet]
        · simp [slice, hphase, workOn, hsliced, Outcome.andThen, Outcome.after, Outcome.quiet,
            finishRun]
      | false =>
        have hless := Run.slice_lessLeft page outcome.engine.config run outcome.engine.clock hsliced
        rw [hleft] at hless
        refine ih _ hless _ _ rfl ?_ ?_
        · simp [slice, hphase, workOn, hsliced, Outcome.andThen, Outcome.after]
        · simp [slice, hphase, workOn, hsliced, Outcome.andThen, Outcome.after]
  exact hfrom _ outcome run rfl hwake hphase

/-- Left to itself, every run is completed. -/
theorem exists_execution (page : Page N S) (engine : Engine S N κ) (request : Request S N) :
    ∃ last, Execution page (engine.startRun page request) last := by
  cases startRun_onTheWay page engine request with
  | reports hwake _ => exact ⟨_, .completed hwake⟩
  | heads hwake h =>
    obtain ⟨run, queued, hphase, -⟩ := h.running
    refine slices_induction page (P := fun outcome => ∃ last, Execution page outcome last)
      (fun outcome hnone _ => ⟨outcome, .completed hnone⟩) ?_ hwake hphase
    rintro outcome run queued hresume - ⟨last, hlast⟩
    exact ⟨last, .slice hresume hlast⟩

/--
**Slicing is invisible.**  Two engines with the same patterns and the same hidden elements
start a run for the same request, with any clocks, budgets and interruptions.  At the
moment when their runs are completed they have told the outside the same, and they hide
the same elements for the same reasons.
-/
theorem execution_agrees {κ' : Type} [Clock κ'] (page : Page N S) (request : Request S N)
    (engine : Engine S N κ) (other : Engine S N κ')
    (hpatterns : engine.patterns = other.patterns) (hhidden : engine.hidden = other.hidden)
    (hprocessed : engine.lastProcessed = other.lastProcessed)
    (hreports : SameReports engine.config other.config)
    {last : Outcome S N κ} {otherLast : Outcome S N κ'}
    (h : Execution page (engine.startRun page request) last)
    (hother : Execution page (other.startRun page request) otherLast) :
    decisions last.effects = decisions otherLast.effects ∧
    last.engine.hidden = otherLast.engine.hidden ∧
    last.engine.lastProcessed = otherLast.engine.lastProcessed := by
  have hlast := h.reports (startRun_onTheWay page engine request)
  have hotherLast := hother.reports (startRun_onTheWay page other request)
  rw [runOf_congr page hpatterns hreports] at hlast
  refine ⟨?_, ?_, ?_⟩
  · rw [hlast.decisions, hotherLast.decisions, hhidden]
  · rw [hlast.hidden, hotherLast.hidden, hhidden]
  · rw [hlast.processed, hotherLast.processed, hprocessed, hreports.testMode]

/-- A document with a box in which there is a paragraph. -/
def boxDocument : Document :=
  (((Document.empty "https://example.com/").appendElement 0 "html").appendElement 1
    "div").appendElement 2 "p"

/-- A box with a paragraph and a span in it. -/
def pairDocument : Document :=
  ((((Document.empty "https://example.com/").appendElement 0 "html").appendElement 1 "div"
    ).appendElement 2 "p").appendElement 2 "span"

/-- An engine that hides boxes with paragraphs in them. -/
def boxEngine {κ : Type} (clock : κ) (maxSlice : Span) : Engine Nat Nat κ :=
  { Engine.new { Config.default with maxSlice := maxSlice } clock with
    patterns := [⟨0, [.plain "div", .has [.plain "p"]], "boxes"⟩] }

/-- A clock that stands still, and one by which every pull is the last one of its slice. -/
theorem execution_agrees_hurried :
    ∃ (last : Outcome Nat Nat PausedClock) (otherLast : Outcome Nat Nat ManualClock),
      Execution boxDocument.page
        ((boxEngine ⟨.zero⟩ (.ofMilliseconds 50)).startRun boxDocument.page .full) last ∧
      Execution boxDocument.page
        ((boxEngine (.ticking (.ofMilliseconds 1)) .zero).startRun boxDocument.page .full)
        otherLast ∧
      decisions last.effects = decisions otherLast.effects ∧
      last.engine.hidden = otherLast.engine.hidden ∧
      last.engine.lastProcessed = otherLast.engine.lastProcessed := by
  let patient := boxEngine (⟨.zero⟩ : PausedClock) (.ofMilliseconds 50)
  let hurried := boxEngine (ManualClock.ticking (.ofMilliseconds 1)) .zero
  obtain ⟨last, h⟩ := exists_execution boxDocument.page patient .full
  obtain ⟨otherLast, hother⟩ := exists_execution boxDocument.page hurried .full
  exact ⟨last, otherLast, h, hother,
    execution_agrees boxDocument.page .full patient hurried rfl rfl rfl ⟨rfl, rfl⟩ h hother⟩

end Engine

end CosmeticFilter
