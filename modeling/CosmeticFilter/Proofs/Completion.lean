/-
A run that is completed while other things happen.

Between two slices of a run anything may be called: more may be asked for, patterns may be
registered in the place of those that the run looks for, wake-ups may come that nobody waits
for.  A run has what it needs with it, though.  No call but the one that goes on with it
touches it, or the elements that are hidden, or tells the outside to hide or to show
anything.  So as long as the page stays the same, whatever completes the run enters and
reports the run that was to be expected when it was started.
-/
import CosmeticFilter.Proofs.Moves

namespace CosmeticFilter.Engine

variable {S N κ : Type} [DecidableEq N] [Clock κ] {page : Page N S}

/--
The ways of completing a run while the page stays the same, from what has come of the run so
far to the moment of its completion.  Slices of it alternate with calls of any other kind, at
any time of the clock, and settings may be changed that do not matter to what is reported.
-/
inductive Completion (page : Page N S) : Outcome S N κ → Outcome S N κ → Prop
  | done {outcome : Outcome S N κ} (hphase : outcome.engine.phase = .idle) :
      Completion page outcome outcome
  | slice {outcome last : Outcome S N κ} (hphase : outcome.engine.phase.isRunning = true)
      (h : Completion page (outcome.andThen (outcome.engine.slice page)) last) :
      Completion page outcome last
  | called {outcome last : Outcome S N κ} (hphase : outcome.engine.phase.isRunning = true)
      (call : Call S N) (hcall : call ≠ .resume)
      (h : Completion page (outcome.andThen (outcome.engine.call page call)) last) :
      Completion page outcome last
  | adjusted {outcome last : Outcome S N κ} (hphase : outcome.engine.phase.isRunning = true)
      (clock : κ) (config : Config) (hreports : SameReports config outcome.engine.config)
      (h : Completion page
        { outcome with engine := { outcome.engine with clock := clock, config := config } }
        last) :
      Completion page outcome last

/-! ### What a call leaves alone -/

/-- The outcome shows an engine with the run still under way, and nothing decided. -/
structure Spares (engine : Engine S N κ) (run : Run N) (outcome : Outcome S N κ) : Prop where
  phase : ∃ queued, outcome.engine.phase = .running run queued
  config : outcome.engine.config = engine.config
  hidden : outcome.engine.hidden = engine.hidden
  decisions : decisions outcome.effects = []

theorem request_spares {engine : Engine S N κ} {run : Run N} {queued : Option (Request S N)}
    (hphase : engine.phase = .running run queued) (request : Request S N) :
    Spares engine run (engine.request page request) := by
  unfold Engine.request
  simp only [hphase]
  exact ⟨⟨_, rfl⟩, rfl, rfl, rfl⟩

omit [DecidableEq N] [Clock κ] in
/-- Notes may be made before it. -/
theorem Spares.after {engine : Engine S N κ} {run : Run N} {outcome : Outcome S N κ}
    (h : Spares engine run outcome) (notes : List Note) :
    Spares engine run (.after (notes.map .note) outcome) := by
  refine ⟨h.phase, h.config, h.hidden, ?_⟩
  rw [Outcome.after, decisions_append, decisions_notes]
  exact h.decisions

omit [DecidableEq N] [Clock κ] in
/-- The outside may be told which changes matter. -/
theorem Spares.observing {engine : Engine S N κ} {run : Run N} {outcome : Outcome S N κ}
    (h : Spares engine run outcome) (options : ObserveOptions) :
    Spares engine run { outcome with effects := outcome.effects ++ [.observe options] } := by
  refine ⟨h.phase, h.config, h.hidden, ?_⟩
  rw [decisions_append, h.decisions]
  rfl

/-- **Only going on with a run touches it**; every other call leaves it under way. -/
theorem call_spares {engine : Engine S N κ} {run : Run N} {queued : Option (Request S N)}
    (hphase : engine.phase = .running run queued) {call : Call S N} (hcall : call ≠ .resume) :
    Spares engine run (engine.call page call) := by
  cases call with
  | resume => exact absurd rfl hcall
  | request request => exact request_spares hphase request
  | changed changes =>
    simp only [Engine.call, changed]
    split
    · exact ⟨⟨queued, hphase⟩, rfl, rfl, rfl⟩
    · exact request_spares hphase _
  | sheetLoaded sheet =>
    simp only [Engine.call, sheetLoaded]
    split
    · exact ⟨⟨queued, hphase⟩, rfl, rfl, rfl⟩
    · exact request_spares hphase _
  | timerFired =>
    simp only [Engine.call, timerFired, hphase]
    exact ⟨⟨queued, hphase⟩, rfl, rfl, rfl⟩
  | documentReady =>
    simp only [Engine.call, documentReady, hphase]
    exact ⟨⟨queued, hphase⟩, rfl, rfl, rfl⟩
  | apply sources =>
    -- The new patterns are for the next run.
    have hgiven : (engine.given sources).phase = .running run queued := hphase
    have hasked : Spares (engine.given sources) run
        ((engine.given sources).request page .full) := request_spares hgiven .full
    simp only [Engine.call, apply]
    refine Spares.after ?_ _
    split
    · exact ⟨⟨queued, hgiven⟩, rfl, rfl, rfl⟩
    · refine Spares.observing ?_ _
      exact ⟨hasked.phase, hasked.config, hasked.hidden, hasked.decisions⟩

/-! ### What is due -/

/-- Either the run that will be `final` is under way and nothing has been decided, or it has
been completed, and it alone has decided what the outside was told. -/
inductive Due (page : Page N S) (engine : Engine S N κ) (final : Run N)
    (outcome : Outcome S N κ) : Prop
  | underway {run : Run N} {queued : Option (Request S N)}
      (hphase : outcome.engine.phase = .running run queued)
      (hrun : run.completed engine.config page = final)
      (hreports : SameReports outcome.engine.config engine.config)
      (hhidden : outcome.engine.hidden = engine.hidden)
      (hdecisions : decisions outcome.effects = [])
  | completed (hphase : outcome.engine.phase = .idle)
      (hhidden : outcome.engine.hidden = final.hiddenAfter page engine.hidden)
      (hdecisions : decisions outcome.effects = decisions (final.effects page engine.hidden))

omit [Clock κ] in
/-- What an execution passes through is due. -/
theorem OnTheWay.due {engine : Engine S N κ} {final : Run N} {outcome : Outcome S N κ}
    (h : OnTheWay page engine final outcome) : Due page engine final outcome := by
  cases h with
  | heads _ h =>
    obtain ⟨run, queued, hphase, hrun⟩ := h.running
    exact .underway hphase hrun h.reports h.hidden h.decisions
  | reports _ h => exact .completed h.phase h.hidden h.decisions

section Steps

variable {engine : Engine S N κ} {final run : Run N} {queued : Option (Request S N)}
  {outcome : Outcome S N κ}

/-- A slice of the run under way. -/
theorem slice_due (hphase : outcome.engine.phase = .running run queued)
    (hrun : run.completed engine.config page = final)
    (hreports : SameReports outcome.engine.config engine.config)
    (hhidden : outcome.engine.hidden = engine.hidden)
    (hdecisions : decisions outcome.effects = []) :
    Due page engine final (outcome.andThen (outcome.engine.slice page)) := by
  have hnext : Due page outcome.engine final (outcome.engine.slice page) := by
    rw [← hrun, ← Run.completed_congr hreports]
    simp only [Engine.slice, hphase]
    exact (workOn_onTheWay page outcome.engine run queued).due
  cases hnext with
  | underway hphase hrun hmore hsame hnone =>
    refine .underway hphase ?_ (hmore.trans hreports) (hsame.trans hhidden) ?_
    · rw [← Run.completed_congr hreports, hrun]
    · rw [Outcome.andThen, decisions_append, hdecisions, hnone]
      rfl
  | completed hidle hafter htold =>
    refine .completed hidle ?_ ?_
    · rw [← hhidden]
      exact hafter
    · rw [Outcome.andThen, decisions_append, hdecisions, htold, hhidden]
      rfl

/-- A call of another kind. -/
theorem called_due (hphase : outcome.engine.phase = .running run queued)
    (hrun : run.completed engine.config page = final)
    (hreports : SameReports outcome.engine.config engine.config)
    (hhidden : outcome.engine.hidden = engine.hidden)
    (hdecisions : decisions outcome.effects = []) {call : Call S N} (hcall : call ≠ .resume) :
    Due page engine final (outcome.andThen (outcome.engine.call page call)) := by
  have hspares : Spares outcome.engine run (outcome.engine.call page call) :=
    call_spares hphase hcall
  obtain ⟨more, hmore⟩ := hspares.phase
  refine .underway hmore hrun ?_ (hspares.hidden.trans hhidden) ?_
  · show SameReports (outcome.engine.call page call).engine.config engine.config
    rw [hspares.config]
    exact hreports
  · rw [Outcome.andThen, decisions_append, hdecisions, hspares.decisions]
    rfl

end Steps

/-- **A completed run was due**: whatever happens on the way, what was due comes of it. -/
theorem Completion.due {engine : Engine S N κ} {final : Run N} {outcome last : Outcome S N κ}
    (h : Completion page outcome last) (hdue : Due page engine final outcome) :
    last.engine.hidden = final.hiddenAfter page engine.hidden ∧
      decisions last.effects = decisions (final.effects page engine.hidden) := by
  induction h with
  | done hidle =>
    cases hdue with
    | underway hphase => simp [hidle] at hphase
    | completed _ hhidden hdecisions => exact ⟨hhidden, hdecisions⟩
  | slice hrunning _ ih =>
    cases hdue with
    | underway hphase hrun hreports hhidden hdecisions =>
      exact ih (slice_due hphase hrun hreports hhidden hdecisions)
    | completed hidle => simp [hidle, Phase.isRunning] at hrunning
  | called hrunning call hcall _ ih =>
    cases hdue with
    | underway hphase hrun hreports hhidden hdecisions =>
      exact ih (called_due hphase hrun hreports hhidden hdecisions hcall)
    | completed hidle => simp [hidle, Phase.isRunning] at hrunning
  | adjusted hrunning clock config hsame _ ih =>
    cases hdue with
    | underway hphase hrun hreports hhidden hdecisions =>
      exact ih (.underway hphase hrun (hsame.trans hreports) hhidden hdecisions)
    | completed hidle => simp [hidle, Phase.isRunning] at hrunning

/-- A completion of the run of a request ends with what that run comes to. -/
theorem Completion.startRun {engine : Engine S N κ} {request : Request S N}
    {last : Outcome S N κ} (h : Completion page (engine.startRun page request) last) :
    last.engine.hidden = (engine.runOf page request).hiddenAfter page engine.hidden ∧
      decisions last.effects =
        decisions ((engine.runOf page request).effects page engine.hidden) :=
  h.due (startRun_onTheWay page engine request).due

/-- Slices alone complete a run. -/
theorem exists_completion (page : Page N S) (engine : Engine S N κ) (request : Request S N) :
    ∃ last, Completion page (engine.startRun page request) last := by
  cases startRun_onTheWay page engine request with
  | reports _ h => exact ⟨_, .done h.phase⟩
  | heads hwake h =>
    obtain ⟨run, queued, hphase, -⟩ := h.running
    refine slices_induction page (P := fun outcome => ∃ last, Completion page outcome last)
      (fun outcome _ hidle => ⟨outcome, .done hidle⟩) ?_ hwake hphase
    intro outcome run queued _ hphase hnext
    obtain ⟨last, hlast⟩ := hnext
    exact ⟨last, .slice (by rw [hphase]; rfl) hlast⟩

end CosmeticFilter.Engine
