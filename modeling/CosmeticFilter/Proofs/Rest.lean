/-
Following an engine until it rests.

A request that is made while the engine is idle may have to wait for the time of the next
run and for the document, and its run may take any number of slices.  `Rests` follows the
wake-ups through all of this on a page that stays the same.  Whatever the clock says on the
way, there is a moment at which the engine is idle again, and at this moment it shows
nothing but the completed run of the request.
-/
import CosmeticFilter.Proofs.RequestFlow
import CosmeticFilter.Proofs.Slicing

namespace CosmeticFilter.Engine

variable {S N κ : Type} [DecidableEq N] [Clock κ]

/-- Calls the engine in the way it asked for. -/
def answer (page : Page N S) (engine : Engine S N κ) : Wake → Outcome S N κ
  | .timer _ => engine.timerFired page
  | .documentReady => engine.documentReady page
  | .resume => engine.resume page

/-- The wake-ups of an engine are followed, at any time of the clock, until it is idle. -/
inductive Rests (page : Page N S) : Outcome S N κ → Outcome S N κ → Prop
  | idle {outcome : Outcome S N κ} (hphase : outcome.engine.phase = .idle) :
      Rests page outcome outcome
  | answered {outcome last : Outcome S N κ} {wake : Wake} (hwake : outcome.wake = some wake)
      (clock : κ)
      (h : Rests page
        (outcome.andThen ({ outcome.engine with clock := clock }.answer page wake)) last) :
      Rests page outcome last

/-! ### From a request to its run -/

/-- A request on its way: it waits, or its run has been started. -/
inductive Pursues (page : Page N S) (engine : Engine S N κ) (request : Request S N)
    (outcome : Outcome S N κ) : Prop
  | debouncing (hphase : outcome.engine.phase = .debouncing request)
      (hwake : ∃ delay, outcome.wake = some (.timer delay)) (h : Unmoved engine outcome)
  | awaitingReady (hphase : outcome.engine.phase = .awaitingReady request)
      (hwake : outcome.wake = some .documentReady) (h : Unmoved engine outcome)
  | started (hqueued : outcome.engine.queued = none)
      (h : OnTheWay page engine (engine.runOf page request) outcome)

theorem startRun_queued (page : Page N S) (engine : Engine S N κ) (request : Request S N) :
    (engine.startRun page request).engine.queued = none := by
  have hkept := (startRun_settles page engine request).kept
  have hbegun : (engine.startRun page request).begun = [request] := rfl
  rw [hbegun] at hkept
  cases hqueued : (engine.startRun page request).engine.queued with
  | none => rfl
  | some waiting => simp [hqueued] at hkept

variable {page : Page N S} {engine : Engine S N κ} {outcome : Outcome S N κ}

theorem Unmoved.startRun (h : Unmoved engine outcome) (request : Request S N) :
    Pursues page engine request (outcome.andThen (outcome.engine.startRun page request)) := by
  refine .started (startRun_queued page _ request) (h.onTheWay ?_)
  rw [← runOf_congr page h.patterns h.reports]
  exact startRun_onTheWay page outcome.engine request

theorem Unmoved.startWhenReady (h : Unmoved engine outcome) (request : Request S N) :
    Pursues page engine request
      (outcome.andThen (outcome.engine.startWhenReady page request)) := by
  unfold Engine.startWhenReady
  split
  · refine .awaitingReady rfl rfl ⟨h.patterns, h.reports, h.hidden, h.processed, ?_⟩
    simpa [Outcome.andThen, CosmeticFilter.decisions, Effect.isDecision] using h.decisions
  · exact h.startRun request

omit [DecidableEq N] [Clock κ] in
/-- What an engine waits for and its clock are no part of what it shows. -/
theorem Unmoved.retimed (h : Unmoved engine outcome) (clock : κ) (phase : Phase S N) :
    Unmoved engine
      { outcome with engine := { outcome.engine with clock := clock, phase := phase } } :=
  ⟨h.patterns, h.reports, h.hidden, h.processed, h.decisions⟩

theorem Unmoved.takeUp (h : Unmoved engine outcome) (request : Request S N) :
    Pursues page engine request (outcome.andThen (outcome.engine.takeUp page request)) := by
  unfold Engine.takeUp
  simp only
  split
  · refine .debouncing rfl ⟨_, rfl⟩ ⟨h.patterns, h.reports, h.hidden, h.processed, ?_⟩
    simpa [Outcome.andThen, CosmeticFilter.decisions, Effect.isDecision] using h.decisions
  · exact (h.retimed (Clock.now outcome.engine.clock).2 outcome.engine.phase).startWhenReady
      request

/-- An idle engine that has been asked, before it does anything about it. -/
def asked (engine : Engine S N κ) (request : Request S N) : Outcome S N κ :=
  { (.quiet engine : Outcome S N κ) with requested := [request] }

theorem request_of_idle (page : Page N S) {engine : Engine S N κ} (hphase : engine.phase = .idle)
    (request : Request S N) :
    engine.request page request =
      (engine.asked request).andThen (engine.takeUp page request) := by
  simp [Engine.request, hphase, asked, Outcome.andThen, Outcome.quiet,
    (takeUp_settles page engine request).requested]

/-- A request to an idle engine is on its way. -/
theorem request_pursues (page : Page N S) {engine : Engine S N κ}
    (hphase : engine.phase = .idle) (request : Request S N) :
    Pursues page engine request (engine.request page request) := by
  have hunmoved : Unmoved engine (engine.asked request) :=
    ⟨rfl, SameReports.refl _, rfl, rfl, rfl⟩
  rw [request_of_idle page hphase]
  exact hunmoved.takeUp request

/-- The answer to its wake-up takes a request further. -/
theorem Pursues.answer {request : Request S N} (h : Pursues page engine request outcome)
    {wake : Wake} (hwake : outcome.wake = some wake) (clock : κ) :
    Pursues page engine request
      (outcome.andThen ({ outcome.engine with clock := clock }.answer page wake)) := by
  cases h with
  | debouncing hphase hdelay h =>
    obtain ⟨delay, hdelay⟩ := hdelay
    obtain rfl : wake = .timer delay := Option.some.inj (hwake.symm.trans hdelay)
    simp only [Engine.answer, timerFired, hphase]
    exact (h.retimed clock .idle).startWhenReady request
  | awaitingReady hphase hready h =>
    obtain rfl : wake = .documentReady := Option.some.inj (hwake.symm.trans hready)
    simp only [Engine.answer, documentReady, hphase]
    exact (h.retimed clock .idle).startRun request
  | started hqueued h =>
    cases h with
    | reports hnone _ => simp [hnone] at hwake
    | heads hresume h =>
      obtain rfl : wake = .resume := Option.some.inj (hwake.symm.trans hresume)
      obtain ⟨run, queued, hphase, hrun⟩ := h.running
      obtain rfl : queued = none := by simpa [Engine.queued, hphase] using hqueued
      have hheads : Heads page engine (engine.runOf page request)
          { outcome with engine := { outcome.engine with clock := clock } } :=
        ⟨h.toUnmoved.retimed clock outcome.engine.phase, run, none, hphase, hrun⟩
      have hslice : ({ outcome.engine with clock := clock }.answer page .resume) =
          ({ outcome.engine with clock := clock } : Engine S N κ).slice page := by
        simp only [Engine.answer]
        rw [resume_eq_slice page { outcome.engine with clock := clock } hphase]
        simp
      rw [hslice]
      refine .started ?_ (slice_onTheWay hheads)
      simp only [Outcome.andThen, slice, hphase, workOn]
      split <;> rfl

/-- **Following a request to rest.**  What is shown in the end is its completed run. -/
theorem Rests.reports {request : Request S N} {last : Outcome S N κ}
    (h : Rests page outcome last) (hpursues : Pursues page engine request outcome) :
    Reports page engine (engine.runOf page request) last := by
  induction h with
  | idle hphase =>
    cases hpursues with
    | debouncing hdebouncing => simp [hphase] at hdebouncing
    | awaitingReady hawaiting => simp [hphase] at hawaiting
    | started _ h =>
      cases h with
      | heads _ h =>
        obtain ⟨run, queued, hrunning, -⟩ := h.running
        simp [hphase] at hrunning
      | reports _ h => exact h
  | answered hwake clock _ ih => exact ih (hpursues.answer hwake clock)

/-! ### There is a rest -/

theorem exists_rests_running {run : Run N} (hwake : outcome.wake = some .resume)
    (hphase : outcome.engine.phase = .running run none) :
    ∃ last, Rests page outcome last := by
  suffices hrest : outcome.engine.queued = none → ∃ last, Rests page outcome last by
    exact hrest (by simp [queued, hphase])
  refine slices_induction page
    (P := fun outcome => outcome.engine.queued = none → ∃ last, Rests page outcome last)
    (fun outcome _ hidle _ => ⟨outcome, .idle hidle⟩) ?_ hwake hphase
  intro outcome run queued hresume hrunning ih hnone
  obtain rfl : queued = none := by simpa [Engine.queued, hrunning] using hnone
  have hslice : ({ outcome.engine with clock := outcome.engine.clock }.answer page .resume) =
      outcome.engine.slice page := by
    simp only [answer]
    rw [resume_eq_slice page outcome.engine hrunning]
    simp
  obtain ⟨last, hlast⟩ := ih (by
    simp only [Outcome.andThen, slice, hrunning, workOn]
    split <;> rfl)
  exact ⟨last, .answered hresume outcome.engine.clock (hslice ▸ hlast)⟩

theorem exists_rests_startRun (page : Page N S) (outcome : Outcome S N κ)
    (request : Request S N) :
    ∃ last, Rests page (outcome.andThen (outcome.engine.startRun page request)) last := by
  have hqueued := startRun_queued page outcome.engine request
  cases startRun_onTheWay page outcome.engine request with
  | reports _ h => exact ⟨_, .idle h.phase⟩
  | heads hwake h =>
    obtain ⟨run, queued, hphase, -⟩ := h.running
    obtain rfl : queued = none := by simpa [Engine.queued, hphase] using hqueued
    exact exists_rests_running hwake hphase

theorem exists_rests_startWhenReady (page : Page N S) (outcome : Outcome S N κ)
    (request : Request S N) :
    ∃ last, Rests page (outcome.andThen (outcome.engine.startWhenReady page request)) last := by
  unfold Engine.startWhenReady
  split
  · obtain ⟨last, hlast⟩ := exists_rests_startRun page
      (outcome.andThen
        { engine := outcome.engine, wake := none, effects := [.note .awaitingDocument] }) request
    exact ⟨last, .answered rfl outcome.engine.clock hlast⟩
  · exact exists_rests_startRun page outcome request

theorem exists_rests_takeUp (page : Page N S) (outcome : Outcome S N κ)
    (request : Request S N) :
    ∃ last, Rests page (outcome.andThen (outcome.engine.takeUp page request)) last := by
  unfold Engine.takeUp
  simp only
  split
  · rename_i delay _
    obtain ⟨last, hlast⟩ := exists_rests_startWhenReady page
      (outcome.andThen
        { engine := { outcome.engine with
            clock := (Clock.now outcome.engine.clock).2, phase := .idle }
          wake := none
          effects := [.note (.deferred delay)] }) request
    exact ⟨last, .answered rfl (Clock.now outcome.engine.clock).2 hlast⟩
  · exact exists_rests_startWhenReady page
      { outcome with engine :=
        { outcome.engine with clock := (Clock.now outcome.engine.clock).2 } } request

/-- A request to an idle engine can be followed until the engine is idle again. -/
theorem exists_rests (page : Page N S) {engine : Engine S N κ} (hphase : engine.phase = .idle)
    (request : Request S N) : ∃ last, Rests page (engine.request page request) last := by
  rw [request_of_idle page hphase]
  exact exists_rests_takeUp page (engine.asked request) request

end CosmeticFilter.Engine
