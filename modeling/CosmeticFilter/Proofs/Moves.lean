/-
The moves of an engine.

Whatever a call does, it does by a few moves: notes are made, the clock is read, the engine
goes to wait or queues a request, a run begins, goes on for a slice, or is finished.  What
every move keeps is kept by every call, whichever it is and whatever the engine was doing.
So this is the place where the calls are taken apart.

To register patterns is no move.  It is what `apply` does first, so the moves of a call
start from the engine that has `heard` the call.
-/
import CosmeticFilter.Proofs.History
import CosmeticFilter.Proofs.Slicing

namespace CosmeticFilter

variable {S N κ : Type} [DecidableEq N]

/-- The run of a request at its start. -/
def Run.ofRequest (page : Page N S) (patterns : List Pattern) (request : Request S N) : Run N :=
  let classification := Classification.ofRequest patterns request
  .ofClassification classification (Engine.runStyles page request classification).1

/-- A slice that completes a run leaves nothing of it. -/
theorem Run.over_of_completed [Clock κ] {page : Page N S} {config : Config} {run : Run N}
    {clock : κ} (h : (run.slice page config clock).1 = true) :
    (run.slice page config clock).2.1.waiting = [] ∧
      (run.slice page config clock).2.1.current = none := by
  unfold slice sliceFrom at h ⊢
  simp only at h ⊢
  split
  · exact ⟨rfl, rfl⟩
  · rename_i waiting current hstop
    simp [hstop] at h

/-- A run is under way. -/
def Phase.isRunning : Phase S N → Bool
  | .running _ _ => true
  | _ => false

namespace Engine

/-- The engine with the patterns that are read from sources. -/
def given (engine : Engine S N κ) (sources : List PatternSource) : Engine S N κ :=
  { engine with
    patterns := (registration engine.nextSerial sources).1
    nextSerial := engine.nextSerial + (registration engine.nextSerial sources).1.length }

/-- The engine when it has heard the call, before it does anything else about it. -/
def heard (engine : Engine S N κ) : Call S N → Engine S N κ
  | .apply sources => engine.given sources
  | _ => engine

omit [DecidableEq N] in
@[simp] theorem heard_hidden (engine : Engine S N κ) (call : Call S N) :
    (engine.heard call).hidden = engine.hidden := by
  cases call <;> rfl

variable [Clock κ] {page : Page N S} {engine : Engine S N κ}

/-- Moves that lead from one engine to another, and the effects on the way. -/
inductive Moves (page : Page N S) : Engine S N κ → List (Effect N) → Engine S N κ → Prop
  | tells (engine : Engine S N κ) {effects : List (Effect N)} (h : decisions effects = []) :
      Moves page engine effects engine
  | retimed (engine : Engine S N κ) (clock : κ) :
      Moves page engine [] { engine with clock := clock }
  | waits {engine : Engine S N κ} (hphase : engine.phase.isRunning = false)
      {phase : Phase S N} (h : phase.isRunning = false) :
      Moves page engine [] { engine with phase := phase }
  | queues {engine : Engine S N κ} {run : Run N} {before : Option (Request S N)}
      (hphase : engine.phase = .running run before) (after : Option (Request S N)) :
      Moves page engine [] { engine with phase := .running run after }
  | begins {engine : Engine S N κ} (hphase : engine.phase.isRunning = false)
      (request : Request S N) :
      Moves page engine []
        { engine with phase := .running (.ofRequest page engine.patterns request) none }
  | sliced {engine : Engine S N κ} {run : Run N} {queued : Option (Request S N)}
      (hphase : engine.phase = .running run queued) :
      Moves page engine ((run.slice page engine.config engine.clock).2.2.2.map .note)
        { engine with
          clock := (run.slice page engine.config engine.clock).2.2.1
          phase := .running (run.slice page engine.config engine.clock).2.1 queued }
  | finished {engine : Engine S N κ} {run : Run N} {queued : Option (Request S N)}
      (hphase : engine.phase = .running run queued) (hwaiting : run.waiting = [])
      (hcurrent : run.current = none) :
      Moves page engine (run.effects page engine.hidden) (engine.finishRun page run).engine
  | append {first between last : Engine S N κ} {effects more : List (Effect N)}
      (h : Moves page first effects between) (hlast : Moves page between more last) :
      Moves page first (effects ++ more) last

/-- After a silent move. -/
theorem Moves.silent {first between last : Engine S N κ} {effects : List (Effect N)}
    (h : Moves page first [] between) (hlast : Moves page between effects last) :
    Moves page first effects last :=
  .append h hlast

/-! ### Calls -/

theorem workOn_moves {run : Run N} {queued : Option (Request S N)}
    (hphase : engine.phase = .running run queued) {next : Engine S N κ → Outcome S N κ}
    (hnext : ∀ finished : Engine S N κ, finished.phase = .idle →
      Moves page finished (next finished).effects (next finished).engine) :
    Moves page engine (engine.workOn page run queued next).effects
      (engine.workOn page run queued next).engine := by
  have hsliced : Moves page engine _ _ := .sliced hphase
  unfold workOn
  simp only
  split
  · rename_i hcompleted
    obtain ⟨hwaiting, hcurrent⟩ := Run.over_of_completed hcompleted
    exact .append hsliced (.append (.finished rfl hwaiting hcurrent) (hnext _ rfl))
  · exact .append hsliced (.tells _ rfl)

/-- The run of a request has begun. -/
def begin (page : Page N S) (engine : Engine S N κ) (request : Request S N) : Engine S N κ :=
  { engine with phase := .running (.ofRequest page engine.patterns request) none }

/-- To start a run is to begin it, and to work on it. -/
theorem begin_moves (page : Page N S) (engine : Engine S N κ) (request : Request S N) :
    Moves page (engine.begin page request) (engine.startRun page request).effects
      (engine.startRun page request).engine := by
  have hquiet : ∀ finished : Engine S N κ, finished.phase = .idle →
      Moves page finished (Outcome.quiet finished).effects (Outcome.quiet finished).engine :=
    fun finished _ => .tells finished rfl
  let run := Run.ofRequest page engine.patterns request
  have hworked := workOn_moves
    (show (engine.begin page request).phase = .running run none from rfl) hquiet
  -- To work on a run is the same whatever the phase is.
  have hsame : (engine.begin page request).workOn page run none .quiet =
    engine.workOn page run none .quiet := rfl
  rw [hsame] at hworked
  exact .append (.tells _ (decisions_notes _)) hworked

theorem startRun_moves (hphase : engine.phase.isRunning = false) (request : Request S N) :
    Moves page engine (engine.startRun page request).effects
      (engine.startRun page request).engine :=
  .silent (.begins hphase request) (begin_moves page engine request)

theorem startWhenReady_moves (hphase : engine.phase.isRunning = false) (request : Request S N) :
    Moves page engine (engine.startWhenReady page request).effects
      (engine.startWhenReady page request).engine := by
  unfold startWhenReady
  split
  · exact .silent (.waits hphase rfl) (.tells _ rfl)
  · exact startRun_moves hphase request

theorem takeUp_moves (hphase : engine.phase.isRunning = false) (request : Request S N) :
    Moves page engine (engine.takeUp page request).effects
      (engine.takeUp page request).engine := by
  have hretimed : Moves page engine [] _ := .retimed engine (Clock.now engine.clock).2
  have hthen : ({ engine with clock := (Clock.now engine.clock).2 } : Engine S N κ).phase.isRunning =
      false := hphase
  unfold takeUp
  simp only
  split
  · exact .silent hretimed (.silent (.waits hthen rfl) (.tells _ rfl))
  · exact .silent hretimed (startWhenReady_moves hthen request)

theorem request_moves (page : Page N S) (engine : Engine S N κ) (request : Request S N) :
    Moves page engine (engine.request page request).effects
      (engine.request page request).engine := by
  unfold Engine.request
  cases hphase : engine.phase with
  | idle => exact takeUp_moves (by rw [hphase]; rfl) request
  | debouncing waiting => exact .waits (by rw [hphase]; rfl) rfl
  | awaitingReady waiting => exact .waits (by rw [hphase]; rfl) rfl
  | running run queued => exact .queues hphase _

theorem apply_moves (page : Page N S) (engine : Engine S N κ) (sources : List PatternSource) :
    Moves page (engine.given sources) (engine.apply page sources).effects
      (engine.apply page sources).engine := by
  unfold Engine.apply
  simp only
  refine .append (.tells _ (decisions_notes _)) ?_
  split
  · exact .tells _ rfl
  · exact .append (request_moves page (engine.given sources) .full) (.tells _ rfl)

theorem changed_moves (page : Page N S) (engine : Engine S N κ) (changes : List (Mutation N)) :
    Moves page engine (engine.changed page changes).effects
      (engine.changed page changes).engine := by
  unfold changed
  split
  · exact .tells engine rfl
  · exact request_moves page engine _

theorem sheetLoaded_moves (page : Page N S) (engine : Engine S N κ) (sheet : S) :
    Moves page engine (engine.sheetLoaded page sheet).effects
      (engine.sheetLoaded page sheet).engine := by
  unfold sheetLoaded
  split
  · exact .tells engine rfl
  · exact request_moves page engine _

theorem timerFired_moves (page : Page N S) (engine : Engine S N κ) :
    Moves page engine (engine.timerFired page).effects (engine.timerFired page).engine := by
  unfold timerFired
  split
  · rename_i request hphase
    have hidle : Moves page engine [] { engine with phase := .idle } :=
      .waits (by rw [hphase]; rfl) rfl
    exact .silent hidle (startWhenReady_moves rfl request)
  · exact .tells engine rfl

theorem documentReady_moves (page : Page N S) (engine : Engine S N κ) :
    Moves page engine (engine.documentReady page).effects
      (engine.documentReady page).engine := by
  unfold documentReady
  split
  · rename_i request hphase
    have hidle : Moves page engine [] { engine with phase := .idle } :=
      .waits (by rw [hphase]; rfl) rfl
    exact .silent hidle (startRun_moves rfl request)
  · exact .tells engine rfl

theorem resume_moves (page : Page N S) (engine : Engine S N κ) :
    Moves page engine (engine.resume page).effects (engine.resume page).engine := by
  unfold resume
  split
  · rename_i run queued hphase
    refine workOn_moves hphase fun finished hidle => ?_
    cases queued with
    | none => exact .tells finished rfl
    | some request => exact takeUp_moves (by rw [hidle]; rfl) request
  · exact .tells engine rfl

/-- **Every call is made of moves.** -/
theorem call_moves (page : Page N S) (engine : Engine S N κ) (call : Call S N) :
    Moves page (engine.heard call) (engine.call page call).effects
      (engine.call page call).engine := by
  cases call with
  | apply sources => exact apply_moves page engine sources
  | request request => exact request_moves page engine request
  | changed changes => exact changed_moves page engine changes
  | sheetLoaded sheet => exact sheetLoaded_moves page engine sheet
  | timerFired => exact timerFired_moves page engine
  | documentReady => exact documentReady_moves page engine
  | resume => exact resume_moves page engine

/-! ### What all moves keep -/

/-- Moves leave the patterns and their numbers alone, and the settings. -/
theorem Moves.terms {other : Engine S N κ} {effects : List (Effect N)}
    (h : Moves page engine effects other) :
    other.patterns = engine.patterns ∧ other.nextSerial = engine.nextSerial ∧
      other.config = engine.config := by
  induction h with
  | append _ _ ih ihlast =>
    exact ⟨ihlast.1.trans ih.1, ihlast.2.1.trans ih.2.1, ihlast.2.2.trans ih.2.2⟩
  | tells | retimed | waits | queues | begins | sliced | finished => exact ⟨rfl, rfl, rfl⟩

end Engine

end CosmeticFilter
