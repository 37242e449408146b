/-
No request is lost, made twice, or overtaken.

Requests enter an engine one at a time.  A request waits, alone or merged with those that
waited before it, until a run begins that takes up everything that waits.  So the runs
that have begun, and what waits behind them, cut the list of all requests into blocks of
neighbours, and each of them is the merger of its block.

`Folded` is this relation between requests and their mergers, built up one request at a
time.  A call does one of three things to it, listed in `Flow`: what waits is passed on,
a request enters an engine in which nothing waits, or it joins the one that waits.
-/
import CosmeticFilter.Proofs.History
import CosmeticFilter.Proofs.Slicing
import Mathlib.Data.List.Induction

namespace CosmeticFilter

variable {S N κ : Type}

namespace Request

/-- The merger of a block of requests, given by its first one and the others. -/
def mergeBlock (block : Request S N × List (Request S N)) : Request S N :=
  block.2.foldl merge block.1

/-- A block in the order in which its requests were made. -/
def unblock (block : Request S N × List (Request S N)) : List (Request S N) :=
  block.1 :: block.2

/-- A merger is full as soon as one request is; else it names all that the requests name. -/
theorem mergeBlock_eq (block : Request S N × List (Request S N)) :
    mergeBlock block =
      if (unblock block).any isFull then .full
      else .partly ((unblock block).flatMap sheets) ((unblock block).flatMap changes) := by
  obtain ⟨first, more⟩ := block
  simp only [mergeBlock, unblock]
  induction more generalizing first with
  | nil => cases first <;> simp [isFull, sheets, changes]
  | cons next more ih =>
    rw [List.foldl_cons, ih]
    cases first <;> cases next <;> simp [merge, isFull, sheets, changes]

/-- The second list holds the mergers of consecutive blocks that the first list is cut into. -/
inductive Folded : List (Request S N) → List (Request S N) → Prop
  | nil : Folded [] []
  | enter {requests mergers : List (Request S N)} (h : Folded requests mergers)
      (request : Request S N) : Folded (requests ++ [request]) (mergers ++ [request])
  | join {requests mergers : List (Request S N)} {waiting : Request S N}
      (h : Folded requests (mergers ++ [waiting])) (request : Request S N) :
      Folded (requests ++ [request]) (mergers ++ [waiting.merge request])

/-- The blocks themselves. -/
theorem Folded.blocks {requests mergers : List (Request S N)} (h : Folded requests mergers) :
    ∃ blocks : List (Request S N × List (Request S N)),
      blocks.flatMap unblock = requests ∧ blocks.map mergeBlock = mergers := by
  induction h with
  | nil => exact ⟨[], rfl, rfl⟩
  | enter _ request ih =>
    obtain ⟨blocks, hflat, hmerge⟩ := ih
    refine ⟨blocks ++ [(request, [])], ?_, ?_⟩
    · rw [List.flatMap_append, hflat]
      simp [unblock]
    · rw [List.map_append, hmerge]
      simp [mergeBlock]
  | @join requests mergers waiting _ request ih =>
    obtain ⟨blocks, hflat, hmerge⟩ := ih
    -- The last block is the one whose merger waits.
    obtain ⟨before, last, rfl, hbefore, hlast⟩ := List.map_eq_append_iff.mp hmerge
    obtain ⟨block, rfl, hblock⟩ := List.map_eq_singleton_iff.mp hlast
    refine ⟨before ++ [(block.1, block.2 ++ [request])], ?_, ?_⟩
    · rw [← hflat]
      simp [unblock]
    · rw [List.map_append, hbefore, ← hblock]
      simp [mergeBlock]

end Request

namespace Engine

variable [DecidableEq N] [Clock κ]

/-- What a call does to the requests: those that wait before, and after it with those begun. -/
inductive Flow (engine : Engine S N κ) (outcome : Outcome S N κ) : Prop
  | pass (hrequested : outcome.requested = [])
      (hkept : outcome.begun ++ outcome.engine.queued.toList = engine.queued.toList)
  | enter (request : Request S N) (hrequested : outcome.requested = [request])
      (hempty : engine.queued = none)
      (hkept : outcome.begun ++ outcome.engine.queued.toList = [request])
  | join (request waiting : Request S N) (hrequested : outcome.requested = [request])
      (hwaiting : engine.queued = some waiting) (hbegun : outcome.begun = [])
      (hkept : outcome.engine.queued = some (waiting.merge request))

/-! ### What is requested -/

/-- The requests that a call makes: the host's own, or one of the engine that has patterns. -/
def submitted (engine : Engine S N κ) : Call S N → List (Request S N)
  | .apply sources => if (registration engine.nextSerial sources).1.isEmpty then [] else [.full]
  | .request request => [request]
  | .changed changes =>
    if engine.patterns.isEmpty || changes.isEmpty then [] else [.partly [] changes]
  | .sheetLoaded sheet => if engine.patterns.isEmpty then [] else [.partly [sheet] []]
  | .timerFired | .documentReady | .resume => []

/-- New patterns ask for a full run, if there are any. -/
theorem apply_requested (page : Page N S) (engine : Engine S N κ)
    (sources : List PatternSource) :
    (engine.apply page sources).requested = engine.submitted (.apply sources) := by
  unfold Engine.apply submitted
  simp only
  split <;> rfl

/-- Whatever the phase is, the request enters as it is. -/
theorem request_requested (page : Page N S) (engine : Engine S N κ) (request : Request S N) :
    (engine.request page request).requested = engine.submitted (.request request) := rfl

/-- Changes that are reported to an engine with patterns ask for a run that names them. -/
theorem changed_requested (page : Page N S) (engine : Engine S N κ)
    (changes : List (Mutation N)) :
    (engine.changed page changes).requested = engine.submitted (.changed changes) := by
  unfold changed submitted
  simp only
  split <;> rfl

/-- A new sheet asks for a run that names it. -/
theorem sheetLoaded_requested (page : Page N S) (engine : Engine S N κ) (sheet : S) :
    (engine.sheetLoaded page sheet).requested = engine.submitted (.sheetLoaded sheet) := by
  unfold sheetLoaded submitted
  simp only
  split <;> rfl

/-! ### Starting -/

omit [DecidableEq N] [Clock κ] in
theorem Flow.quiet (engine : Engine S N κ) : Flow engine (.quiet engine) :=
  .pass rfl rfl

omit [DecidableEq N] [Clock κ] in
theorem Flow.stray (engine : Engine S N κ) (note : Note) :
    Flow engine { engine := engine, wake := none, effects := [.note note] } :=
  .pass rfl rfl

/-- A request that is dealt with: it makes no other, and is begun or waits alone. -/
structure Settles (request : Request S N) (outcome : Outcome S N κ) : Prop where
  requested : outcome.requested = []
  kept : outcome.begun ++ outcome.engine.queued.toList = [request]

/-- A run that begins with nothing queued leaves nothing queued. -/
theorem startRun_settles (page : Page N S) (engine : Engine S N κ) (request : Request S N) :
    Settles request (engine.startRun page request) := by
  unfold startRun workOn
  simp only
  split
  · exact ⟨rfl, rfl⟩
  · exact ⟨rfl, rfl⟩

theorem startWhenReady_settles (page : Page N S) (engine : Engine S N κ)
    (request : Request S N) : Settles request (engine.startWhenReady page request) := by
  unfold startWhenReady
  split
  · exact ⟨rfl, rfl⟩
  · exact startRun_settles page engine request

theorem takeUp_settles (page : Page N S) (engine : Engine S N κ) (request : Request S N) :
    Settles request (engine.takeUp page request) := by
  unfold takeUp
  simp only
  split
  · exact ⟨rfl, rfl⟩
  · exact startWhenReady_settles page _ request

/-! ### Calls -/

theorem request_flow (page : Page N S) (engine : Engine S N κ) (request : Request S N) :
    Flow engine (engine.request page request) := by
  unfold Engine.request
  cases hphase : engine.phase with
  | idle =>
    refine .enter request rfl ?_ (takeUp_settles page engine request).kept
    simp [queued, hphase]
  | debouncing waiting =>
    refine .join request waiting rfl ?_ rfl rfl
    simp [queued, hphase]
  | awaitingReady waiting =>
    refine .join request waiting rfl ?_ rfl rfl
    simp [queued, hphase]
  | running run waiting =>
    cases waiting with
    | none =>
      refine .enter request rfl ?_ rfl
      simp [queued, hphase]
    | some waiting =>
      refine .join request waiting rfl ?_ rfl rfl
      simp [queued, hphase]

theorem timerFired_flow (page : Page N S) (engine : Engine S N κ) :
    Flow engine (engine.timerFired page) := by
  unfold timerFired
  split
  · rename_i request hphase
    have h := startWhenReady_settles page { engine with phase := .idle } request
    refine .pass h.requested (h.kept.trans ?_)
    simp [queued, hphase]
  · exact Flow.stray engine _

theorem documentReady_flow (page : Page N S) (engine : Engine S N κ) :
    Flow engine (engine.documentReady page) := by
  unfold documentReady
  split
  · rename_i request hphase
    have h := startRun_settles page { engine with phase := .idle } request
    refine .pass h.requested (h.kept.trans ?_)
    simp [queued, hphase]
  · exact Flow.stray engine _

/-- A slice keeps what is queued; the slice that completes a run hands it on. -/
theorem resume_flow (page : Page N S) (engine : Engine S N κ) :
    Flow engine (engine.resume page) := by
  unfold resume
  split
  · rename_i run waiting hphase
    have hqueued : engine.queued = waiting := by simp [queued, hphase]
    unfold workOn
    simp only
    split
    · cases waiting with
      | none =>
        refine .pass rfl ?_
        rw [hqueued]
        rfl
      | some request =>
        have h := takeUp_settles page
          ({ engine with clock := (run.slice page engine.config engine.clock).2.2.1 }.finishRun
            page (run.slice page engine.config engine.clock).2.1).engine request
        refine .pass h.requested (h.kept.trans ?_)
        rw [hqueued]
        rfl
    · refine .pass rfl ?_
      rw [hqueued]
      rfl
  · exact Flow.stray engine _

/-- A wake-up makes no request, in its time or not. -/
theorem wakeUp_requested (page : Page N S) (engine : Engine S N κ) :
    (engine.timerFired page).requested = [] ∧ (engine.documentReady page).requested = [] ∧
      (engine.resume page).requested = [] := by
  refine ⟨?_, ?_, ?_⟩
  · unfold timerFired
    split
    · exact (startWhenReady_settles page _ _).requested
    · rfl
  · unfold documentReady
    split
    · exact (startRun_settles page _ _).requested
    · rfl
  · unfold resume workOn
    simp only
    split
    · split
      · split
        · exact (takeUp_settles page _ _).requested
        · rfl
      · rfl
    · rfl

/-- **A call requests what it submits**, and nothing else. -/
theorem call_requested (page : Page N S) (engine : Engine S N κ) (call : Call S N) :
    (engine.call page call).requested = engine.submitted call := by
  obtain ⟨htimer, hready, hresume⟩ := wakeUp_requested page engine
  cases call with
  | apply sources => exact apply_requested page engine sources
  | request request => exact request_requested page engine request
  | changed changes => exact changed_requested page engine changes
  | sheetLoaded sheet => exact sheetLoaded_requested page engine sheet
  | timerFired => exact htimer
  | documentReady => exact hready
  | resume => exact hresume

theorem apply_flow (page : Page N S) (engine : Engine S N κ) (sources : List PatternSource) :
    Flow engine (engine.apply page sources) := by
  unfold Engine.apply
  simp only
  split
  · exact .pass rfl rfl
  · -- Registering patterns leaves alone what waits.
    cases request_flow page { engine with
        patterns := (registration engine.nextSerial sources).1
        nextSerial := engine.nextSerial + (registration engine.nextSerial sources).1.length }
        .full with
    | pass hrequested hkept => exact .pass hrequested hkept
    | enter request hrequested hempty hkept => exact .enter request hrequested hempty hkept
    | join request waiting hrequested hwaiting hbegun hkept =>
      exact .join request waiting hrequested hwaiting hbegun hkept

theorem call_flow (page : Page N S) (engine : Engine S N κ) (call : Call S N) :
    Flow engine (engine.call page call) := by
  cases call with
  | apply sources => exact apply_flow page engine sources
  | request request => exact request_flow page engine request
  | changed changes =>
    unfold Engine.call changed
    simp only
    split
    · exact Flow.quiet engine
    · exact request_flow page engine _
  | sheetLoaded sheet =>
    unfold Engine.call sheetLoaded
    simp only
    split
    · exact Flow.quiet engine
    · exact request_flow page engine _
  | timerFired => exact timerFired_flow page engine
  | documentReady => exact documentReady_flow page engine
  | resume => exact resume_flow page engine

theorem meet_flow (engine : Engine S N κ) (event : Event S N κ) :
    Flow engine (engine.meet event) := by
  cases event with
  | called page call => exact call_flow page engine call
  | configured config => exact .pass rfl rfl
  | clockMoved clock => exact .pass rfl rfl

/-! ### Histories -/

/-- Everything that was requested so far has been folded into runs and what waits. -/
abbrev Accounted (outcome : Outcome S N κ) : Prop :=
  Request.Folded outcome.requested (outcome.begun ++ outcome.engine.queued.toList)

omit [DecidableEq N] [Clock κ] in
theorem accounted_andThen {first next : Outcome S N κ} (hfirst : Accounted first)
    (hflow : Flow first.engine next) : Accounted (first.andThen next) := by
  unfold Accounted at hfirst ⊢
  simp only [Outcome.andThen, List.append_assoc]
  cases hflow with
  | pass hrequested hkept => rwa [hrequested, hkept, List.append_nil]
  | enter request hrequested hempty hkept =>
    rw [hrequested, hkept]
    rw [hempty, Option.toList_none, List.append_nil] at hfirst
    exact hfirst.enter request
  | join request waiting hrequested hwaiting hbegun hkept =>
    rw [hrequested, hbegun, hkept]
    rw [hwaiting] at hfirst
    exact hfirst.join request

theorem meetAll_accounted (config : Config) (clock : κ) (events : List (Event S N κ)) :
    Accounted ((Engine.new config clock).meetAll events) := by
  induction events using List.reverseRecOn with
  | nil => exact .nil
  | append_singleton events event ih =>
    rw [meetAll_concat]
    exact accounted_andThen ih (meet_flow _ event)

/--
**The requests of a history are cut into blocks of neighbours, and each run that has begun,
and then what waits, is the merger of one block.**  A merger is full if a request of its
block is; otherwise it names the sheets and the changes that the requests name, in order.
-/
theorem requests_accounted (config : Config) (clock : κ) (events : List (Event S N κ)) :
    let outcome := (Engine.new config clock).meetAll events
    ∃ blocks : List (Request S N × List (Request S N)),
      blocks.flatMap Request.unblock = outcome.requested ∧
      blocks.map Request.mergeBlock = outcome.begun ++ outcome.engine.queued.toList ∧
      ∀ block ∈ blocks, Request.mergeBlock block =
        if (Request.unblock block).any Request.isFull then .full
        else .partly ((Request.unblock block).flatMap Request.sheets)
          ((Request.unblock block).flatMap Request.changes) := by
  obtain ⟨blocks, hflat, hmerge⟩ := (meetAll_accounted config clock events).blocks
  exact ⟨blocks, hflat, hmerge, fun block _ => Request.mergeBlock_eq block⟩

/--
Two requests wait for the document and are merged into one run.  The next one is full, and takes
in the two behind it.
-/
theorem requests_accounted_merged :
    let reading : Document := { boxDocument with isLoading := true }
    let removal : Mutation Nat := .childList 2 [] [3]
    let events : List (Event Nat Nat PausedClock) :=
      [.called reading.page (.request (.partly [0] [])),
        .called reading.page (.request (.partly [] [.childList 1 [2] []])),
        .called boxDocument.page .documentReady,
        .called boxDocument.page (.apply [⟨"p", "paragraphs"⟩]),
        .called boxDocument.page (.changed [removal]),
        .called boxDocument.page (.sheetLoaded 1)]
    let outcome := (Engine.new Config.default ⟨.zero⟩).meetAll events
    outcome.requested = [.partly [0] [], .partly [] [.childList 1 [2] []], .full,
        .partly [] [removal], .partly [1] []] ∧
      outcome.begun = [.partly [0] [.childList 1 [2] []]] ∧
      outcome.engine.queued = some .full ∧
      ∃ blocks : List (Request Nat Nat × List (Request Nat Nat)),
        blocks.flatMap Request.unblock = outcome.requested ∧
        blocks.map Request.mergeBlock = [.partly [0] [.childList 1 [2] []], .full] := by
  intro reading removal events outcome
  have hrequested : outcome.requested = [.partly [0] [], .partly [] [.childList 1 [2] []], .full,
      .partly [] [removal], .partly [1] []] := by with_unfolding_all rfl
  have hbegun : outcome.begun = [.partly [0] [.childList 1 [2] []]] := by with_unfolding_all rfl
  have hqueued : outcome.engine.queued = some .full := by with_unfolding_all rfl
  obtain ⟨blocks, hflat, hmerge, -⟩ := requests_accounted Config.default (⟨.zero⟩ : PausedClock)
    events
  refine ⟨hrequested, hbegun, hqueued, blocks, hflat, hmerge.trans ?_⟩
  show outcome.begun ++ outcome.engine.queued.toList = _
  rw [hbegun, hqueued]
  rfl

end Engine

end CosmeticFilter
