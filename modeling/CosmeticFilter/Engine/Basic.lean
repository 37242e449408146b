/-
The engine.

At most one run is going on at a time, and a run does not start before the document
has been read nor too soon after the run before.  A request that comes in while
another one waits or runs is merged with what waits already.  The engine never waits
itself: it answers each call with the wake-up that it needs next.
-/
import CosmeticFilter.Engine.Finish

namespace CosmeticFilter

/-- How the engine wants to be called again. -/
inductive Wake where
  /-- After this delay. -/
  | timer (delay : Span)
  /-- When the document has been read. -/
  | documentReady
  /-- Soon, to go on with a run. -/
  | resume
  deriving DecidableEq, Repr

/--
What the engine is doing, together with the request that is queued.  Nothing is queued in an
engine that is idle, and something always is in one that waits: whatever makes the engine wait
queues the request that it waits with, and whatever ends the waiting takes that request out of
the queue.  Only a run may go on with something queued or with nothing.
-/
inductive Phase (S N : Type) where
  /-- Nothing is going on, and nothing is queued. -/
  | idle
  /-- Waiting until the last run is long enough ago; this request is queued. -/
  | debouncing (request : Request S N)
  /-- Waiting until the document has been read; this request is queued. -/
  | awaitingReady (request : Request S N)
  /-- Between two slices of a run; what was requested meanwhile is queued. -/
  | running (run : Run N) (queued : Option (Request S N))

/-- The state of the engine; `κ` is the type of its clock. -/
structure Engine (S N κ : Type) where
  config : Config
  clock : κ
  patterns : List Pattern
  /-- The number of the next pattern. -/
  nextSerial : Nat
  /-- The elements that are hidden, and the patterns believed to match them. -/
  hidden : MatchTable N
  phase : Phase S N
  lastRunEnd : Option Span
  /-- The candidates that the last run looked at, in test mode. -/
  lastProcessed : List N

/-- The answer to a call. -/
structure Outcome (S N κ : Type) where
  engine : Engine S N κ
  wake : Option Wake
  effects : List (Effect N)
  /-- The requests that were made, oldest first. -/
  requested : List (Request S N) := []
  /-- The requests whose runs began, in order. -/
  begun : List (Request S N) := []

namespace Outcome

variable {S N κ : Type}

/-- An engine that needs nothing and does nothing. -/
def quiet (engine : Engine S N κ) : Outcome S N κ :=
  { engine := engine, wake := none, effects := [] }

/-- The same outcome with effects before it. -/
def after (effects : List (Effect N)) (outcome : Outcome S N κ) : Outcome S N κ :=
  { outcome with effects := effects ++ outcome.effects }

/-- Both outcomes in one: what happened first, and where it led to in the end. -/
def andThen (first last : Outcome S N κ) : Outcome S N κ :=
  { last with
    effects := first.effects ++ last.effects
    requested := first.requested ++ last.requested
    begun := first.begun ++ last.begun }

end Outcome

namespace Engine

variable {S N κ : Type} [DecidableEq N] [Clock κ]

/-- An engine without patterns. -/
def new (config : Config) (clock : κ) : Engine S N κ where
  config := config
  clock := clock
  patterns := []
  nextSerial := 0
  hidden := []
  phase := .idle
  lastRunEnd := none
  lastProcessed := []

/-- No run is going on, and none is wanted. -/
def isIdle (engine : Engine S N κ) : Bool :=
  match engine.phase with
  | .idle => true
  | _ => false

/-- The hidden elements, in the order in which they were hidden. -/
def hiddenElements (engine : Engine S N κ) : List N :=
  engine.hidden.nodes

def isHidden (engine : Engine S N κ) (n : N) : Bool :=
  engine.hiddenElements.contains n

/-- The changes that can matter to the registered patterns. -/
def observeOptions (engine : Engine S N κ) : ObserveOptions :=
  let attributes := engine.patterns.any fun pattern => pattern.dependencies.attributes
  { childList := true
    attributes := attributes
    characterData := engine.patterns.any fun pattern => pattern.dependencies.text
    subtree := true
    attributeOldValue := attributes }

/-! ### Runs -/

/-- Enters a completed run, and notes the time. -/
def finishRun (page : Page N S) (engine : Engine S N κ) (run : Run N) : Outcome S N κ :=
  let (time, clock) := Clock.now engine.clock
  let finished := { engine with
    clock := clock
    hidden := run.hiddenAfter page engine.hidden
    phase := .idle
    lastRunEnd := some time
    lastProcessed :=
      if engine.config.testMode then run.findings.processed else engine.lastProcessed }
  { engine := finished, wake := none, effects := run.effects page engine.hidden }

/-- Works on a run for one slice.  If that completes it, the engine goes on as told. -/
def workOn (page : Page N S) (engine : Engine S N κ) (run : Run N)
    (queued : Option (Request S N)) (next : Engine S N κ → Outcome S N κ) : Outcome S N κ :=
  let (completed, run, clock, notes) := run.slice page engine.config engine.clock
  let engine := { engine with clock := clock }
  Outcome.after (notes.map .note) <|
    if completed then
      let finished := engine.finishRun page run
      Outcome.after finished.effects (next finished.engine)
    else
      { engine := { engine with phase := .running run queued }
        wake := some .resume
        effects := [] }

/-- The styles that a run needs, and the sheets that were skipped in looking for them. -/
def runStyles (page : Page N S) (request : Request S N) (classification : Classification N) :
    List Style × List SkippedSheet :=
  let sheets := classification.indexed page request
  (page.styles sheets, page.skippedSheets sheets)

/-- Starts a run. -/
def startRun (page : Page N S) (engine : Engine S N κ) (request : Request S N) :
    Outcome S N κ :=
  let classification := Classification.ofRequest engine.patterns request
  let (styles, skipped) := runStyles page request classification
  let notes := skipped.map Note.skippedSheet ++
    [.starting request.isFull classification.candidates.length styles.length]
  let outcome := engine.workOn page (.ofClassification classification styles) none .quiet
  { Outcome.after (notes.map .note) outcome with begun := [request] }

/-- Starts a run unless the document is still being read. -/
def startWhenReady (page : Page N S) (engine : Engine S N κ) (request : Request S N) :
    Outcome S N κ :=
  if page.isLoading then
    { engine := { engine with phase := .awaitingReady request }
      wake := some .documentReady
      effects := [.note .awaitingDocument] }
  else engine.startRun page request

/-- The time that is left until a run may start. -/
def delay? (engine : Engine S N κ) (time : Span) : Option Span :=
  match engine.lastRunEnd with
  | none => none
  | some last =>
    let elapsed := time - last
    if elapsed < engine.config.minInterval then some (engine.config.minInterval - elapsed)
    else none

/-- Takes up a request while nothing else is going on. -/
def takeUp (page : Page N S) (engine : Engine S N κ) (request : Request S N) : Outcome S N κ :=
  let (time, clock) := Clock.now engine.clock
  let engine := { engine with clock := clock }
  match engine.delay? time with
  | some delay =>
    { engine := { engine with phase := .debouncing request }
      wake := some (.timer delay)
      effects := [.note (.deferred delay)] }
  | none => engine.startWhenReady page request

/-! ### Calls -/

/-- Asks for a run: now, or when its time has come. -/
def request (page : Page N S) (engine : Engine S N κ) (request : Request S N) : Outcome S N κ :=
  let outcome := match engine.phase with
    | .idle => engine.takeUp page request
    | .debouncing waiting => .quiet { engine with phase := .debouncing (waiting.merge request) }
    | .awaitingReady waiting =>
      .quiet { engine with phase := .awaitingReady (waiting.merge request) }
    | .running run queued =>
      .quiet { engine with phase := .running run (some (request.joinTo queued)) }
  { outcome with requested := [request] }

/-- What was read of the selectors of sources. -/
def registration (serial : Nat) : List PatternSource → List Pattern × List Note
  | [] => ([], [])
  | source :: rest =>
    let reading := Chain.read source.selector
    let rejected := reading.rejected.map Note.rejectedExpression
    match reading.links with
    | .error e =>
      let (patterns, notes) := registration serial rest
      (patterns, rejected ++ .rejectedSelector e :: notes)
    | .ok [] =>
      let (patterns, notes) := registration serial rest
      (patterns, rejected ++ notes)
    | .ok chain =>
      let (patterns, notes) := registration (serial + 1) rest
      (⟨serial, chain, source.text⟩ :: patterns, rejected ++ notes)

/-- Registers patterns in the place of all earlier ones, and filters the whole document. -/
def apply (page : Page N S) (engine : Engine S N κ) (sources : List PatternSource) :
    Outcome S N κ :=
  let (patterns, notes) := registration engine.nextSerial sources
  let engine := { engine with
    patterns := patterns
    nextSerial := engine.nextSerial + patterns.length }
  let notes := notes ++ [.registered patterns.length sources.length]
  Outcome.after (notes.map .note) <|
    if patterns.isEmpty then .quiet engine
    else
      let outcome := engine.request page .full
      { outcome with effects := outcome.effects ++ [.observe engine.observeOptions] }

/-- A style sheet has been loaded. -/
def sheetLoaded (page : Page N S) (engine : Engine S N κ) (sheet : S) : Outcome S N κ :=
  if engine.patterns.isEmpty then .quiet engine else engine.request page (.partly [sheet] [])

/-- The document has changed. -/
def changed (page : Page N S) (engine : Engine S N κ) (changes : List (Mutation N)) :
    Outcome S N κ :=
  if engine.patterns.isEmpty || changes.isEmpty then .quiet engine
  else engine.request page (.partly [] changes)

/-- The delay of a timer is over. -/
def timerFired (page : Page N S) (engine : Engine S N κ) : Outcome S N κ :=
  match engine.phase with
  | .debouncing request => { engine with phase := .idle }.startWhenReady page request
  | _ => { engine := engine, wake := none, effects := [.note .strayTimer] }

/-- The document has been read. -/
def documentReady (page : Page N S) (engine : Engine S N κ) : Outcome S N κ :=
  match engine.phase with
  | .awaitingReady request => { engine with phase := .idle }.startRun page request
  | _ => { engine := engine, wake := none, effects := [.note .strayDocumentReady] }

/-- Goes on with a run.  When it is completed, what was requested meanwhile is taken up. -/
def resume (page : Page N S) (engine : Engine S N κ) : Outcome S N κ :=
  match engine.phase with
  | .running run queued =>
    engine.workOn page run queued fun finished =>
      match queued with
      | some request => finished.takeUp page request
      | none => .quiet finished
  | _ => { engine := engine, wake := none, effects := [.note .strayResume] }

end Engine

end CosmeticFilter
