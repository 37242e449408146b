/-
Runs.

A run evaluates its candidates one after the other and collects what they find.  It
proceeds in slices: after every pull the clock is read, and a slice that has taken
longer than allowed is suspended.  What has been found does not depend on where the
slices end.
-/
import CosmeticFilter.Classification
import CosmeticFilter.Config
import CosmeticFilter.Engine.Effect
import CosmeticFilter.Engine.Match
import CosmeticFilter.Evaluation.Ending
import CosmeticFilter.Time.Clock

namespace CosmeticFilter

variable {N S κ : Type} [DecidableEq N] [Clock κ]

/-- The matches of the pattern are reported as selectors. -/
def Config.hidesBySelector (config : Config) (pattern : Pattern) : Bool :=
  match config.selectorHiding with
  | .never => false
  | .properties => pattern.chain.resolvesToSelectors
  | .always => true

/-! ### What a run finds -/

/-- What has been found so far. -/
structure Findings (N : Type) where
  /-- The matched elements with the patterns that match them. -/
  matched : MatchTable N
  /-- Selectors to be reported, with the texts of their filters. -/
  selectors : List (String × String)
  /-- The candidates that were looked at, if they are to be kept. -/
  processed : List N

namespace Findings

def none : Findings N := ⟨[], [], []⟩

/-- The candidate that a report tells of. -/
def examined? : Report N → Option N
  | .examined n => some n
  | .queryFailed .. => Option.none

/-- The failure that a report tells of. -/
def failure? : Report N → Option Note
  | .examined _ => Option.none
  | .queryFailed selector e => some (.queryFailed selector e)

/-- Keeps the candidates that were looked at. -/
def examine (findings : Findings N) (reports : List (Report N)) : Findings N :=
  { findings with processed := addNew findings.processed (reports.filterMap examined?) }

/-- The pattern matches these elements. -/
def addMatches (findings : Findings N) (pattern : Pattern) (anchors nodes : List N) : Findings N :=
  { findings with
    matched := nodes.foldl (fun table n => table.update n (Match.enter pattern anchors))
      findings.matched }

/-- The pattern resolves to a selector. -/
def addSelector (findings : Findings N) (pattern : Pattern) (selector : String) : Findings N :=
  { findings with selectors := findings.selectors ++ [(selector, pattern.text)] }

/-- Enters a selector that a pattern resolves to, or the elements that it stands for. -/
def enter (config : Config) (page : Page N S) (pattern : Pattern) (findings : Findings N)
    (selector : String) (anchors : List N) : Findings N × List Note :=
  if config.hidesBySelector pattern then (findings.addSelector pattern selector, [])
  else
    match page.queryAll page.document selector with
    | .ok nodes => (findings.addMatches pattern anchors nodes, [])
    | .error e => (findings, [.queryFailed selector e])

/-- Enters the result of a pull. -/
def enterPulled (config : Config) (page : Page N S) (pattern : Pattern) (findings : Findings N)
    (pulled : Pulled N) : Findings N × List Note :=
  let seen := if config.testMode then findings.examine pulled.reports else findings
  let failures := pulled.reports.filterMap failure?
  match pulled.item with
  | some (.found selector anchors) =>
    let (entered, notes) := seen.enter config page pattern selector anchors
    (entered, failures ++ notes)
  | _ => (seen, failures)

end Findings

/-! ### Runs -/

/-- A run that has been started. -/
structure Run (N : Type) where
  /-- Everything is evaluated, so that what is not found does not match. -/
  full : Bool
  candidates : List (Candidate N)
  styles : List Style
  /-- The styles are those of all sheets. -/
  completeStyles : Bool
  /-- Candidates whose evaluation has not begun. -/
  waiting : List (Candidate N)
  /-- The candidate that is being evaluated. -/
  current : Option (Candidate N × Evaluation N)
  findings : Findings N

namespace Run

/-- A run at its start. -/
def ofClassification (classification : Classification N) (styles : List Style) : Run N where
  full := classification.full
  candidates := classification.candidates
  styles := styles
  completeStyles := classification.styleScope == .allSheets
  waiting := classification.candidates
  current := none
  findings := .none

/-- What is fixed while a slice lasts. -/
structure Slice (N S : Type) where
  page : Page N S
  config : Config
  styles : List Style
  /-- The time at which the slice began. -/
  start : Span

namespace Slice

/-- The slice has taken longer than allowed. -/
def isOver (slice : Slice N S) (time : Span) : Bool :=
  slice.config.maxSlice < time - slice.start

/-- What evaluations of a candidate may look at. -/
def scene (slice : Slice N S) (candidate : Candidate N) : Scene N S :=
  ⟨slice.page, slice.styles, candidate.targets⟩

/-- Starts the evaluation of a candidate. -/
def begin (slice : Slice N S) (candidate : Candidate N) : Evaluation N :=
  .start slice.styles candidate.pattern.chain "" slice.page.document

end Slice

/-- What a slice changes as it goes on. -/
structure Tally (N κ : Type) where
  findings : Findings N
  clock : κ
  notes : List Note

/-- Enters the result of a pull, and reads the clock. -/
def Tally.enter (slice : Slice N S) (candidate : Candidate N) (tally : Tally N κ)
    (pulled : Pulled N) : Span × Tally N κ :=
  let (findings, notes) :=
    tally.findings.enterPulled slice.config slice.page candidate.pattern pulled
  let (time, clock) := Clock.now tally.clock
  (time, ⟨findings, clock, tally.notes ++ notes⟩)

/-- Where a slice ends. -/
inductive Stop (N : Type) where
  | completed
  /-- The slice was suspended with these candidates waiting. -/
  | suspended (waiting : List (Candidate N)) (current : Option (Candidate N × Evaluation N))

/-- Evaluates one candidate; gives the state in which it was suspended, unless it was completed. -/
def evaluate (slice : Slice N S) (candidate : Candidate N) (evaluation : Evaluation N)
    (tally : Tally N κ) : Option (Option (Evaluation N)) × Tally N κ :=
  let pulled := evaluation.pull (slice.scene candidate)
  let entered := tally.enter slice candidate pulled
  if slice.isOver entered.1 then (some (pulled.item.map fun _ => pulled.next), entered.2)
  else
    match _h : pulled.item with
    | none => (none, entered.2)
    | some _ => evaluate slice candidate pulled.next entered.2
termination_by evaluation
decreasing_by exact Evaluation.follows_of_item _h

/-- Evaluates candidates one after the other. -/
def evaluateAll (slice : Slice N S) : List (Candidate N) → Tally N κ → Stop N × Tally N κ
  | [], tally => (.completed, tally)
  | candidate :: waiting, tally =>
    match evaluate slice candidate (slice.begin candidate) tally with
    | (none, tally) => evaluateAll slice waiting tally
    | (some state, tally) => (.suspended waiting (state.map (candidate, ·)), tally)

/-- Evaluates what is left of a run. -/
def proceed (slice : Slice N S) (run : Run N) (tally : Tally N κ) : Stop N × Tally N κ :=
  match run.current with
  | none => evaluateAll slice run.waiting tally
  | some (candidate, evaluation) =>
    match evaluate slice candidate evaluation tally with
    | (none, tally) => evaluateAll slice run.waiting tally
    | (some state, tally) => (.suspended run.waiting (state.map (candidate, ·)), tally)

/-- A slice of a run that is measured from the given time. -/
def sliceFrom (page : Page N S) (config : Config) (start : Span) (run : Run N) (clock : κ) :
    Bool × Run N × κ × List Note :=
  let (stop, tally) := run.proceed ⟨page, config, run.styles, start⟩ ⟨run.findings, clock, []⟩
  let run := { run with findings := tally.findings }
  match stop with
  | .completed => (true, { run with waiting := [], current := none }, tally.clock, tally.notes)
  | .suspended waiting current =>
    (false, { run with waiting := waiting, current := current }, tally.clock,
      tally.notes ++ [.suspending tally.findings.matched.length])

/-- One slice of a run: whether it is completed, the run, the clock, and notes. -/
def slice (page : Page N S) (config : Config) (run : Run N) (clock : κ) :
    Bool × Run N × κ × List Note :=
  let (start, clock) := Clock.now clock
  run.sliceFrom page config start clock

end Run

end CosmeticFilter
