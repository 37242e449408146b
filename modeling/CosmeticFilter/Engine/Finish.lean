/-
Finishing runs.

A completed run changes the table of hidden elements.  What the run has derived again,
or could have, replaces what was known; what lies outside of its view stays as it was.
An element is shown again when no pattern is known to match it any longer, or when it
has left the document.
-/
import CosmeticFilter.Engine.Run

namespace CosmeticFilter

variable {N S : Type} [DecidableEq N]

namespace Run

/-- Each anchor of the match is related to a target of the candidate. -/
def reaches (page : Page N S) (candidate : Candidate N) (known : Match N) : Bool :=
  candidate.targets.all fun targets =>
    known.anchors.all fun anchor => targets.any (page.related anchor)

/--
The run has derived the match again if it still holds, so that not finding it means that
it does not.
-/
def covers (page : Page N S) (run : Run N) (known : Match N) : Bool :=
  if run.full then true
  else if !run.completeStyles && known.pattern.dependencies.style then false
  else
    match run.candidates.find? fun candidate => candidate.pattern.same known.pattern with
    | some candidate => reaches page candidate known
    | none => false

/-- What becomes of a known match, given the matches that the run found for its element. -/
def renew? (page : Page N S) (run : Run N) (found : Option (List (Match N))) (known : Match N) :
    Option (Match N) :=
  match found.bind (Match.find? · known.pattern) with
  | some again =>
    if run.covers page known then some { known with anchors := again.anchors }
    else some (known.addAnchors again.anchors)
  | none => if run.covers page known then none else some known

/-- The matches that a hidden element keeps, or nothing if it is to be shown again. -/
def keep? (page : Page N S) (run : Run N) (n : N) (known : List (Match N)) :
    Option (List (Match N)) :=
  if page.isConnected n then
    let found := run.findings.matched.matches? n
    let kept := known.filterMap (run.renew? page found)
    if kept.isEmpty && found.isNone then none else some kept
  else none

/-- The hidden elements that stay hidden, with the matches that they keep. -/
def retain (page : Page N S) (run : Run N) (hidden : MatchTable N) : MatchTable N :=
  hidden.filterMap fun (n, known) => (run.keep? page n known).map (n, ·)

/-- The hidden elements that are to be shown again. -/
def shownAgain (page : Page N S) (run : Run N) (hidden : MatchTable N) : List N :=
  (hidden.filter fun (n, known) => (run.keep? page n known).isNone).map (·.1)

/-- The table with what the run found. -/
def addFound (run : Run N) (hidden : MatchTable N) : MatchTable N :=
  run.findings.matched.foldl
    (fun table (n, found) => table.update n (Match.addPatterns · found)) hidden

/-- The table of hidden elements after the run. -/
def hiddenAfter (page : Page N S) (run : Run N) (hidden : MatchTable N) : MatchTable N :=
  run.addFound (run.retain page hidden)

/-- What the outside is told when the run is finished. -/
def effects (page : Page N S) (run : Run N) (hidden : MatchTable N) : List (Effect N) :=
  let selectors := run.findings.selectors
  let matched := run.findings.matched.firstTexts
  let unhide := run.shownAgain page hidden
  (if selectors.isEmpty then []
    else [.addSelectors (selectors.map (·.1)) (selectors.map (·.2))]) ++
  (if run.findings.matched.isEmpty then []
    else [.hide (matched.map (·.1)) (matched.map (·.2))]) ++
  (if unhide.isEmpty then [] else [.unhide unhide]) ++
  [.note (.finished (run.hiddenAfter page hidden).length unhide.length)]

end Run

end CosmeticFilter
