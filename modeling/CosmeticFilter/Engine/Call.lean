/-
Calls of the engine as data.

What the engine does over time is a sequence of calls, each made with the page as it is
at that moment.  The effects of all calls, one after the other, are what the outside gets
to see; the hidden elements can be worked out from them.
-/
import CosmeticFilter.Engine.Basic

namespace CosmeticFilter

/-- A call of the engine. -/
inductive Call (S N : Type) where
  | apply (sources : List PatternSource)
  | request (request : Request S N)
  | changed (changes : List (Mutation N))
  | sheetLoaded (sheet : S)
  | timerFired
  | documentReady
  | resume

namespace Engine

variable {S N κ : Type} [DecidableEq N] [Clock κ]

/-- Makes one call. -/
def call (page : Page N S) (engine : Engine S N κ) : Call S N → Outcome S N κ
  | .apply sources => engine.apply page sources
  | .request request => engine.request page request
  | .changed changes => engine.changed page changes
  | .sheetLoaded sheet => engine.sheetLoaded page sheet
  | .timerFired => engine.timerFired page
  | .documentReady => engine.documentReady page
  | .resume => engine.resume page

/-- Makes calls one after the other; the effects are those of all of them. -/
def callAll (engine : Engine S N κ) (calls : List (Page N S × Call S N)) : Outcome S N κ :=
  calls.foldl
    (fun outcome (page, call) => outcome.andThen (outcome.engine.call page call))
    (.quiet engine)

end Engine

/-- The hidden elements after an effect, as the outside keeps count of them. -/
def Effect.replay {N : Type} [DecidableEq N] (hidden : List N) : Effect N → List N
  | hide nodes _ => addNew hidden nodes
  | unhide nodes => hidden.filter (!nodes.contains ·)
  | _ => hidden

end CosmeticFilter
