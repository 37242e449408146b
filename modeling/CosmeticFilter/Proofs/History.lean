/-
Histories of an engine.

What happens to an engine is a list of events.  A call is made with the page as it is at
that moment, so a changing document, and one that is being read or has been read, is a
matter of the pages in the list.  Between calls the host may change the settings and the
clock may have moved on.
-/
import CosmeticFilter.Engine.Call

namespace CosmeticFilter

/-- One thing that happens to an engine. -/
inductive Event (S N κ : Type) where
  | called (page : Page N S) (call : Call S N)
  | configured (config : Config)
  | clockMoved (clock : κ)

namespace Engine

variable {S N κ : Type} [DecidableEq N] [Clock κ]

/-- What one event leads to. -/
def meet (engine : Engine S N κ) : Event S N κ → Outcome S N κ
  | .called page call => engine.call page call
  | .configured config => .quiet { engine with config := config }
  | .clockMoved clock => .quiet { engine with clock := clock }

/-- What a history leads to; effects and requests are those of all its events. -/
def meetAll (engine : Engine S N κ) (events : List (Event S N κ)) : Outcome S N κ :=
  events.foldl (fun outcome event => outcome.andThen (outcome.engine.meet event))
    (.quiet engine)

theorem meetAll_concat (engine : Engine S N κ) (events : List (Event S N κ))
    (event : Event S N κ) :
    engine.meetAll (events ++ [event]) =
      (engine.meetAll events).andThen ((engine.meetAll events).engine.meet event) := by
  simp [meetAll]

/-- The request that waits for a run, if there is one. -/
def queued (engine : Engine S N κ) : Option (Request S N) :=
  match engine.phase with
  | .idle => none
  | .debouncing request | .awaitingReady request => some request
  | .running _ queued => queued

end Engine

end CosmeticFilter
