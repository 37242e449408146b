/-
Driving the engine.

Driving means to call the engine as it asks for, sleeping where it wants a timer, until
it rests or has to be told that the document has been read.  While it is driven nothing
else happens, so this comes to an end.
-/
import CosmeticFilter.Engine.Progress

namespace CosmeticFilter.Engine

variable {S N κ : Type} [DecidableEq N] [Clock κ]

/-- Follows the wake-ups of the engine. -/
def drive (page : Page N S) (engine : Engine S N κ) (wake : Option Wake) : Outcome S N κ :=
  match wake with
  | none => .quiet engine
  | some .documentReady => { engine := engine, wake := some .documentReady, effects := [] }
  | some (.timer delay) =>
    let slept := { engine with clock := Clock.sleep engine.clock delay }
    let outcome := slept.timerFired page
    Outcome.after [.note (.sleeping delay)] <|
      outcome.andThen (drive page outcome.engine outcome.wake)
  | some .resume =>
    let outcome := engine.resume page
    outcome.andThen (drive page outcome.engine outcome.wake)
termination_by engine.backlog wake
decreasing_by
  · exact timerFired_less page slept _
  · exact resume_less page engine _

/-- Goes on with a run as long as the engine asks for it; counts the slices. -/
def complete (page : Page N S) (engine : Engine S N κ) (wake : Option Wake) :
    Nat × Outcome S N κ :=
  match wake with
  | some .resume =>
    let outcome := engine.resume page
    let (slices, last) := complete page outcome.engine outcome.wake
    (slices + 1, outcome.andThen last)
  | _ => (0, { engine := engine, wake := wake, effects := [] })
termination_by engine.backlog wake
decreasing_by exact resume_less page engine _

end CosmeticFilter.Engine
