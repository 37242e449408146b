/-
Clocks.

A clock is read again and again, and a reading may move it.  Sleeping moves only those
clocks that show the time of the sleeper.
-/
import CosmeticFilter.Time.Span

namespace CosmeticFilter

/-- What can be read like a clock. -/
class Clock (κ : Type) where
  /-- The time since some fixed moment, and the clock after the reading. -/
  now : κ → Span × κ
  /-- The clock after a sleep of at least the given length. -/
  sleep : κ → Span → κ

/-- A clock that moves when it is told to, and by one tick with every reading. -/
structure ManualClock where
  time : Span
  tick : Span
  deriving DecidableEq, Repr

namespace ManualClock

/-- A clock that starts at nothing. -/
def ticking (tick : Span) : ManualClock := ⟨.zero, tick⟩

def advance (clock : ManualClock) (by_ : Span) : ManualClock :=
  { clock with time := clock.time + by_ }

def set (clock : ManualClock) (time : Span) : ManualClock :=
  { clock with time := time }

instance : Clock ManualClock where
  now clock := (clock.time, clock.advance clock.tick)
  sleep clock _ := clock

end ManualClock

/-- A clock that stands still while work is done and moves with the sleeper. -/
structure PausedClock where
  time : Span
  deriving DecidableEq, Repr

namespace PausedClock

def advance (clock : PausedClock) (by_ : Span) : PausedClock :=
  ⟨clock.time + by_⟩

/-- The length of a millisecond in nanoseconds. -/
def millisecond : Nat := 1000000

/-- The longest sleep, thirty years of 365 days, in nanoseconds. -/
def longestSleep : Nat := 30 * 365 * 86400 * Span.second

/--
A sleeper is woken at the first whole millisecond that is not before the end of the
sleep, or before that of the longest sleep there is; the time then moves by whole
milliseconds.
-/
def sleep (clock : PausedClock) (length : Span) : PausedClock :=
  let length := min length.nanoseconds longestSleep
  let wake := (clock.time.nanoseconds + length + millisecond - 1) / millisecond
  let start := clock.time.nanoseconds / millisecond
  clock.advance ⟨(wake - start) * millisecond⟩

instance : Clock PausedClock where
  now clock := (clock.time, clock)
  sleep := sleep

end PausedClock

end CosmeticFilter
