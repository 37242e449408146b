/-
Settings.

Settings are read from named texts, as a process finds them in its environment.  What is
missing or cannot be read has its default.
-/
import CosmeticFilter.Text.Ascii
import CosmeticFilter.Text.Blank
import CosmeticFilter.Text.Natural
import CosmeticFilter.Time.Span

namespace CosmeticFilter

open CosmeticFilter.Text

/-- Which patterns are reported as selectors instead of matched elements. -/
inductive SelectorHiding where
  | never
  /-- Patterns that resolve to selectors which stay valid by themselves. -/
  | properties
  | always
  deriving DecidableEq, Repr

namespace SelectorHiding

/-- The setting of this name, in any case. -/
def named? (name : String) : Option SelectorHiding :=
  match lower (trimmed name) with
  | "never" => some never
  | "properties" => some properties
  | "always" => some always
  | _ => none

end SelectorHiding

structure Config where
  /-- From the end of a run to the start of the next one, at least. -/
  minInterval : Span
  /-- A slice of a run that takes longer is suspended. -/
  maxSlice : Span
  /-- The candidates of the last run are kept. -/
  testMode : Bool
  selectorHiding : SelectorHiding
  deriving DecidableEq, Repr

namespace Config

def default : Config where
  minInterval := .ofMilliseconds 3000
  maxSlice := .ofMilliseconds 50
  testMode := false
  selectorHiding := .never

/-- The names of the settings. -/
inductive Name where
  | minInterval | maxSlice | testMode | selectorHiding
  deriving DecidableEq, Repr

/-- A number of milliseconds. -/
def readMilliseconds? (text : String) : Option Span :=
  (readNatural? maxWord (trim text.toList)).map .ofMilliseconds

/-- The settings that an environment gives. -/
def ofEnvironment (env : Name → Option String) : Config where
  minInterval := ((env .minInterval).bind readMilliseconds?).getD default.minInterval
  maxSlice := ((env .maxSlice).bind readMilliseconds?).getD default.maxSlice
  testMode := (env .testMode).any fun text => trimmed text == "1"
  selectorHiding := ((env .selectorHiding).bind SelectorHiding.named?).getD default.selectorHiding

end Config

end CosmeticFilter
