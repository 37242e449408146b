/-
Shifts of code points.

A shift takes a run of code points to another place, all of them by the same distance.
Large maps of code points are written as text, one item for each shift: `41-5A>61`
takes the first code point to 61, the second to 62, and so on.
-/
import CosmeticFilter.Unicode.CodeSet

namespace CosmeticFilter.Unicode

open CosmeticFilter.Text

/-- The code points `first`, `first + step`, … up to `last`, and where the first of them goes. -/
structure CodeShift where
  first : Nat
  last : Nat
  step : Nat
  image : Nat
  deriving DecidableEq, Repr

namespace CodeShift

/-- The code point is one of those shifted. -/
def has (shift : CodeShift) (code : Nat) : Bool :=
  shift.first ≤ code && code ≤ shift.last && (code - shift.first) % shift.step == 0

/-- Where a code point of the run goes. -/
def apply (shift : CodeShift) (code : Nat) : Nat :=
  shift.image + (code - shift.first)

/-- The code point of the run that goes to `code`. -/
def preimage? (shift : CodeShift) (code : Nat) : Option Nat :=
  let source := shift.first + (code - shift.image)
  if shift.image ≤ code && shift.has source then some source else none

/-- The code points shifted. -/
def codes (shift : CodeShift) : List Nat :=
  CodeSet.runCodes shift.first shift.last shift.step

/-- The shift that one item of a table writes. -/
def ofItem (item : List Char) : CodeShift :=
  match item.splitOn '>' with
  | run :: image :: _ =>
    let (first, last, step) := CodeSet.readRun run
    ⟨first, last, step, hexNumber image⟩
  | _ => ⟨0, 0, 1, 0⟩

/-- The shifts that the items of the lines write. -/
def ofLines (lines : List String) : List CodeShift :=
  lines.flatMap fun line => (line.toList.splitOn ' ').map ofItem

/-- Where the shifts take a code point, if one of them has it. -/
def image? (shifts : List CodeShift) (code : Nat) : Option Nat :=
  (shifts.find? (·.has code)).map (·.apply code)

end CodeShift

end CosmeticFilter.Unicode
