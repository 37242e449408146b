/-
Parts of an expression under construction.

While an expression is read, each part carries besides its meaning how deeply it nests
and the shape that its automaton is built from.  Expressions that nest too deeply or whose
automaton is too large are refused.
-/
import CosmeticFilter.Regex.Automaton

namespace CosmeticFilter.Regex

open CosmeticFilter.Unicode

/-- A part with its measures. -/
structure Part where
  expr : RegexExpr
  /-- Levels of groups, repetitions, choices, sequences and bracketed classes. -/
  height : Nat
  shape : Shape
  /-- A repetition sign may follow; it may not after a mere change of flags. -/
  repeatable : Bool

/-- The deepest nesting allowed. -/
def maxHeight : Nat := 250

namespace Part

def nothing : Part := ⟨.empty, 0, .empty, false⟩

/-- A test on a position. -/
def ofTest (test : PositionTest) : Part := ⟨.test test, 0, .test test, true⟩

/-- A set of characters, read as characters of Unicode or as bytes. -/
def ofSet (set : CodeSet) (unicode : Bool) (height : Nat) : Part :=
  ⟨.one set, height, .ofSet set unicode, true⟩

/-- Parts one after the other. -/
def sequence (parts : List Part) : Part :=
  match parts with
  | [] => nothing
  | [part] => part
  | _ =>
    { expr := parts.foldr (fun part rest => .seq part.expr rest) .empty
      height := 1 + (parts.map (·.height)).foldl max 0
      shape := .sequence (parts.map (·.shape))
      repeatable := true }

/-- A choice between parts, of which there is at least one. -/
def choice (part : Part) (others : List Part) : Part :=
  match others with
  | [] => part
  | _ =>
    { expr := others.foldl (fun left right => .alt left right.expr) part.expr
      height := 1 + (others.map (·.height)).foldl max part.height
      shape := .choice ((part :: others).map (·.shape))
      repeatable := true }

/-- A group around a part, with its number if it is remembered. -/
def group (part : Part) (index : Option Nat) : Part :=
  { part with
    height := part.height + 1
    shape := match index with
      | some index => .group index part.shape
      | none => part.shape
    repeatable := true }

/-- A repetition of a part. -/
def repetition (least : Nat) (most : Option Nat) (greedy : Bool) (part : Part) : Part :=
  { expr := .times least most part.expr
    height := part.height + 1
    shape := .repetition least most greedy part.shape
    repeatable := true }

/-- The part keeps within the limits. -/
def isModerate (part : Part) : Bool :=
  part.height ≤ maxHeight && part.shape.isModerate

end Part

end CosmeticFilter.Regex
