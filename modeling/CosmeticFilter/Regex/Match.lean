/-
Searching a text for a regular expression.

All matches are followed at once.  A set of positions of the text is a number whose
binary digits tell which positions belong to it; an expression maps the positions
where matches start to those where they end, and does so by shifting and masking
such numbers.  The text contains a match when starting everywhere ends somewhere.
-/
import CosmeticFilter.Regex.Basic

namespace CosmeticFilter

open CosmeticFilter.Unicode

/-- A set of positions: position `i` belongs to it when digit `i` is one. -/
abbrev Positions := Nat

namespace Positions

/-- The positions `i` with `flags[i]` true. -/
def ofFlags : List Bool → Positions
  | [] => 0
  | flag :: rest => flag.toNat + 2 * ofFlags rest

/-- All positions of a text of `n` characters. -/
def upTo (n : Nat) : Positions :=
  Nat.pow 2 (n + 1) - 1

end Positions

/-- The positions whose next character is in the set. -/
def Positions.ofSet (text : List Char) (set : CodeSet) : Positions :=
  Positions.ofFlags (text.map fun c => set.has c.toNat)

/-- What the test says at each position of the text, given the character before it. -/
def PositionTest.flags (test : PositionTest) (before : Option Char) : List Char → List Bool
  | [] => [test.holds before none]
  | c :: rest => test.holds before (some c) :: flags test (some c) rest

/-- The positions where the test holds. -/
def Positions.ofTest (text : List Char) (test : PositionTest) : Positions :=
  Positions.ofFlags (test.flags none text)

/-- The expression prepared for a text: at each leaf, the positions where it applies. -/
def RegexExpr.on (text : List Char) (expr : RegexExpr) : Expr Positions Positions :=
  expr.map (Positions.ofSet text) (Positions.ofTest text)

namespace Expr

/-- `n` applications of `f`, cut short once nothing changes. -/
def iterate (f : Positions → Positions) : Nat → Positions → Positions
  | 0, s => s
  | n + 1, s =>
    let next := f s
    if next = s then s else iterate f n next

/-- The positions where matches end that start in the given set, in a text of `n` characters. -/
def ends (n : Nat) : Expr Positions Positions → Positions → Positions
  | empty, s => s
  | one set, s => (s &&& set) <<< 1
  | test set, s => s &&& set
  | seq a b, s => b.ends n (a.ends n s)
  | alt a b, s => a.ends n s ||| b.ends n s
  | times least most body, s =>
    let more := match most with
      | some k => k - least
      | none => n + 1
    iterate (fun s => s ||| body.ends n s) more (iterate (body.ends n) least s)

end Expr

/-- The text contains a match of the expression. -/
def RegexExpr.search (expr : RegexExpr) (text : List Char) : Bool :=
  (expr.on text).ends text.length (Positions.upTo text.length) != 0

end CosmeticFilter
