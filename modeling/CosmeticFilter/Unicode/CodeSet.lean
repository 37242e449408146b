/-
Sets of code points.

A set is a list of ranges in ascending order that do not touch one another, so that
equal sets have equal lists.  `ofRanges` brings any ranges into that form, and
`has_ofRanges` says that doing so keeps the code points.

Large sets are written as text: hexadecimal code points `41`, ranges `41-5A`, and
ranges with a step `100-12E/2` for the stretches where capital and small letters
alternate.
-/
import CosmeticFilter.Text.Hexadecimal

namespace CosmeticFilter.Unicode

open CosmeticFilter.Text

/-- The code points from `first` to `last`. -/
structure CodeRange where
  first : Nat
  last : Nat
  deriving DecidableEq, Repr

/-- A set of code points, as ranges in ascending order. -/
structure CodeSet where
  ranges : List CodeRange
  deriving DecidableEq, Repr

namespace CodeRange

def has (range : CodeRange) (code : Nat) : Bool :=
  range.first ≤ code && code ≤ range.last

/-- What two ranges have in common. -/
def meet? (a b : CodeRange) : Option CodeRange :=
  let first := max a.first b.first
  let last := min a.last b.last
  if first ≤ last then some ⟨first, last⟩ else none

/-- Joins a range with those after it, in the order of their first code points. -/
def join (range : CodeRange) : List CodeRange → List CodeRange
  | [] => [range]
  | next :: rest =>
    if next.first ≤ range.last + 1 then join ⟨range.first, max range.last next.last⟩ rest
    else range :: join next rest

end CodeRange

namespace CodeSet

def has (set : CodeSet) (code : Nat) : Bool :=
  set.ranges.any (·.has code)

/-- Ranges in ascending order, joined where they touch. -/
def joined : List CodeRange → List CodeRange
  | [] => []
  | range :: rest => range.join rest

/-- The code points of all the ranges. -/
def ofRanges (ranges : List CodeRange) : CodeSet :=
  ⟨joined (ranges.mergeSort fun a b => a.first ≤ b.first)⟩

def empty : CodeSet := ⟨[]⟩

def interval (first last : Nat) : CodeSet := ⟨[⟨first, last⟩]⟩

def only (c : Char) : CodeSet := interval c.toNat c.toNat

def ofCodes (codes : List Nat) : CodeSet :=
  ofRanges (codes.map fun code => ⟨code, code⟩)

def union (a b : CodeSet) : CodeSet :=
  ofRanges (a.ranges ++ b.ranges)

def unions (sets : List CodeSet) : CodeSet :=
  ofRanges (sets.flatMap (·.ranges))

/-- What the ranges of two lists in ascending order have in common. -/
def interRanges : List CodeRange → List CodeRange → List CodeRange
  | [], _ => []
  | _, [] => []
  | a :: as, b :: bs =>
    let rest := if a.last < b.last then interRanges as (b :: bs) else interRanges (a :: as) bs
    (a.meet? b).toList ++ rest
termination_by as bs => as.length + bs.length

def inter (a b : CodeSet) : CodeSet :=
  ⟨interRanges a.ranges b.ranges⟩

/-! ### Complements

Surrogates are no characters, so the code points on their two sides are neighbours.
-/

/-- The greatest code point. -/
def maxCode : Nat := 0x10FFFF

/-- The last code point before the surrogates. -/
def beforeSurrogates : Nat := 0xD7FF

/-- The first code point after the surrogates. -/
def afterSurrogates : Nat := 0xE000

def nextCode (code : Nat) : Nat :=
  if code = beforeSurrogates then afterSurrogates else code + 1

def previousCode (code : Nat) : Nat :=
  if code = afterSurrogates then beforeSurrogates else code - 1

/-- The code points from `start` on that are in none of the ranges. -/
def gaps (start : Nat) : List CodeRange → List CodeRange
  | [] => if start ≤ maxCode then [⟨start, maxCode⟩] else []
  | range :: rest =>
    if start < range.first then
      ⟨start, previousCode range.first⟩ :: gaps (nextCode range.last) rest
    else gaps (nextCode range.last) rest

/-- The code points outside of the set. -/
def compl (a : CodeSet) : CodeSet :=
  ⟨gaps 0 a.ranges⟩

def diff (a b : CodeSet) : CodeSet :=
  a.inter b.compl

/-- The code points of just one of the sets. -/
def symmDiff (a b : CodeSet) : CodeSet :=
  (a.union b).diff (a.inter b)

/-- No code point is outside of ASCII. -/
def isAscii (a : CodeSet) : Bool :=
  a.ranges.all (·.last < 0x80)

/-! ### Sets as text -/

/-- The first and last code point and the step that one item of a table writes. -/
def readRun (item : List Char) : Nat × Nat × Nat :=
  match item.splitOn '-' with
  | first :: rest :: _ =>
    match rest.splitOn '/' with
    | last :: step :: _ => (hexNumber first, hexNumber last, hexNumber step)
    | _ => (hexNumber first, hexNumber rest, 1)
  | _ => (hexNumber item, hexNumber item, 1)

/-- The code points `first`, `first + step`, … up to `last`. -/
def runCodes (first last step : Nat) : List Nat :=
  List.range' first ((last - first) / step + 1) step

/-- The ranges that one item of a table writes. -/
def itemRanges (item : List Char) : List CodeRange :=
  let (first, last, step) := readRun item
  if step = 1 then [⟨first, last⟩]
  else (runCodes first last step).map fun code => ⟨code, code⟩

/-- The set that the items of the lines write. -/
def ofLines (lines : List String) : CodeSet :=
  ofRanges (lines.flatMap fun line => (line.toList.splitOn ' ').flatMap itemRanges)

/-! ### Membership -/

theorem any_join (range : CodeRange) (ranges : List CodeRange) (code : Nat)
    (h : (range :: ranges).Pairwise (·.first ≤ ·.first)) :
    (range.join ranges).any (·.has code) = (range :: ranges).any (·.has code) := by
  induction ranges generalizing range with
  | nil => rfl
  | cons next rest ih =>
    obtain ⟨hrange, hrest⟩ := List.pairwise_cons.mp h
    obtain ⟨hnext, hlast⟩ := List.pairwise_cons.mp hrest
    have hfirst := hrange next (List.mem_cons_self ..)
    rw [CodeRange.join]
    split
    · rw [ih ⟨range.first, max range.last next.last⟩ (List.pairwise_cons.mpr
        ⟨fun r hr => hrange r (List.mem_cons_of_mem _ hr), hlast⟩)]
      simp only [List.any_cons, ← Bool.or_assoc]
      congr 1
      rw [Bool.eq_iff_iff]
      simp only [CodeRange.has, Bool.or_eq_true, Bool.and_eq_true, decide_eq_true_eq]
      omega
    · rw [List.any_cons, ih next hrest, List.any_cons (a := range)]

theorem has_ofRanges (ranges : List CodeRange) (code : Nat) :
    (ofRanges ranges).has code = ranges.any (·.has code) := by
  have hperm := List.mergeSort_perm ranges fun a b => decide (a.first ≤ b.first)
  have hsorted : (ranges.mergeSort fun a b => decide (a.first ≤ b.first)).Pairwise
      (·.first ≤ ·.first) := by
    refine (List.pairwise_mergeSort (fun a b c => ?_) (fun a b => ?_) ranges).imp (fun h => ?_)
    · simpa using Nat.le_trans
    · simpa using Nat.le_total a.first b.first
    · simpa using h
  rw [← hperm.any_eq, has, ofRanges]
  match hl : ranges.mergeSort fun a b => decide (a.first ≤ b.first) with
  | [] => rfl
  | range :: rest => exact any_join range rest code (hl ▸ hsorted)

end CodeSet

end CosmeticFilter.Unicode
