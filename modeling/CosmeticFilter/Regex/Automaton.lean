/-
The size of automata.

An expression is refused if its automaton would be too large.  Two automata are built from
the shape of an expression, one that reads forward and one that reads backward, and both
have to keep within the limit.  The automata are not built here, they are only counted:
how many states they have, and how many bytes these take.

A set beyond ASCII takes many states, since an automaton reads bytes.  Forward, the states
for the ends of characters are shared as far as a table of states remembers them; backward,
those for the ends are shared likewise.  The tables have a limited number of places, and what
comes to a place that is taken drives out what was there.
-/
import CosmeticFilter.Regex.ByteRange
import CosmeticFilter.Regex.Shape
import Std.Data.HashMap

namespace CosmeticFilter.Regex

open CosmeticFilter.Unicode

/-- The bytes that an automaton may take. -/
def maxBytes : Nat := 10 * 0x100000

/-- The bytes of a state, without what hangs on it. -/
def stateBytes : Nat := 32

/-- The bytes of a transition that hangs on a state with many. -/
def transitionBytes : Nat := 8

/-- The bytes of an alternative that hangs on a state of choice. -/
def alternativeBytes : Nat := 4

/-- Which way an automaton reads. -/
inductive Direction where
  | forward | backward
  deriving DecidableEq, Repr

/-- The states of an automaton so far and the bytes they take. -/
structure Tally where
  states : Nat
  bytes : Nat
  deriving DecidableEq, Repr

namespace Tally

def zero : Tally := ⟨0, 0⟩

/-- The automaton keeps within the limit. -/
def fits (tally : Tally) : Bool := tally.bytes ≤ maxBytes

/-- So many states more. -/
def addStates (tally : Tally) (count : Nat) : Tally :=
  ⟨tally.states + count, tally.bytes + stateBytes * count⟩

/-- One state more with so many transitions. -/
def addBranching (tally : Tally) (transitions : Nat) : Tally :=
  ⟨tally.states + 1, tally.bytes + stateBytes + transitionBytes * transitions⟩

/-- So many alternatives more at states of choice. -/
def addAlternatives (tally : Tally) (count : Nat) : Tally :=
  { tally with bytes := tally.bytes + alternativeBytes * count }

/-- One alternative more if the state that is linked is a state of choice. -/
def link (tally : Tally) (choice : Bool) : Tally :=
  tally.addAlternatives choice.toNat

/-- Repeats a step.  Once the limit is passed it need not go on, for tallies never shrink. -/
def iterate (step : Tally → Tally) : Nat → Tally → Tally
  | 0, tally => tally
  | n + 1, tally => if tally.fits then iterate step n (step tally) else tally

end Tally

/-! ### Tables of states

The place of an entry in a table is found by mixing the numbers that identify it.
-/

/-- The number that mixing starts with. -/
def mixStart : UInt64 := 14695981039346656037

/-- Mixes a number in. -/
def mix (mixed : UInt64) (n : Nat) : UInt64 :=
  (mixed ^^^ n.toUInt64) * 1099511628211

/-- A table with a number of places, each of which holds the latest entry that came to it. -/
structure StateTable (K : Type) where
  places : UInt64
  entries : Std.HashMap UInt64 (K × Nat)

namespace StateTable

variable {K : Type}

def empty (places : UInt64) : StateTable K := ⟨places, ∅⟩

/-- The place for an entry that these numbers identify. -/
def place (table : StateTable K) (numbers : List Nat) : UInt64 :=
  numbers.foldl mix mixStart % table.places

def find? [BEq K] (table : StateTable K) (place : UInt64) (key : K) : Option Nat :=
  match table.entries[place]? with
  | some (other, state) => if other == key then some state else none
  | none => none

def insert (table : StateTable K) (place : UInt64) (key : K) (state : Nat) : StateTable K :=
  { table with entries := table.entries.insert place (key, state) }

end StateTable

/-! ### Sets, read forward

The sequences of a set come in their order, so what they have in common with the one before
is known.  The states for the last sequence are kept as a path until a later one leaves it;
then the states that were left are final, from the end of the path on.
-/

/-- A transition on a range of bytes. -/
structure Transition where
  range : ByteRange
  next : Nat
  deriving DecidableEq, Repr

/-- A state on the path: its transitions so far, newest first, and the range the path takes. -/
structure PathState where
  transitions : List Transition
  leaving : Option ByteRange

/-- The transitions of a state whose path goes to `next`. -/
def PathState.closed (state : PathState) (next : Nat) : List Transition :=
  match state.leaving with
  | some range => ⟨range, next⟩ :: state.transitions
  | none => state.transitions

/-- The states of an automaton and the table of those for the present set. -/
structure ForwardCount where
  tally : Tally
  table : StateTable (List Transition)

namespace ForwardCount

/-- A state with these transitions, newest first: one that the table has, or a new one. -/
def state (count : ForwardCount) (transitions : List Transition) : ForwardCount × Nat :=
  let place := count.table.place
    (transitions.reverse.flatMap fun t => [t.range.first, t.range.last, t.next])
  match count.table.find? place transitions with
  | some state => (count, state)
  | none =>
    let state := count.tally.states
    (⟨count.tally.addBranching transitions.length, count.table.insert place transitions state⟩,
      state)

/-- Makes the states of a path final; `target` is the state behind its last one. -/
def close (target : Nat) : List PathState → ForwardCount → ForwardCount × Nat
  | [], count => (count, target)
  | first :: rest, count =>
    let (count, next) := close target rest count
    count.state (first.closed next)

/-- Goes over from the path of the last sequence to that of the next one. -/
def follow (target : Nat) : List PathState → List ByteRange → ForwardCount →
    ForwardCount × List PathState
  | path, [], count => (count, path)
  | [], ranges, count => (count, ranges.map fun range => ⟨[], some range⟩)
  | first :: rest, range :: ranges, count =>
    if first.leaving = some range then
      let (count, rest) := follow target rest ranges count
      (count, first :: rest)
    else
      let (count, next) := close target rest count
      (count, ⟨first.closed next, some range⟩ :: ranges.map fun range => ⟨[], some range⟩)

end ForwardCount

/-- Counts the states of a set beyond ASCII that is read forward. -/
def Tally.addForwardSet (tally : Tally) (sequences : List (List ByteRange)) : Tally :=
  let target := tally.states
  let start : ForwardCount := ⟨tally.addStates 1, .empty 10000⟩
  let (count, path) := sequences.foldl
    (fun (count, path) ranges => ForwardCount.follow target path ranges count)
    (start, [⟨[], none⟩])
  (ForwardCount.close target path count).1.tally

/-! ### Sets, read backward -/

/-- The states of an automaton and the table of those for the present set. -/
structure BackwardCount where
  tally : Tally
  table : StateTable (Nat × ByteRange)

namespace BackwardCount

/-- The state that reads a range and goes to `next`: one that the table has, or a new one. -/
def state (next : Nat) (count : BackwardCount) (range : ByteRange) : BackwardCount × Nat :=
  let place := count.table.place [next, range.first, range.last]
  match count.table.find? place (next, range) with
  | some state => (count, state)
  | none =>
    let state := count.tally.states
    (⟨count.tally.addStates 1, count.table.insert place (next, range) state⟩, state)

/-- The states of a sequence, the first byte of which is read last. -/
def follow (next : Nat) : List ByteRange → BackwardCount → BackwardCount
  | [], count => { count with tally := count.tally.addAlternatives 1 }
  | range :: ranges, count =>
    let (count, state) := count.state next range
    follow state ranges count

end BackwardCount

/-- Counts the states of a set beyond ASCII that is read backward. -/
def Tally.addBackwardSet (tally : Tally) (sequences : List (List ByteRange)) : Tally :=
  let target := tally.states + 1
  let start : BackwardCount := ⟨tally.addStates 2, .empty 1000⟩
  (sequences.foldl (fun count ranges => BackwardCount.follow target ranges count) start).tally

/-- Counts the states of a set.  A set of ASCII characters takes a single state and an end. -/
def Tally.addSet (tally : Tally) (direction : Direction) (set : CodeSet) : Tally :=
  if set.isAscii then (tally.addStates 1).addBranching set.ranges.length
  else
    match direction with
    | .forward => tally.addForwardSet (ByteRange.sequences set)
    | .backward => tally.addBackwardSet (ByteRange.sequences set)

/-! ### Choices between words

The words of a choice are arranged as a tree whose branches are bytes.  Where a word ends, the
branches after it are kept apart from those before it, as an earlier word is preferred.
-/

/-- The words of a node without their first byte, for each first byte. -/
def branches (words : List (List Nat)) : List (List (List Nat)) :=
  let firsts := (words.filterMap List.head?).eraseDups
  firsts.map fun first => words.filterMap fun word =>
    match word with
    | byte :: rest => if byte = first then some rest else none
    | [] => none

/-- Words between those that end at a node. -/
def chunks (words : List (List Nat)) : List (List (List Nat)) :=
  words.splitOnP List.isEmpty

/-- How often a node is left because a word ends there; a word at the start counts once. -/
def endings (words : List (List Nat)) : Nat :=
  min 1 (words.takeWhile List.isEmpty).length +
    ((words.dropWhile List.isEmpty).filter List.isEmpty).length

/-- Counts the states below a node; `depth` is not less than the length of any word. -/
def Tally.addNode : Nat → List (List Nat) → Tally → Tally
  | 0, _, tally => tally
  | depth + 1, words, tally =>
    let parts := (chunks words).filter (!·.isEmpty)
    let tally := parts.foldl
      (fun tally part =>
        let below := branches part
        let tally := below.foldl
          (fun tally rests =>
            if rests.all List.isEmpty then tally else addNode depth rests tally)
          tally
        if below.length = 1 then tally.addStates 1 else tally.addBranching below.length)
      tally
    (tally.addStates 1).addAlternatives (parts.length + endings words)

/-- Counts the states of a choice between words. -/
def Tally.addWords (tally : Tally) (direction : Direction) (words : List (List Char)) : Tally :=
  let bytes := words.map fun word => word.flatMap fun c => ByteRange.bytesOf c.toNat
  let bytes := if direction = .backward then bytes.map List.reverse else bytes
  Tally.addNode ((bytes.map List.length).foldl max 0 + 1) bytes (tally.addStates 1)

/-! ### Shapes -/

namespace Shape

/-- The text of a word. -/
def word? : Shape → Option (List Char)
  | word text => some text
  | _ => none

mutual

/-- The last state of the shape is a state of choice. -/
def endsInChoice (direction : Direction) : Shape → Bool
  | times least none _ body => least != 0 || body.minLength?.any (0 < ·)
  | times least (some most) _ body => least == most && body.endsInChoice direction
  | group _ body => direction == .backward && body.endsInChoice direction
  | seq parts => if direction = .forward then lastEnds direction parts else firstEnds direction parts
  | _ => false

/-- The last of the parts ends in a state of choice. -/
def lastEnds (direction : Direction) : List Shape → Bool
  | [] => false
  | [part] => part.endsInChoice direction
  | _ :: rest => lastEnds direction rest

/-- The first of the parts ends in a state of choice. -/
def firstEnds (direction : Direction) : List Shape → Bool
  | [] => false
  | part :: _ => part.endsInChoice direction

end

/-- Counts a repetition of something that `count` counts. -/
def countTimes (least : Nat) (most : Option Nat) (takesSome endsInChoice : Bool)
    (count : Tally → Tally) (tally : Tally) : Tally :=
  let again := fun (tally : Tally) => count (tally.link endsInChoice)
  let copies := fun (n : Nat) (tally : Tally) =>
    match n with
    | 0 => tally.addStates 1
    | n + 1 => Tally.iterate again n (count tally)
  let optional := fun (tally : Tally) =>
    ((count (tally.addStates 1)).link endsInChoice).addAlternatives 2
  match least, most with
  | 0, some 1 => ((count (tally.addStates 1)).addStates 1).addAlternatives 2 |>.link endsInChoice
  | 0, none =>
    if takesSome then (count (tally.addStates 1)).addAlternatives 1 |>.link endsInChoice
    else ((count tally).addStates 3).addAlternatives 4 |>.link endsInChoice
  | least, none => ((copies least tally).addStates 1).addAlternatives 1 |>.link endsInChoice
  | least, some most =>
    if least = most then copies least tally
    else
      let start := (copies least tally).link (endsInChoice && least != 0)
      Tally.iterate optional (most - least) (start.addStates 1)

mutual

/-- Counts the states of a shape. -/
def count (direction : Direction) : Shape → Tally → Tally
  | empty, tally => tally.addStates 1
  | word text, tally => tally.addStates (wordSize text)
  | set s _, tally => tally.addSet direction s
  | test _, tally => tally.addStates 1
  | times least most _ body, tally =>
    countTimes least most (body.minLength?.any (0 < ·)) (body.endsInChoice direction)
      (body.count direction) tally
  | group _ body, tally =>
    if direction = .forward then
      ((body.count direction (tally.addStates 1)).addStates 1).link (body.endsInChoice direction)
    else body.count direction tally
  | seq parts, tally =>
    if direction = .forward then countForward parts tally else countBackward parts tally
  | alt parts, tally =>
    match parts.mapM word? with
    | some words => tally.addWords direction words
    | none => countChoice direction 0 parts tally

/-- Counts parts from the first to the last. -/
def countForward : List Shape → Tally → Tally
  | [], tally => tally
  | [part], tally => part.count .forward tally
  | part :: rest, tally =>
    countForward rest ((part.count .forward tally).link (part.endsInChoice .forward))

/-- Counts parts from the last to the first. -/
def countBackward : List Shape → Tally → Tally
  | [], tally => tally
  | [part], tally => part.count .backward tally
  | part :: rest, tally =>
    part.count .backward ((countBackward rest tally).link (firstEnds .backward rest))

/-- Counts alternatives; the states that begin and end the choice come after the second. -/
def countChoice (direction : Direction) : Nat → List Shape → Tally → Tally
  | _, [], tally => tally
  | before, part :: rest, tally =>
    let tally := (part.count direction tally).addAlternatives 1
    let tally := tally.link (part.endsInChoice direction)
    countChoice direction (before + 1) rest (if before = 1 then tally.addStates 2 else tally)

end

/-- Counts the states that look for the start of a match, unless it is fixed. -/
def countSearch (anchored : Bool) : Tally :=
  if anchored then Tally.zero.addStates 1
  else ((Tally.zero.addStates 2).addBranching 1).addAlternatives 2

/-- Counts the whole automaton, with a group around the shape if it reads forward. -/
def total (shape : Shape) : Direction → Tally
  | .forward =>
    let tally := (shape.count .forward
      ((countSearch (shape.startsWith .textStart)).addStates 1)).addStates 2
    tally.link (shape.endsInChoice .forward)
  | .backward =>
    let tally := (shape.count .backward (countSearch (shape.endsWith .textEnd))).addStates 1
    tally.link (shape.endsInChoice .backward)

/-- A choice between this many words is searched for without an automaton. -/
def manyWords : Nat := 3000

/-- The automata of the shape keep within the limit, or it needs none. -/
def isModerate (shape : Shape) : Bool :=
  match shape with
  | alt parts =>
    (manyWords ≤ parts.length && (parts.mapM word?).isSome) || bothFit
  | _ => bothFit
where
  bothFit : Bool := (shape.total .forward).fits && (shape.total .backward).fits

end Shape

end CosmeticFilter.Regex
