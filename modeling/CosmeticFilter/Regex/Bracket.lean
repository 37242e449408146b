/-
Bracketed classes.

A bracketed class is a union of characters, ranges, named classes and nested
brackets; `&&`, `--` and `~~` combine the unions on their two sides, from left to
right.  The reader keeps the open brackets on a stack.
-/
import CosmeticFilter.Regex.Atom
import CosmeticFilter.Regex.Part

namespace CosmeticFilter.Regex

open CosmeticFilter.Text CosmeticFilter.Unicode

/-- The operations between unions. -/
inductive SetOperation where
  | intersection | difference | symmetricDifference
  deriving DecidableEq, Repr

def SetOperation.apply : SetOperation → CodeSet → CodeSet → CodeSet
  | intersection, a, b => a.inter b
  | difference, a, b => a.diff b
  | symmetricDifference, a, b => a.symmDiff b

/-- The items read since the last bracket or operation. -/
structure ItemUnion where
  set : CodeSet
  count : Nat
  height : Nat

namespace ItemUnion

def empty : ItemUnion := ⟨.empty, 0, 0⟩

/-- One more item of the given height. -/
def add (items : ItemUnion) (set : CodeSet) (height : Nat) : ItemUnion :=
  ⟨items.set.union set, items.count + 1, max items.height height⟩

/-- Several items count as one level. -/
def depth (items : ItemUnion) : Nat :=
  if items.count ≤ 1 then items.height else items.height + 1

end ItemUnion

/--
A class closed under case and negated, as far as it is to be.  Where Unicode is off, it must
not have characters beyond ASCII.
-/
def finishClass? (flags : Flags) (negated : Bool) (set : CodeSet) : Option CodeSet :=
  let folded := flags.fold set
  let finished := if negated then negation folded else folded
  if flags.unicode || finished.isAscii then some finished else none

/-- An open bracket: the operation waiting for its right side, and the items so far. -/
structure OpenBracket where
  negated : Bool
  waiting : Option (SetOperation × CodeSet × Nat)
  items : ItemUnion

namespace OpenBracket

/-- The set and the height of all that the bracket holds so far. -/
def combined (flags : Flags) (b : OpenBracket) : CodeSet × Nat :=
  match b.waiting with
  | none => (b.items.set, b.items.depth)
  | some (op, left, height) =>
    (op.apply (flags.fold left) (flags.fold b.items.set), 1 + max height b.items.depth)

/-- The operation waits for the items that follow. -/
def operate (flags : Flags) (b : OpenBracket) (op : SetOperation) : OpenBracket :=
  let (set, height) := b.combined flags
  { b with
    waiting := some (op, set, height)
    items := .empty }

/-- The set and the height of the finished bracket. -/
def close? (flags : Flags) (b : OpenBracket) : Option (CodeSet × Nat) :=
  let (set, height) := b.combined flags
  (finishClass? flags b.negated set).map (·, height + 1)

/-- One more item. -/
def add (b : OpenBracket) (set : CodeSet) (height : Nat) : OpenBracket :=
  { b with items := b.items.add set height }

end OpenBracket

/-- Hyphens at the start of a bracket, and the rest. -/
def readHyphens (flags : Flags) (b : OpenBracket) : List Char → OpenBracket × List Char
  | [] => (b, [])
  | c :: rest =>
    if c = '-' then readHyphens flags (b.add (CodeSet.only '-') 0) rest
    else if flags.freeLayout && isWhite c then readHyphens flags b rest
    else (b, c :: rest)

/-- The start of a bracket: a caret, hyphens, and a closing bracket that stands for itself. -/
def openBracket? (flags : Flags) (cs : List Char) : Option (OpenBracket × List Char) :=
  let start := fun (negated : Bool) (cs : List Char) =>
    let (b, rest) := readHyphens flags ⟨negated, none, .empty⟩ (flags.skip cs)
    match flags.skip rest with
    | [] => none
    | ']' :: after =>
      if b.items.count = 0 then
        match flags.skip after with
        | [] => none
        | after => some (b.add (CodeSet.only ']') 0, after)
      else some (b, ']' :: after)
    | rest => some (b, rest)
  match flags.skip cs with
  | [] => none
  | '^' :: rest => start true rest
  | rest => start false rest

/-- An ASCII class such as `[:alpha:]`, after its opening bracket: negated or not, and its set. -/
def readAsciiClass? (cs : List Char) : Option (Bool × CodeSet × List Char) :=
  match cs with
  | ':' :: rest =>
    let (negated, body) := match rest with
      | '^' :: body => (true, body)
      | _ => (false, rest)
    match body.dropWhile (· != ':') with
    | ':' :: ']' :: after =>
      (asciiClass? (String.ofList (body.takeWhile (· != ':')))).map (negated, ·, after)
    | _ => none
  | _ => none

/-- One item of a class: an escape, or a character as it stands. -/
def readItem? (flags : Flags) : List Char → Option (Atom × List Char)
  | [] => none
  | '\\' :: rest => readEscape? flags rest
  | c :: rest => some (.char c false, rest)

/-- A character that may stand in a class: any, or ASCII where Unicode is off. -/
def itemChar? (flags : Flags) : Atom → Option Char
  | .char c _ => if flags.unicode || c.toNat < 0x80 then some c else none
  | _ => none

/-- A range, or a single item where no range follows. -/
def readRange? (flags : Flags) (b : OpenBracket) (cs : List Char) :
    Option (OpenBracket × List Char) := do
  let (first, rest) ← readItem? flags cs
  let single := fun (rest : List Char) =>
    match first with
    | .set set => some (b.add set 0, rest)
    | .test _ => none
    | .char .. => (itemChar? flags first).map fun c => (b.add (.only c) 0, rest)
  match flags.skip rest with
  | [] => none
  | '-' :: more =>
    match flags.skip more with
    | [] => none
    | ']' :: _ => single ('-' :: more)
    | '-' :: _ => single ('-' :: more)
    | more =>
      let (last, after) ← readItem? flags more
      let a ← itemChar? flags first
      let z ← itemChar? flags last
      guard (a ≤ z)
      return (b.add (.interval a.toNat z.toNat) 0, after)
  | rest => single rest

/-- Where reading a bracketed class stands. -/
inductive BracketState where
  /-- The innermost open bracket, those around it, and the text that follows. -/
  | inside (top : OpenBracket) (outer : List OpenBracket) (rest : List Char)
  /-- The class is complete: its set and height. -/
  | complete (set : CodeSet) (height : Nat) (rest : List Char)

/-- The text that is still to be read. -/
def BracketState.rest : BracketState → List Char
  | inside _ _ rest => rest
  | complete _ _ rest => rest

/-- Reads one item, operation or bracket of a class. -/
def bracketStep? (flags : Flags) (top : OpenBracket) (outer : List OpenBracket)
    (cs : List Char) : Option BracketState :=
  let item := fun (cs : List Char) =>
    (readRange? flags top cs).map fun (top, rest) => BracketState.inside top outer rest
  let operation := fun (op : SetOperation) (rest : List Char) =>
    some (BracketState.inside (top.operate flags op) outer rest)
  match flags.skip cs with
  | [] => none
  | '[' :: rest =>
    match readAsciiClass? rest with
    | some (negated, set, after) =>
      (finishClass? flags negated set).map fun set => .inside (top.add set 0) outer after
    | none => (openBracket? flags rest).map fun (inner, after) => .inside inner (top :: outer) after
  | ']' :: rest => do
    let (set, height) ← top.close? flags
    match outer with
    | [] => return .complete set height rest
    | parent :: others => return .inside (parent.add set height) others rest
  | '&' :: '&' :: rest => operation .intersection rest
  | '-' :: '-' :: rest => operation .difference rest
  | '~' :: '~' :: rest => operation .symmetricDifference rest
  | cs => item cs

/-- Reads on until the class is complete.  Every step takes a character. -/
def finishBracket? (flags : Flags) (top : OpenBracket) (outer : List OpenBracket)
    (cs : List Char) : Option (Part × List Char) :=
  match bracketStep? flags top outer cs with
  | none => none
  | some (.complete set height rest) => some (.ofSet set flags.unicode height, rest)
  | some (.inside top outer rest) =>
    if rest.length < cs.length then finishBracket? flags top outer rest else none
termination_by cs.length

/-- A bracketed class, after its opening bracket. -/
def readBracket? (flags : Flags) (cs : List Char) : Option (Part × List Char) := do
  let (top, rest) ← openBracket? flags cs
  finishBracket? flags top [] rest

end CosmeticFilter.Regex
