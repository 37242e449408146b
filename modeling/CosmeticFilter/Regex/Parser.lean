/-
Reading regular expressions.

The reader takes one sign after the other and keeps the open groups on a stack.  It
knows no look-around and no references to groups, and refuses whatever it does not
know, so that an expression either means what it says or does not count at all.
-/
import CosmeticFilter.Regex.Bracket
import CosmeticFilter.Unicode.Latest

namespace CosmeticFilter.Regex

open CosmeticFilter.Text CosmeticFilter.Unicode

/-- A level of grouping: finished alternatives and the parts of the current one, newest first. -/
structure Level where
  alternatives : List Part
  parts : List Part

namespace Level

def empty : Level := ⟨[], []⟩

/-- The whole level as one part. -/
def whole (level : Level) : Part :=
  let last := Part.sequence level.parts.reverse
  match (last :: level.alternatives).reverse with
  | [] => last
  | first :: others => Part.choice first others

def add (level : Level) (part : Part) : Level :=
  { level with parts := part :: level.parts }

/-- The current alternative ends. -/
def nextAlternative (level : Level) : Level :=
  ⟨Part.sequence level.parts.reverse :: level.alternatives, []⟩

end Level

/-- What is taken up again where a group ends. -/
structure OpenGroup where
  /-- The flags and the level around the group. -/
  flags : Flags
  level : Level
  /-- The number of the group, if it is remembered. -/
  index : Option Nat

/-- Where reading stands. -/
structure State where
  flags : Flags
  level : Level
  /-- The groups that are open, innermost first. -/
  outer : List OpenGroup
  /-- The names of groups so far. -/
  names : List (List Char)
  /-- How many remembered groups have been opened. -/
  groups : Nat
  rest : List Char

/-! ### Signs -/

/-- The set of `.`. -/
def anyChar (flags : Flags) : CodeSet :=
  let all := CodeSet.empty.compl
  if flags.dotAll then all
  else all.diff (.ofCodes (if flags.crlf then [0x0A, 0x0D] else [0x0A]))

/-- The part that a literal character stands for. -/
def literalPart? (flags : Flags) (c : Char) (byte : Bool) : Option Part :=
  if flags.unicode then some (.ofSet (flags.fold (.only c)) true 0)
  else if c.toNat < 0x80 then some (.ofSet (flags.fold (.only c)) false 0)
  else if byte then none
  else some (.ofSet (.only c) true 0)

/-- The part that a primitive stands for. -/
def atomPart? (flags : Flags) : Atom → Option Part
  | .char c byte => literalPart? flags c byte
  | .set set => some (.ofSet set flags.unicode 0)
  | .test test => some (.ofTest test)

def startTest (flags : Flags) : PositionTest :=
  if flags.multiLine then (if flags.crlf then .lineStartCrlf else .lineStart) else .textStart

def endTest (flags : Flags) : PositionTest :=
  if flags.multiLine then (if flags.crlf then .lineEndCrlf else .lineEnd) else .textEnd

/-- A dot, an anchor, an escape, or a character as it stands. -/
def readPrimitive? (flags : Flags) : List Char → Option (Part × List Char)
  | [] => none
  | '\\' :: rest => do
    let (atom, after) ← readEscape? flags rest
    return (← atomPart? flags atom, after)
  | '.' :: rest => if flags.unicode then some (.ofSet (anyChar flags) true 0, rest) else none
  | '^' :: rest => some (.ofTest (startTest flags), rest)
  | '$' :: rest => some (.ofTest (endTest flags), rest)
  | c :: rest => (literalPart? flags c false).map (·, rest)

/-! ### Repetition -/

/--
Repeats the last part of the level.  A question mark may follow, which says which of several
matches is preferred.
-/
def State.repeat? (state : State) (least : Nat) (most : Option Nat) (rest : List Char) :
    Option State :=
  let (marked, after) := match rest with
    | '?' :: after => (true, after)
    | _ => (false, rest)
  let greedy := marked == state.flags.lazyFirst
  match state.level.parts with
  | [] => none
  | part :: before =>
    if part.repeatable then
      some { state with
        level := { state.level with parts := Part.repetition least most greedy part :: before }
        rest := after }
    else none

/-- The bounds between braces, after the opening one. -/
def readBounds? (flags : Flags) (cs : List Char) : Option (Nat × Option Nat × List Char) := do
  let (least, rest) ← readCount? flags (flags.skip cs)
  match rest with
  | ',' :: more =>
    let least ← least
    match flags.skip more with
    | [] => none
    | '\x7d' :: after => return (least, none, after)
    | more =>
      let (most, rest) ← readCount? flags more
      let most ← most
      match rest with
      | '\x7d' :: after => if least ≤ most then return (least, some most, after) else none
      | _ => none
  | '\x7d' :: after =>
    let count ← least
    return (count, some count, after)
  | _ => none

/-! ### Groups -/

/-- The letters of a flag group up to its end; `negated` once a minus sign has been read. -/
def readFlags? (flags : Flags) (seen : List Char) (negated fresh : Bool) :
    List Char → Option (Flags × List Char × List Char)
  | [] => none
  | c :: rest =>
    if c = ':' ∨ c = ')' then
      if negated && fresh then none else some (flags, seen, c :: rest)
    else if c = '-' then
      if negated then none else readFlags? flags (c :: seen) true true rest
    else if seen.contains c then none
    else
      match flags.assign? (!negated) c with
      | some flags => readFlags? flags (c :: seen) negated false rest
      | none => none

/-- The characters of a group's name. -/
def isGroupNameChar (first : Bool) (c : Char) : Bool :=
  c == '_' ||
    (if first then Latest.alphabetic.has c.toNat
     else c == '.' || c == '[' || c == ']' || Latest.alphanumeric.has c.toNat)

/-- A group's name up to the closing angle bracket. -/
def readGroupName? (first : Bool) : List Char → Option (List Char × List Char)
  | [] => none
  | c :: rest =>
    if c = '>' then (if first then none else some ([], rest))
    else if isGroupNameChar first c then
      (readGroupName? false rest).map fun (name, after) => (c :: name, after)
    else none

/-- A new level inside the current one. -/
def State.openGroup (state : State) (inside : Flags) (index : Option Nat) (rest : List Char) :
    State :=
  { state with
    flags := inside
    level := .empty
    outer := ⟨state.flags, state.level, index⟩ :: state.outer
    rest := rest }

/-- A group that is remembered. -/
def State.openRemembered (state : State) (rest : List Char) : State :=
  let index := state.groups + 1
  { state.openGroup state.flags (some index) rest with groups := index }

/-- A named group. -/
def State.openNamed? (state : State) (cs : List Char) : Option State := do
  let (name, rest) ← readGroupName? true cs
  guard (!state.names.contains name)
  return { state.openRemembered rest with names := name :: state.names }

/-- What follows an opening parenthesis: a group, or a change of flags. -/
def State.group? (state : State) (cs : List Char) : Option State :=
  match state.flags.skip cs with
  | '?' :: 'P' :: '<' :: rest => state.openNamed? rest
  | '?' :: '<' :: '=' :: _ => none
  | '?' :: '<' :: '!' :: _ => none
  | '?' :: '<' :: rest => state.openNamed? rest
  | '?' :: rest =>
    match readFlags? state.flags [] false false rest with
    | some (flags, _, ':' :: after) => some (state.openGroup flags none after)
    | some (flags, seen, _ :: after) =>
      if seen.isEmpty then none
      else some { state with flags := flags, level := state.level.add .nothing, rest := after }
    | _ => none
  | rest => some (state.openRemembered rest)

/-- A closing parenthesis ends the level and the force of its flags. -/
def State.closeGroup? (state : State) (rest : List Char) : Option State :=
  match state.outer with
  | [] => none
  | group :: outer =>
    some { state with
      flags := group.flags
      level := group.level.add (state.level.whole.group group.index)
      outer := outer
      rest := rest }

/-! ### Reading -/

/-- Reads one sign of the expression. -/
def State.step? (state : State) (c : Char) (rest : List Char) : Option State :=
  match c with
  | '(' => state.group? rest
  | ')' => state.closeGroup? rest
  | '|' => some { state with level := state.level.nextAlternative, rest := rest }
  | '[' => do
    let (part, after) ← readBracket? state.flags rest
    return { state with level := state.level.add part, rest := after }
  | '?' => state.repeat? 0 (some 1) rest
  | '*' => state.repeat? 0 none rest
  | '+' => state.repeat? 1 none rest
  | '\x7b' => do
    let (least, most, after) ← readBounds? state.flags rest
    state.repeat? least most (state.flags.skip after)
  | _ => do
    let (part, after) ← readPrimitive? state.flags (c :: rest)
    return { state with level := state.level.add part, rest := after }

/-- Reads to the end of the text.  Every sign takes a character. -/
def State.finish? (state : State) : Option Part :=
  match state.flags.skip state.rest with
  | [] => if state.outer.isEmpty then some state.level.whole else none
  | c :: rest =>
    match state.step? c rest with
    | none => none
    | some next => if next.rest.length < state.rest.length then next.finish? else none
termination_by state.rest.length

end CosmeticFilter.Regex
