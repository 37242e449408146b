/-
Shapes of expressions.

The shape of an expression is what its automaton is built from.  It is simpler than the
expression: neighbouring characters are joined to words, sets of one character become
words too, choices between characters become sets, and what the alternatives of a choice
have in common at their start is taken out of the choice.  The functions that build shapes
keep them simple, so that no shape has to be simplified again.
-/
import CosmeticFilter.Regex.Basic

namespace CosmeticFilter.Regex

open CosmeticFilter.Unicode

/-- What the automaton of an expression is built from. -/
inductive Shape where
  | empty
  /-- Characters one after the other; there is at least one. -/
  | word (text : List Char)
  /-- One character of a set, read as a character of Unicode or as a byte. -/
  | set (set : CodeSet) (unicode : Bool)
  | test (test : PositionTest)
  | times (least : Nat) (most : Option Nat) (greedy : Bool) (body : Shape)
  /-- A group that is remembered; the groups of an expression are counted from one. -/
  | group (index : Nat) (body : Shape)
  /-- At least two shapes, none of them empty or a sequence. -/
  | seq (parts : List Shape)
  /-- At least two shapes, none of them a choice. -/
  | alt (parts : List Shape)
  deriving BEq

namespace Shape

/-! ### Lengths

Lengths are counted in bytes.  A set without characters has none.
-/

/-- The bytes that a code point takes. -/
def codeSize (code : Nat) : Nat :=
  if code < 0x80 then 1 else if code < 0x800 then 2 else if code < 0x10000 then 3 else 4

/-- The bytes of a word. -/
def wordSize (text : List Char) : Nat :=
  text.foldr (fun c size => c.utf8Size + size) 0

mutual

/-- The length of the shortest match. -/
def minLength? : Shape → Option Nat
  | empty => some 0
  | word text => some (wordSize text)
  | set s _ => s.ranges.head?.map (codeSize ·.first)
  | test _ => some 0
  | times least _ _ body => body.minLength?.map (· * least)
  | group _ body => body.minLength?
  | seq parts => minSum? parts
  | alt parts => minLeast? parts

/-- The shortest matches of the parts, one after the other. -/
def minSum? : List Shape → Option Nat
  | [] => some 0
  | part :: rest => do return (← part.minLength?) + (← minSum? rest)

/-- The shortest match of any part. -/
def minLeast? : List Shape → Option Nat
  | [] => none
  | [part] => part.minLength?
  | part :: rest => do return min (← part.minLength?) (← minLeast? rest)

end

mutual

/-- The length of the longest match, if there is a longest one. -/
def maxLength? : Shape → Option Nat
  | empty => some 0
  | word text => some (wordSize text)
  | set s _ => s.ranges.getLast?.map (codeSize ·.last)
  | test _ => some 0
  | times _ most _ body => do return (← body.maxLength?) * (← most)
  | group _ body => body.maxLength?
  | seq parts => maxSum? parts
  | alt parts => maxGreatest? parts

/-- The longest matches of the parts, one after the other. -/
def maxSum? : List Shape → Option Nat
  | [] => some 0
  | part :: rest => do return (← part.maxLength?) + (← maxSum? rest)

/-- The longest match of any part. -/
def maxGreatest? : List Shape → Option Nat
  | [] => none
  | [part] => part.maxLength?
  | part :: rest => do return max (← part.maxLength?) (← maxGreatest? rest)

end

/-! ### Anchors -/

mutual

/-- Every match starts with this test. -/
def startsWith (anchor : PositionTest) : Shape → Bool
  | test t => t == anchor
  | times least _ _ body => 0 < least && body.startsWith anchor
  | group _ body => body.startsWith anchor
  | seq parts => someStarts anchor parts
  | alt parts => allStart anchor parts
  | _ => false

/-- One of the parts up to the first that takes a character starts with the test. -/
def someStarts (anchor : PositionTest) : List Shape → Bool
  | [] => false
  | part :: rest =>
    part.startsWith anchor || (part.maxLength? == some 0 && someStarts anchor rest)

/-- All of the parts start with the test. -/
def allStart (anchor : PositionTest) : List Shape → Bool
  | [] => true
  | part :: rest => part.startsWith anchor && allStart anchor rest

end

mutual

/-- Every match ends with this test. -/
def endsWith (anchor : PositionTest) : Shape → Bool
  | test t => t == anchor
  | times least _ _ body => 0 < least && body.endsWith anchor
  | group _ body => body.endsWith anchor
  | seq parts => someEnds anchor parts
  | alt parts => allEnd anchor parts
  | _ => false

/-- One of the parts from the last that takes a character on ends with the test. -/
def someEnds (anchor : PositionTest) : List Shape → Bool
  | [] => false
  | part :: rest =>
    someEnds anchor rest || (maxSum? rest == some 0 && part.endsWith anchor)

/-- All of the parts end with the test. -/
def allEnd (anchor : PositionTest) : List Shape → Bool
  | [] => true
  | part :: rest => part.endsWith anchor && allEnd anchor rest

end

/-! ### Building shapes -/

/-- The shape of a set: a word where the set has a single character. -/
def ofSet (s : CodeSet) (unicode : Bool) : Shape :=
  match s.ranges with
  | [] => set s false
  | [range] =>
    if range.first = range.last then word [Char.ofNat range.first] else set s unicode
  | _ => set s unicode

/-- A repetition.  What takes no characters need not be repeated. -/
def repetition (least : Nat) (most : Option Nat) (greedy : Bool) (body : Shape) : Shape :=
  let idle := body.maxLength? == some 0
  let least := if idle then min least 1 else least
  let most := if idle then some (min (most.getD 1) 1) else most
  match least, most with
  | 0, some 0 => empty
  | 1, some 1 => body
  | least, most => times least most greedy body

/-- Puts a part that is no sequence before others, joining words. -/
def joinPart (part : Shape) (rest : List Shape) : List Shape :=
  match part, rest with
  | empty, rest => rest
  | word text, word more :: rest => word (text ++ more) :: rest
  | part, rest => part :: rest

/-- Parts one after the other. -/
def sequence (parts : List Shape) : Shape :=
  let joined := parts.foldr
    (fun part rest =>
      match part with
      | seq inner => inner.foldr joinPart rest
      | part => joinPart part rest)
    []
  match joined with
  | [] => empty
  | [part] => part
  | joined => seq joined

/-- The character of a word of one character. -/
def char? : Shape → Option Char
  | word [c] => some c
  | _ => none

/-- The set of a shape that is one. -/
def set? : Shape → Option CodeSet
  | set s _ => some s
  | _ => none

/-- The parts of a sequence. -/
def parts? : Shape → Option (List Shape)
  | seq parts => some parts
  | _ => none

/-- How many parts two lists have in common at their start. -/
def commonParts : List Shape → List Shape → Nat
  | a :: as, b :: bs => if a == b then commonParts as bs + 1 else 0
  | _, _ => 0

/-- The alternatives of a choice, with those of inner choices among them. -/
def flatten (parts : List Shape) : List Shape :=
  parts.flatMap fun part =>
    match part with
    | alt inner => inner
    | part => [part]

/--
A choice between parts.  What all alternatives have in common at their start is taken out,
and the choice between the rests is built in the same way.  Each time the rests are shorter,
so a `fuel` as great as the longest alternative is never used up.
-/
def choiceOf : Nat → List Shape → Shape
  | 0, parts => alt parts
  | fuel + 1, parts =>
    match flatten parts with
    | [] => set .empty false
    | [part] => part
    | first :: others =>
      let all := first :: others
      match all.mapM char?, all.mapM set?, first.parts?, others.mapM parts? with
      | some chars, _, _, _ => ofSet (.ofCodes (chars.map Char.toNat)) true
      | _, some sets, _, _ => ofSet (.unions sets) true
      | _, _, some firstParts, some otherParts =>
        let common := otherParts.foldl
          (fun common parts => min common (commonParts firstParts parts)) firstParts.length
        if common = 0 then alt all
        else
          let rests := (firstParts :: otherParts).map fun parts => sequence (parts.drop common)
          sequence (firstParts.take common ++ [choiceOf fuel rests])
      | _, _, _, _ => alt all

mutual

/-- The leaves and branches of a shape. -/
def weight : Shape → Nat
  | times _ _ _ body => body.weight + 1
  | group _ body => body.weight + 1
  | seq parts => weights parts + 1
  | alt parts => weights parts + 1
  | _ => 1

def weights : List Shape → Nat
  | [] => 0
  | part :: rest => part.weight + weights rest

end

/-- A choice between parts. -/
def choice (parts : List Shape) : Shape :=
  choiceOf (weights parts + 1) parts

end Shape

end CosmeticFilter.Regex
