/-
The smallest parts of regular expressions: escapes, character classes by name, and
numbers.

A reader takes characters from the front of the text and gives what they mean and
the rest, or nothing where the text is not well formed.
-/
import CosmeticFilter.Regex.Flags
import CosmeticFilter.Regex.ClassName
import CosmeticFilter.Text.Hexadecimal

namespace CosmeticFilter.Regex

open CosmeticFilter.Text CosmeticFilter.Unicode

/-- The meaning of a primitive part. -/
inductive Atom where
  /-- One character; `byte` tells that it was written as two hexadecimal digits. -/
  | char (c : Char) (byte : Bool)
  /-- A class by name. -/
  | set (set : CodeSet)
  | test (test : PositionTest)

/-! ### Characters by number -/

/-- The character with this code point, if there is one. -/
def charOf? (code : Nat) : Option Char :=
  if code < 0xD800 ∨ (0xDFFF < code ∧ code < 0x110000) then some (Char.ofNat code) else none

/-- Exactly `n` hexadecimal digits after the number `acc`. -/
def readHex? (flags : Flags) (acc : Nat) : Nat → List Char → Option (Nat × List Char)
  | 0, cs => some (acc, cs)
  | n + 1, cs =>
    match flags.skip cs with
    | [] => none
    | c :: rest =>
      match hexValue? c with
      | some d => readHex? flags (16 * acc + d) n rest
      | none => none

/-- Hexadecimal digits up to a closing brace; `some` tells the digits read before. -/
def readBracedHex? (flags : Flags) (acc : Option Nat) : List Char → Option (Nat × List Char)
  | [] => none
  | c :: rest =>
    if c = '\x7d' then acc.map fun code => (code, flags.skip rest)
    else if flags.freeLayout && isWhite c then readBracedHex? flags acc rest
    else
      match hexValue? c with
      | some d => readBracedHex? flags (some (16 * acc.getD 0 + d)) rest
      | none => none

/-- A character by its code point, after `\x`, `\u` or `\U` with 2, 4 or 8 digits. -/
def readCodePoint? (flags : Flags) (digits : Nat) (cs : List Char) : Option (Atom × List Char) :=
  match flags.skip cs with
  | [] => none
  | '\x7b' :: rest => do
    let (code, after) ← readBracedHex? flags none rest
    let c ← charOf? code
    return (.char c false, after)
  | rest => do
    let (code, after) ← readHex? flags 0 digits rest
    let c ← charOf? code
    return (.char c (digits == 2), flags.skip after)

/-! ### Classes by name -/

/-- The characters up to a closing brace. -/
def readBraced? (flags : Flags) : List Char → Option (List Char × List Char)
  | [] => none
  | c :: rest =>
    if c = '\x7d' then some ([], rest)
    else if flags.freeLayout && isWhite c then readBraced? flags rest
    else (readBraced? flags rest).map fun (name, after) => (c :: name, after)

/-- A class by its Unicode name, after `\p` or `\P`. -/
def readUnicodeClass? (flags : Flags) (negated : Bool) (cs : List Char) :
    Option (Atom × List Char) := do
  guard flags.unicode
  let finish := fun (set : CodeSet) (negate : Bool) =>
    let folded := flags.fold set
    Atom.set (if negate then negation folded else folded)
  match flags.skip cs with
  | [] => none
  | '\x7b' :: rest =>
    let (name, after) ← readBraced? flags rest
    let (set, inverse) ← classInBraces? name
    return (finish set (negated != inverse), after)
  | c :: rest =>
    guard (c != '\\')
    let set ← classNamed? [c]
    return (finish set negated, flags.skip rest)

/-- The class of `\d`, `\s` or `\w`. -/
def shortClass (flags : Flags) : Char → CodeSet
  | 'd' => if flags.unicode then Category.decimalNumbers else .interval 0x30 0x39
  | 's' => if flags.unicode then Property.whiteSpace.set else asciiSpace
  | _ => wordSet flags.unicode

/-! ### Escapes -/

/-- What an escape makes literal: all of ASCII but letters, digits and angle brackets. -/
def isEscapable (c : Char) : Bool :=
  c.toNat < 0x80 && !c.isAlphanum && c != '<' && c != '>'

/-- The letters of a word boundary name, up to its closing brace. -/
def readBoundaryName? (flags : Flags) : List Char → Option (List Char × List Char)
  | [] => none
  | c :: rest =>
    if c = '\x7d' then some ([], rest)
    else if c.isAlpha || c == '-' then
      (readBoundaryName? flags rest).map fun (name, after) => (c :: name, after)
    else if flags.freeLayout && isWhite c then readBoundaryName? flags rest
    else none

/-- A word boundary, whose kind may follow in braces. -/
def readBoundary? (flags : Flags) (cs : List Char) : Option (Atom × List Char) :=
  let word := flags.unicode
  let plain := (Atom.test (.wordBoundary word), cs)
  match cs with
  | '\x7b' :: rest =>
    match flags.skip rest with
    | [] => none
    | c :: inside =>
      if c.isAlpha || c == '-' then do
        let (name, after) ← readBoundaryName? flags (c :: inside)
        let test ← match String.ofList name with
          | "start" => some (PositionTest.wordStart word)
          | "end" => some (PositionTest.wordEnd word)
          | "start-half" => some (PositionTest.wordStartHalf word)
          | "end-half" => some (PositionTest.wordEndHalf word)
          | _ => none
        return (.test test, after)
      else some plain
  | _ => some plain

/-- What follows a backslash. -/
def readEscape? (flags : Flags) : List Char → Option (Atom × List Char)
  | [] => none
  | c :: rest =>
    let literal := fun (c : Char) => some (Atom.char c false, rest)
    match c with
    | 'x' => readCodePoint? flags 2 rest
    | 'u' => readCodePoint? flags 4 rest
    | 'U' => readCodePoint? flags 8 rest
    | 'p' => readUnicodeClass? flags false rest
    | 'P' => readUnicodeClass? flags true rest
    | 'd' | 's' | 'w' => some (.set (shortClass flags c), rest)
    | 'D' | 'S' | 'W' =>
      if flags.unicode then some (.set (negation (shortClass flags c.toLower)), rest) else none
    | 'a' => literal '\x07'
    | 'f' => literal '\x0C'
    | 't' => literal '\t'
    | 'n' => literal '\n'
    | 'r' => literal '\r'
    | 'v' => literal '\x0B'
    | 'A' => some (.test .textStart, rest)
    | 'z' => some (.test .textEnd, rest)
    | 'b' => readBoundary? flags rest
    | 'B' => some (.test (.noWordBoundary flags.unicode), rest)
    | '<' => some (.test (.wordStart flags.unicode), rest)
    | '>' => some (.test (.wordEnd flags.unicode), rest)
    | _ => if isEscapable c then literal c else none

/-! ### Numbers -/

/-- Decimal digits of a repetition count; `some` tells the digits read before. -/
def readCountDigits (flags : Flags) (acc : Option Nat) : List Char → Option Nat × List Char
  | [] => (acc, [])
  | c :: rest =>
    match digitValue? c with
    | some d => readCountDigits flags (some (10 * acc.getD 0 + d)) rest
    | none =>
      if flags.freeLayout && acc.isSome && isWhite c then readCountDigits flags acc rest
      else (acc, c :: rest)
where
  digitValue? (c : Char) : Option Nat :=
    if '0' ≤ c ∧ c ≤ '9' then some (c.toNat - '0'.toNat) else none

/-- A repetition count with white space around it; no count is an answer too. -/
def readCount? (flags : Flags) (cs : List Char) : Option (Option Nat × List Char) :=
  let (count, rest) := readCountDigits flags none (cs.dropWhile isWhite)
  if count.any (0x100000000 ≤ ·) then none else some (count, rest.dropWhile isWhite)

end CosmeticFilter.Regex
