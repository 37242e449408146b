/-
Ranges of bytes.

An automaton reads characters as bytes, so a range of code points becomes sequences of byte
ranges: a sequence has one range for each byte, and takes all characters whose bytes are in
them.  A range of code points is cut where characters take a byte more, where there are
surrogates, and where a byte in front changes while those behind do not run through all of
their values.
-/
import CosmeticFilter.Unicode.CodeSet

namespace CosmeticFilter.Regex

open CosmeticFilter.Unicode

/-- The bytes from `first` to `last`. -/
structure ByteRange where
  first : Nat
  last : Nat
  deriving DecidableEq, Repr

namespace ByteRange

/-- The last code points of the characters that take one, two, three and four bytes, and the
last one before the surrogates. -/
def lengthLimits : List Nat := [0x7F, 0x7FF, CodeSet.beforeSurrogates, 0xFFFF, CodeSet.maxCode]

/-- The parts of a range of characters that take equally many bytes. -/
def evenLengths (range : CodeRange) : List CodeRange :=
  let starts := 0 :: 0x80 :: 0x800 :: CodeSet.afterSurrogates :: [0x10000]
  (starts.zip lengthLimits).filterMap fun (first, last) => range.meet? ⟨first, last⟩

/--
Cuts a range of code points into blocks.  A block of `width` code points is those that differ
in their last bytes only; `widths` has the widths for one, two and three bytes that are still
to be looked at.
-/
def blocks (range : CodeRange) : List Nat → List CodeRange
  | [] => [range]
  | width :: widths =>
    let head := range.first / width
    let tail := range.last / width
    if head = tail then [range]
    else if range.first % width ≠ 0 then
      ⟨range.first, (head + 1) * width - 1⟩ ::
        afterHead ⟨(head + 1) * width, range.last⟩ width widths
    else afterHead range width widths
where
  /-- Cuts a range that begins with its first block. -/
  afterHead (range : CodeRange) (width : Nat) (widths : List Nat) : List CodeRange :=
    let tail := range.last / width
    if range.first / width = tail then [range]
    else if range.last % width ≠ width - 1 then
      blocks ⟨range.first, tail * width - 1⟩ widths ++ [⟨tail * width, range.last⟩]
    else blocks range widths

/-- The bytes of the character with this code point. -/
def bytesOf (code : Nat) : List Nat :=
  if code < 0x80 then [code]
  else if code < 0x800 then [0xC0 + code / 0x40, 0x80 + code % 0x40]
  else if code < 0x10000 then
    [0xE0 + code / 0x1000, 0x80 + code / 0x40 % 0x40, 0x80 + code % 0x40]
  else
    [0xF0 + code / 0x40000, 0x80 + code / 0x1000 % 0x40, 0x80 + code / 0x40 % 0x40,
      0x80 + code % 0x40]

/-- The byte ranges of a block. -/
def ofBlock (block : CodeRange) : List ByteRange :=
  (bytesOf block.first).zipWith ByteRange.mk (bytesOf block.last)

/-- The sequences of byte ranges that take the characters of a set, in their order. -/
def sequences (set : CodeSet) : List (List ByteRange) :=
  set.ranges.flatMap fun range =>
    (evenLengths range).flatMap fun part => (blocks part [0x40, 0x1000, 0x40000]).map ofBlock

end ByteRange

end CosmeticFilter.Regex
