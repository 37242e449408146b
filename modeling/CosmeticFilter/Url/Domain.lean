/-
Domains.

A domain is a list of labels between dots, all of whose characters have been mapped.  A label in
ASCII form (`xn--`) means the label that it encodes.  Labels with letters beyond ASCII have to
be well formed: marks and joiners stand where they can, and where letters are read from right
to left no label may mix directions.
-/
import CosmeticFilter.Unicode.Direction
import CosmeticFilter.Unicode.Joining
import CosmeticFilter.Url.Mapping
import CosmeticFilter.Url.Punycode

namespace CosmeticFilter.Url.Domain

open CosmeticFilter.Unicode

/-- ASCII characters that no domain may hold: controls, the space and the signs of addresses. -/
def isForbidden (c : Char) : Bool :=
  c.toNat ≤ 0x20 || c == '\x7F' || "%#/:<>?@[\\]^|".toList.contains c

def isAscii (cs : List Char) : Bool :=
  cs.all (·.toNat < 0x80)

/-! ### Joiners -/

/-- The first character that joining does not pass over is in the set. -/
def meets (set : CodeSet) (cs : List Char) : Bool :=
  ((cs.dropWhile fun c => Joining.passedOver.has c.toNat).head?).any fun c => set.has c.toNat

/-- A joiner may stand between these characters; those before it are given backwards. -/
def joinerFits (joiner : Char) (before after : List Char) : Bool :=
  match before with
  | [] => false
  | previous :: _ =>
    combiningClass previous.toNat == viramaClass ||
      (joiner == '\u200C' && meets Joining.toNext before && meets Joining.toPrevious after)

/-- All joiners of a label fit, the characters before it being given backwards. -/
def joinersFit (before : List Char) : List Char → Bool
  | [] => true
  | c :: rest =>
    (if c == '\u200C' || c == '\u200D' then joinerFits c before rest else true) &&
      joinersFit (c :: before) rest

/-! ### Directions -/

/-- The character makes the domain one that is read from right to left. -/
def isBackward (c : Char) : Bool :=
  match Direction.of c.toNat with
  | .rightToLeft | .arabicNumber => true
  | _ => false

/-- The label begins with a letter and keeps to its direction. -/
def keepsDirection (label : List Char) : Bool :=
  let directions := label.map fun c => Direction.of c.toNat
  let last := (directions.reverse.dropWhile (· == .mark)).head?
  match directions.head? with
  | some .leftToRight =>
    directions.all (fun d => d != .rightToLeft && d != .arabicNumber) &&
      last.any fun d => d == .leftToRight || d == .europeanNumber
  | some .rightToLeft =>
    directions.all (· != .leftToRight) &&
      !(directions.contains .europeanNumber && directions.contains .arabicNumber) &&
      last.any fun d => d != .neutral
  | some _ => false
  | none => true

/-! ### Labels -/

/-- The longest encoded label that is read. -/
def maxEncoded : Nat := 2000

/-- The longest label beyond ASCII. -/
def maxLabel : Nat := 1000

/-- The label that the digits behind `xn--` mean; it is one that need not be mapped. -/
def decodeLabel? (digits : List Char) : Option (List Char) := do
  guard (isAscii digits && digits.length ≤ maxEncoded && digits.getLast? != some '-')
  let label ← Punycode.decode? digits
  guard (!isAscii label && Mapping.mapped? label == some label)
  return label

/-- The label that a mapped label means: itself, or what it encodes. -/
def label? (label : List Char) : Option (List Char) :=
  match label with
  | 'x' :: 'n' :: '-' :: '-' :: digits => decodeLabel? digits
  | _ => if isAscii label || label.length ≤ maxLabel then some label else none

/-- The characters of a label may stand where they stand: a mark needs one before it. -/
def isLabel (label : List Char) : Bool :=
  !label.any isForbidden && !label.head?.any (fun c => Latest.marks.has c.toNat) &&
    joinersFit [] label

/-- The domain in its one form, if all of its labels are sound. -/
def normalize? (cs : List Char) : Option (List Char) := do
  let labels ← ((← Mapping.mapped? cs).splitOn '.').mapM label?
  guard (labels.all isLabel)
  guard (!labels.any (·.any isBackward) || labels.all keepsDirection)
  return (labels.intersperse ['.']).flatten

end CosmeticFilter.Url.Domain
