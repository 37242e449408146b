/-
Addresses of eight pieces of sixteen bits.

Pieces are written in hexadecimal between colons.  Two colons in a row stand for the
pieces that are missing, once in an address, and the last two pieces may be written
as four bytes between dots.
-/
import CosmeticFilter.Url.Number

namespace CosmeticFilter.Url.Ipv6

/-- The value of one byte in decimal, without leading zeros. -/
def byteValue? (cs : List Char) : Option Nat :=
  match cs with
  | [] => none
  | '0' :: _ :: _ => none
  | _ => (digitsValue? 10 cs).filter (· < 256)

/-- The two pieces of an address of four bytes. -/
def bytePieces? (cs : List Char) : Option (List Nat) := do
  match ← (cs.splitOn '.').mapM byteValue? with
  | [a, b, c, d] => some [256 * a + b, 256 * c + d]
  | _ => none

/-- The value of a piece: one to four hexadecimal digits. -/
def pieceValue? (cs : List Char) : Option Nat :=
  if 1 ≤ cs.length ∧ cs.length ≤ 4 then digitsValue? 16 cs else none

/-- The pieces of a part of an address; only where it ends the address may it end in bytes. -/
def pieces? (bytesAllowed : Bool) : List (List Char) → Option (List Nat)
  | [] => some []
  | [cs] => if bytesAllowed && cs.contains '.' then bytePieces? cs else (pieceValue? cs).map ([·])
  | cs :: more => do return (← pieceValue? cs) :: (← pieces? bytesAllowed more)

/-- The fields between colons; an empty text has none. -/
def fields (cs : List Char) : List (List Char) :=
  if cs.isEmpty then [] else cs.splitOn ':'

/-- The text before and after the first two colons in a row. -/
def splitGap? : List Char → Option (List Char × List Char)
  | ':' :: ':' :: rest => some ([], rest)
  | c :: rest => (splitGap? rest).map fun (before, after) => (c :: before, after)
  | [] => none

/-- The eight pieces of the address that a text writes. -/
def parse? (cs : List Char) : Option (List Nat) := do
  match splitGap? cs with
  | none =>
    let pieces ← pieces? true (fields cs)
    if pieces.length = 8 then some pieces else none
  | some (before, after) =>
    let left ← pieces? false (fields before)
    let right ← pieces? true (fields after)
    if left.length + right.length ≤ 7 then
      some (left ++ List.replicate (8 - left.length - right.length) 0 ++ right)
    else none

end CosmeticFilter.Url.Ipv6
