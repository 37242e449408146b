/-
Addresses of four bytes.

An address is written as up to four numbers between dots.  The last number fills all
bytes that the others leave, so `127.1` and `0x7f000001` are the same address.
-/
import CosmeticFilter.Url.Number

namespace CosmeticFilter.Url.Ipv4

/-- The parts between the dots; a dot at the end adds no part. -/
def parts (cs : List Char) : List (List Char) :=
  let all := cs.splitOn '.'
  if all.getLast? == some [] then all.dropLast else all

/-- The domain ends like an address: its last part is a number. -/
def endsInNumber (cs : List Char) : Bool :=
  match (parts cs).getLast? with
  | none => false
  | some last =>
    (!last.isEmpty && last.all fun c => '0' ≤ c && c ≤ '9') || (partValue? last).isSome

/-- The address of numbers that stand for single bytes, and a last one that fills the rest. -/
def assemble? (bytes : List Nat) (last : Nat) : Option Nat :=
  if bytes.length < 4 ∧ bytes.all (· < 256) ∧ last < Nat.pow 256 (4 - bytes.length) then
    some (bytes.foldl (fun acc byte => 256 * acc + byte) 0 * Nat.pow 256 (4 - bytes.length) + last)
  else none

/-- The address that a text writes. -/
def parse? (cs : List Char) : Option Nat := do
  let numbers ← (parts cs).mapM partValue?
  let last ← numbers.getLast?
  assemble? numbers.dropLast last

end CosmeticFilter.Url.Ipv4
