/-
Numbers in hosts and ports.

A part of an address is written in decimal, in octal after a zero, or in hexadecimal
after `0x`; ports are written in decimal only.
-/

namespace CosmeticFilter.Url

/-- The value of a digit in the given base. -/
def digitValue? (base : Nat) (c : Char) : Option Nat :=
  let value :=
    if '0' ≤ c ∧ c ≤ '9' then c.toNat - '0'.toNat
    else if 'a' ≤ c ∧ c ≤ 'f' then c.toNat - 'a'.toNat + 10
    else if 'A' ≤ c ∧ c ≤ 'F' then c.toNat - 'A'.toNat + 10
    else base
  if value < base then some value else none

/-- The value of a run of digits, if all characters are digits. -/
def digitsValue? (base : Nat) (cs : List Char) : Option Nat :=
  cs.foldlM (fun acc c => (digitValue? base c).map (base * acc + ·)) 0

/-- The base of a number and its digits. -/
def splitBase (cs : List Char) : Nat × List Char :=
  match cs with
  | '0' :: 'x' :: rest | '0' :: 'X' :: rest => (16, rest)
  | '0' :: c :: rest => (8, c :: rest)
  | _ => (10, cs)

/-- The number that a part of an address writes; a base without digits writes zero. -/
def partValue? (cs : List Char) : Option Nat :=
  if cs.isEmpty then none
  else
    let (base, digits) := splitBase cs
    digitsValue? base digits

/-- The value of a port, which fits in 16 bits. -/
def portValue? (digits : List Char) : Option Nat :=
  (digitsValue? 10 digits).filter (· < 0x10000)

end CosmeticFilter.Url
