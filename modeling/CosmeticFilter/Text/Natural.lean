/-
Numbers in text.

A number is written in decimal digits, with leading zeros and one leading plus sign
allowed, and is read only if it fits below a limit.
-/

namespace CosmeticFilter.Text

/-- The value of a decimal digit. -/
def digitValue? (c : Char) : Option Nat :=
  if '0' ≤ c ∧ c ≤ '9' then some (c.toNat - '0'.toNat) else none

/-- The value of digits read after a number `acc`. -/
def readDigits? (acc : Nat) : List Char → Option Nat
  | [] => some acc
  | c :: rest =>
    match digitValue? c with
    | some d => readDigits? (10 * acc + d) rest
    | none => none

/-- The number that the text writes, if it is one and at most `limit`. -/
def readNatural? (limit : Nat) (cs : List Char) : Option Nat :=
  let digits := match cs with
    | '+' :: rest => rest
    | _ => cs
  if digits.isEmpty then none else (readDigits? 0 digits).filter (· ≤ limit)

/-- The greatest number of 64 bits. -/
def maxWord : Nat := 0xFFFFFFFFFFFFFFFF

end CosmeticFilter.Text
