/-
Domain labels in ASCII form.

A label with characters beyond ASCII can be written in ASCII as `xn--`, its ASCII
characters, a hyphen, and digits that say which other characters to insert where.
`decode?` reads what stands behind `xn--`.  The digits are numbers of variable length
in base 36, each the distance from the last insertion; the bias, which says how long
a number is expected to be, adapts to the distances seen.
-/

namespace CosmeticFilter.Url.Punycode

/-- The value of a digit: small letters, then decimal digits. -/
def digitValue? (c : Char) : Option Nat :=
  if 'a' ≤ c ∧ c ≤ 'z' then some (c.toNat - 'a'.toNat)
  else if '0' ≤ c ∧ c ≤ '9' then some (c.toNat - '0'.toNat + 26)
  else none

/-- The value from which on the digit at a place is not the last one of its number. -/
def threshold (bias place : Nat) : Nat :=
  if place ≤ bias then 1 else min (place - bias) 26

/-- Divides a distance down to the size that a bias is made of. -/
def scale (delta steps : Nat) : Nat × Nat :=
  if delta ≤ 455 then (delta, steps) else scale (delta / 35) (steps + 36)
termination_by delta
decreasing_by omega

/-- The bias after an insertion, which was the `count`th character. -/
def adapt (delta count : Nat) (first : Bool) : Nat :=
  let delta := if first then delta / 700 else delta / 2
  let (rest, steps) := scale (delta + delta / count) 0
  steps + 36 * rest / (rest + 38)

/-- A number, its lowest digit first, and the text after it. -/
def readNumber? (bias place weight : Nat) : List Char → Option (Nat × List Char)
  | [] => none
  | c :: rest =>
    match digitValue? c with
    | none => none
    | some d =>
      let t := threshold bias place
      if d < t then some (d * weight, rest)
      else (readNumber? bias (place + 36) (weight * (36 - t)) rest).map fun (n, after) =>
        (n + d * weight, after)

theorem readNumber?_length {bias place weight n : Nat} {cs after : List Char}
    (h : readNumber? bias place weight cs = some (n, after)) : after.length < cs.length := by
  induction cs generalizing place weight n after with
  | nil => simp [readNumber?] at h
  | cons c rest ih =>
    rw [readNumber?] at h
    split at h
    · simp at h
    · simp only at h
      split at h
      · obtain ⟨-, rfl⟩ := Prod.mk.inj (Option.some.inj h)
        simp
      · obtain ⟨⟨m, last⟩, hm, heq⟩ := Option.map_eq_some_iff.mp h
        obtain ⟨-, rfl⟩ := Prod.mk.inj heq
        exact Nat.lt_succ_of_lt (ih hm)

/-- The code point is that of a character. -/
def isCharCode (code : Nat) : Bool :=
  code < 0xD800 || (0xDFFF < code && code < 0x110000)

/--
Inserts characters into `label`.  The code point of the last one was `code`, and the
next insertion is counted from `place`.
-/
def insertAll? (label : List Char) (code place bias : Nat) (first : Bool) (cs : List Char) :
    Option (List Char) :=
  if cs.isEmpty then some label
  else
    match _h : readNumber? bias 36 1 cs with
    | none => none
    | some (delta, rest) =>
      let count := label.length + 1
      let code := code + (place + delta) / count
      let place := (place + delta) % count
      if isCharCode code then
        insertAll? (label.insertIdx place (Char.ofNat code)) code (place + 1)
          (adapt delta count first) false rest
      else none
termination_by cs.length
decreasing_by exact readNumber?_length _h

/-- The label that the text behind `xn--` stands for. -/
def decode? (cs : List Char) : Option (List Char) :=
  let backwards := cs.reverse
  let digits := (backwards.takeWhile (· != '-')).reverse
  let ascii := ((backwards.dropWhile (· != '-')).drop 1).reverse
  insertAll? ascii 0x80 0 72 true digits

end CosmeticFilter.Url.Punycode
