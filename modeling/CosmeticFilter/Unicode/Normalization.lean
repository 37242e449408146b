/-
Normal text.

The same text can be written with composed characters or with marks after letters, and with
marks in different orders.  Normal text is composed as far as possible: `normal` takes all
characters apart, puts marks in the order of their combining classes, and composes again from
left to right.
-/
import CosmeticFilter.Unicode.Normalization.CombiningClass
import CosmeticFilter.Unicode.Normalization.Repeated

namespace CosmeticFilter.Unicode

/-! ### Hangul

The syllables are in the order of their consonants and vowels, so they are computed.
-/

namespace Hangul

def firstSyllable : Nat := 0xAC00

def firstLead : Nat := 0x1100

def firstVowel : Nat := 0x1161

/-- One less than the first final consonant; stands for none. -/
def noFinal : Nat := 0x11A7

def leads : Nat := 19

def vowels : Nat := 21

/-- The final consonants, and none. -/
def finals : Nat := 28

/-- The code point is a syllable. -/
def isSyllable (code : Nat) : Bool :=
  firstSyllable ≤ code && code < firstSyllable + leads * vowels * finals

/-- The consonants and the vowel of a syllable. -/
def parts (code : Nat) : List Nat :=
  let index := code - firstSyllable
  let syllable := [firstLead + index / (vowels * finals), firstVowel + index / finals % vowels]
  if index % finals = 0 then syllable else syllable ++ [noFinal + index % finals]

/-- The syllable of a consonant and a vowel, or of a syllable and a final consonant. -/
def composed? (a b : Nat) : Option Nat :=
  if firstLead ≤ a ∧ a < firstLead + leads ∧ firstVowel ≤ b ∧ b < firstVowel + vowels then
    some (firstSyllable + ((a - firstLead) * vowels + (b - firstVowel)) * finals)
  else if isSyllable a ∧ (a - firstSyllable) % finals = 0 ∧ noFinal < b ∧
      b < noFinal + finals then
    some (a + (b - noFinal))
  else none

end Hangul

/-! ### Taking apart -/

/-- The character and the mark that a composed character of the table is made of. -/
def separated? (table : List MarkedForms) (code : Nat) : Option (Nat × Nat) :=
  table.findSome? fun forms =>
    (forms.forms.findSome? (·.preimage? code)).map (·, forms.mark)

/-- Takes a character apart, as often as `fuel` says; no character has more than three marks. -/
def takenApart : Nat → Nat → List Nat
  | 0, code => [code]
  | fuel + 1, code =>
    if code < 0xC0 then [code]
    else if Hangul.isSyllable code then Hangul.parts code
    else
      match CodeShift.image? repeatedForms code with
      | some other => takenApart fuel other
      | none =>
        match separated? (markedForms ++ separatedForms) code with
        | some (base, mark) => takenApart fuel base ++ [mark]
        | none => [code]

/-- The text with all characters taken apart. -/
def decompose (codes : List Nat) : List Nat :=
  codes.flatMap (takenApart 5)

/-! ### Order -/

/--
Puts a code point behind a text that is given backwards, but before the marks at its end whose
classes are greater.
-/
def insertMark (code : Nat) : List Nat → List Nat
  | [] => [code]
  | other :: rest =>
    if combiningClass code != 0 && combiningClass code < combiningClass other then
      other :: insertMark code rest
    else code :: other :: rest

/-- The text with neighbouring marks in the order of their combining classes. -/
def orderMarks (codes : List Nat) : List Nat :=
  (codes.foldl (fun backwards code => insertMark code backwards) []).reverse

/-! ### Composing -/

/-- The composed character of a pair. -/
def composed? (base mark : Nat) : Option Nat :=
  (Hangul.composed? base mark).orElse fun _ =>
    (markedForms.find? (·.mark == mark)).bind fun forms => CodeShift.image? forms.forms base

/--
Composes the text behind `starter`.  The marks between are those after the starter that were
not composed with it, newest first; a mark meets the starter only if its class is greater than
that of the last mark between.
-/
def composeAfter (starter : Nat) (between : List Nat) : List Nat → List Nat
  | [] => starter :: between.reverse
  | code :: rest =>
    let meets := between.head?.all (combiningClass · < combiningClass code)
    match if meets then composed? starter code else none with
    | some joined => composeAfter joined between rest
    | none =>
      if combiningClass code = 0 then starter :: (between.reverse ++ composeAfter code [] rest)
      else composeAfter starter (code :: between) rest

/-- The text with all pairs composed, from left to right. -/
def compose (codes : List Nat) : List Nat :=
  let leading := codes.takeWhile (combiningClass · != 0)
  match codes.drop leading.length with
  | [] => leading
  | starter :: rest => leading ++ composeAfter starter [] rest

/-- The normal text that is the same as this one. -/
def normal (codes : List Nat) : List Nat :=
  if codes.all (· < 0x300) then codes else compose (orderMarks (decompose codes))

end CosmeticFilter.Unicode
