/-
What the characters of domains are mapped to.

Two spellings of a domain are the same if they are mapped to the same text.  Letters are made
small, variant forms become the usual ones, characters without a form of their own are dropped,
and the result is brought into normal form.
-/
import CosmeticFilter.Unicode.CaseFolding
import CosmeticFilter.Unicode.Latest
import CosmeticFilter.Unicode.Normalization
import CosmeticFilter.Url.Mapping.Form
import CosmeticFilter.Url.Mapping.Sequence

namespace CosmeticFilter.Url.Mapping

open CosmeticFilter.Unicode

/-- Characters that are dropped: invisible signs, fillers and selectors of variants. -/
def dropped : CodeSet := .ofLines
  ["AD 34F 115F-1160 17B4-17B5 180B-180F 200B 2060-2064 206A-206F 3164 FE00-FE0F FEFF FFA0",
   "1BCA0-1BCA3 1D173-1D17A E0100-E01EF"]

/-- Characters that have no place in domains, though they are assigned. -/
def excluded : CodeSet := .ofLines
  ["80-9F 600-605 61C 6DD 70F 890-891 8E2 1680 200E-200F 2024-2026 2028-202E 2066-2069 2488-249B",
   "2FF0-2FFF 31EF 33C2 33C7 33D8 D800-DFFF E000-F8FF FE12 FE19 FE30 FE52 FFF9-FFFD 110BD 110CD",
   "13430-1343F 1F100 E0001 E0020-E007F F0000-FFFFD 100000-10FFFD"]

/-- Scripts that domains know ahead of the other tables: the numerals of archaic cuneiform, Chisoi,
Jurchen with its radicals, and Seal.  None of their characters is mapped to another. -/
def newestScripts : CodeSet := .ofLines
  ["12550-12686 16D80-16D9D 16DA0-16DA9 18E00-19191 191A0-191D2 3D000-3FC3F"]

/-- The characters that domains may be written with. -/
def accepted : CodeSet :=
  (Latest.assigned.union newestScripts).diff excluded

/-- Characters that are kept: the sharp s, the final sigma and the two joiners. -/
def kept : List Nat := [0xDF, 0x3C2, 0x200C, 0x200D]

/-- What one character is mapped to. -/
def mapCode (code : Nat) : List Nat :=
  if code < 0x80 then [foldCase code]
  else if dropped.has code then []
  else if kept.contains code then [code]
  else
    match sequences.lookup code with
    | some images => images
    | none => [(CodeShift.image? forms code).getD (foldCase code)]

/-- The text with every character mapped, in normal form, if all characters are accepted. -/
def mapped? (cs : List Char) : Option (List Char) :=
  let codes := cs.map Char.toNat
  if codes.all accepted.has then some ((normal (codes.flatMap mapCode)).map Char.ofNat)
  else none

end CosmeticFilter.Url.Mapping
