/-
Names of character classes.

A class is named by a property, a category or a script, or by a key and a value.  Names are
compared in their loose form.  ASCII has classes of its own, written `[:name:]`.
-/
import CosmeticFilter.Regex.Basic
import CosmeticFilter.Unicode.Segmentation.Grapheme
import CosmeticFilter.Unicode.Segmentation.Sentence
import CosmeticFilter.Unicode.Segmentation.Word
import CosmeticFilter.Unicode.Script
import CosmeticFilter.Unicode.Version

namespace CosmeticFilter.Regex

open CosmeticFilter.Unicode

/-- A name without what does not count: case, spaces, hyphens, underscores and a leading `is`. -/
def looseName (cs : List Char) : String :=
  let plain := (cs.filter fun c => c.toNat < 0x80 && c != ' ' && c != '_' && c != '-').map
    Char.toLower
  let name := match cs with
    | a :: b :: _ => if a.toLower = 'i' ∧ b.toLower = 's' then plain.drop 2 else plain
    | _ => plain
  if name = ['c'] ∧ plain = ['i', 's', 'c'] then "isc" else String.ofList name

/-- The loose names of a class include this one. -/
def namedBy (name : String) (names : List String) : Bool :=
  names.any fun n => looseName n.toList == name

/-! ### Classes of Unicode -/

def category? (name : String) : Option CodeSet :=
  (Category.named.find? fun entry => entry.1.contains name).map (·.2)

def script? (name : String) : Option Script :=
  Script.all.find? fun script => namedBy name script.names

/-- The names that could be of a property but are those of a category. -/
def categoryFirst : List String := ["cf", "lc", "sc"]

def property? (name : String) : Option CodeSet :=
  if categoryFirst.contains name then none
  else (Property.all.find? fun p => namedBy name p.names).map (·.set)

/-- The class of a single name: a property, a category or a script. -/
def classNamed? (name : List Char) : Option CodeSet :=
  let loose := looseName name
  (property? loose).orElse fun _ =>
    (category? loose).orElse fun _ => (script? loose).map (·.set)

/-- The class of a key and a value. -/
def classValued? (key value : List Char) : Option CodeSet :=
  let value := looseName value
  match looseName key with
  | "generalcategory" | "gc" => category? value
  | "script" | "sc" => (script? value).map (·.set)
  | "scriptextensions" | "scx" => (script? value).map (·.users)
  | "age" => Version.addedBy? value
  | "graphemeclusterbreak" | "gcb" => BreakClass.named? Grapheme.classes value
  | "wordbreak" | "wb" => BreakClass.named? Word.classes value
  | "sentencebreak" | "sb" => BreakClass.named? Sentence.classes value
  | _ => none

/-- Splits at the first place where the text goes on with `sep`. -/
def splitAt? (sep : List Char) : List Char → Option (List Char × List Char)
  | [] => none
  | c :: rest =>
    if sep.isPrefixOf (c :: rest) then some ([], (c :: rest).drop sep.length)
    else (splitAt? sep rest).map fun (before, after) => (c :: before, after)

/-- The class between the braces of `\p`, and whether it is to be negated once more. -/
def classInBraces? (name : List Char) : Option (CodeSet × Bool) :=
  match splitAt? ['!', '='] name with
  | some (key, value) => (classValued? key value).map (·, true)
  | none =>
    match splitAt? [':'] name with
    | some (key, value) => (classValued? key value).map (·, false)
    | none =>
      match splitAt? ['='] name with
      | some (key, value) => (classValued? key value).map (·, false)
      | none => (classNamed? name).map (·, false)

/-! ### Classes of ASCII -/

def asciiDigits : CodeSet := .interval 0x30 0x39

def asciiLower : CodeSet := .interval 0x61 0x7A

def asciiUpper : CodeSet := .interval 0x41 0x5A

def asciiLetters : CodeSet := asciiUpper.union asciiLower

def asciiSpace : CodeSet := ⟨[⟨0x09, 0x0D⟩, ⟨0x20, 0x20⟩]⟩

/-- The ASCII classes written `[:name:]`. -/
def asciiClass? : String → Option CodeSet
  | "alnum" => some (asciiDigits.union asciiLetters)
  | "alpha" => some asciiLetters
  | "ascii" => some (.interval 0 0x7F)
  | "blank" => some (.ofCodes [0x09, 0x20])
  | "cntrl" => some ((CodeSet.interval 0 0x1F).union (.only '\x7F'))
  | "digit" => some asciiDigits
  | "graph" => some (.interval 0x21 0x7E)
  | "lower" => some asciiLower
  | "print" => some (.interval 0x20 0x7E)
  | "punct" => some ((CodeSet.interval 0x21 0x7E).diff (asciiDigits.union asciiLetters))
  | "space" => some asciiSpace
  | "upper" => some asciiUpper
  | "word" => some asciiWord
  | "xdigit" => some ((asciiDigits.union (.interval 0x41 0x46)).union (.interval 0x61 0x66))
  | _ => none

end CosmeticFilter.Regex
