/-
Writing selectors.

Every supported selector has a text.  A value is written in double quotes if it holds
none, else in single quotes, else without quotes; which of them can be read back depends
on its characters.
-/
import CosmeticFilter.Selector.Basic
import CosmeticFilter.Text.Blank

namespace CosmeticFilter

open CosmeticFilter.Text

/-- An attribute value, in the first notation that it allows. -/
def printValue (value : String) : String :=
  if !value.toList.contains '"' then "\"" ++ value ++ "\""
  else if !value.toList.contains '\'' then "'" ++ value ++ "'"
  else value

def Simple.print : Simple → String
  | .universal => "*"
  | .type name => name
  | .class name => "." ++ name
  | .id name => "#" ++ name
  | .attribute name => "[" ++ name ++ "]"
  | .attributeIs name value => "[" ++ name ++ "=" ++ printValue value ++ "]"
  | .root => ":root"
  | .scope => ":scope"
  | .nthChild position => ":nth-child(" ++ toString position ++ ")"
  | .unsupported text => text

/-- Conditions are written one behind the other. -/
def Compound.print (compound : Compound) : String :=
  String.join (compound.map Simple.print)

def Combinator.print : Combinator → String
  | .descendant => " "
  | .child => " > "
  | .adjacent => " + "
  | .sibling => " ~ "

def Complex.print (sel : Complex) : String :=
  Compound.print sel.first ++
    String.join (sel.rest.map fun (comb, compound) => comb.print ++ Compound.print compound)

/-- Alternatives are written with commas between them. -/
def SelectorList.print (list : SelectorList) : String :=
  ", ".intercalate (list.map Complex.print)

end CosmeticFilter
