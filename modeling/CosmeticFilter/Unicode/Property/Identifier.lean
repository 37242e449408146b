/-
Properties of the characters of identifiers.
-/
import CosmeticFilter.Unicode.Property.Sign

namespace CosmeticFilter.Unicode.Property

def otherIdStart : Property where
  names := ["OIDS", "Other_ID_Start"]
  set := .ofLines ["1885-1886 2118 212E 309B-309C"]

def otherIdContinue : Property where
  names := ["OIDC", "Other_ID_Continue"]
  set := .ofLines ["B7 387 1369-1371 19DA 200C-200D 30FB FF65"]

/-- The signs of patterns, which no identifier holds. -/
def patternSigns : CodeSet :=
  patternSyntax.set.union patternWhiteSpace.set

def idStart : Property where
  names := ["IDS", "ID_Start"]
  set := (CodeSet.unions [Category.letters, Category.letterNumbers, otherIdStart.set]).diff
    patternSigns

def idContinue : Property where
  names := ["IDC", "ID_Continue"]
  set := (CodeSet.unions [idStart.set, Category.nonspacingMarks, Category.spacingMarks,
    Category.decimalNumbers, Category.connectors, otherIdContinue.set]).diff patternSigns

def xidStart : Property where
  names := ["XIDS", "XID_Start"]
  set := idStart.set.diff <| .ofLines
    ["37A E33 EB3 309B-309C FC5E-FC63 FDFA-FDFB FE70-FE7E/2 FF9E-FF9F"]

def xidContinue : Property where
  names := ["XIDC", "XID_Continue"]
  set := idContinue.set.diff <| .ofLines
    ["37A 309B-309C FC5E-FC63 FDFA-FDFB FE70-FE7E/2"]

/-- The properties of this module. -/
def ofIdentifiers : List Property :=
  [otherIdStart, otherIdContinue, idStart, idContinue, xidStart, xidContinue]

end CosmeticFilter.Unicode.Property
