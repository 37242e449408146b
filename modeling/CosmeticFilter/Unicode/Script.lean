/-
All scripts, in the order of their names.
-/
import CosmeticFilter.Unicode.Script.AtoG
import CosmeticFilter.Unicode.Script.HtoL
import CosmeticFilter.Unicode.Script.MtoO
import CosmeticFilter.Unicode.Script.PtoZ

namespace CosmeticFilter.Unicode.Script

/-- Every script that has code points of its own. -/
def all : List Script :=
  allAtoG ++ allHtoL ++ allMtoO ++ allPtoZ

/-- The code points that several scripts share. -/
def allShared : CodeSet :=
  .unions (all.map (·.shared))

/--
The code points that are used with the script.  With the common and the inherited script
those are used that no other scripts share.
-/
def users (script : Script) : CodeSet :=
  if script.names == common.names || script.names == inherited.names then
    script.set.diff allShared
  else script.set.union script.shared

end CosmeticFilter.Unicode.Script
