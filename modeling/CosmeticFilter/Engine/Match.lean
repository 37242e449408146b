/-
Matches.

A match is a pattern that matches an element, with the anchors that the match was
derived from.  A table lists elements with their matches, in the order in which the
elements were first entered.
-/
import CosmeticFilter.Pattern

namespace CosmeticFilter

variable {N : Type} [DecidableEq N]

/-- A pattern that matches an element, and the candidates that the match was derived from. -/
structure Match (N : Type) where
  pattern : Pattern
  anchors : List N

/-- The nodes of the second list behind those of the first one, each once. -/
def addNew (nodes more : List N) : List N :=
  more.foldl (fun seen n => if seen.contains n then seen else seen ++ [n]) nodes

namespace Match

/-- The same match with more anchors. -/
def addAnchors (m : Match N) (anchors : List N) : Match N :=
  { m with anchors := addNew m.anchors anchors }

/-- The match of a pattern in a list. -/
def find? (list : List (Match N)) (pattern : Pattern) : Option (Match N) :=
  list.find? fun m => m.pattern.same pattern

/-- A list in which the pattern matches with these anchors too. -/
def enter (pattern : Pattern) (anchors : List N) : List (Match N) → List (Match N)
  | [] => [⟨pattern, anchors⟩]
  | m :: rest =>
    if m.pattern.same pattern then m.addAnchors anchors :: rest
    else m :: enter pattern anchors rest

/-- The list with those matches behind it whose patterns do not occur in it. -/
def addPatterns (list more : List (Match N)) : List (Match N) :=
  more.foldl
    (fun known m => if (find? known m.pattern).isSome then known else known ++ [m]) list

end Match

/-- Elements with their matches, in order of entry. -/
abbrev MatchTable (N : Type) := List (N × List (Match N))

namespace MatchTable

/-- The matches of an element, if it is in the table. -/
def matches? (table : MatchTable N) (n : N) : Option (List (Match N)) :=
  table.lookup n

/-- The elements of the table. -/
def nodes (table : MatchTable N) : List N :=
  table.map (·.1)

/-- Changes the matches of one element; a new element starts with none. -/
def update (n : N) (f : List (Match N) → List (Match N)) : MatchTable N → MatchTable N
  | [] => [(n, f [])]
  | (m, list) :: rest => if m = n then (m, f list) :: rest else (m, list) :: update n f rest

/-- Elements and the text of the first pattern that matches each of them. -/
def firstTexts (table : MatchTable N) : List (N × String) :=
  table.filterMap fun (n, list) => list.head?.map fun m => (n, m.pattern.text)

end MatchTable

end CosmeticFilter
