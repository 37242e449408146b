/-
Wildcard expressions.

In wildcard syntax `*` stands for any text, `^` for a separator, `|` at either end for
that end of the subject and `||` at the start for the start of a domain; everything
else is literal.  `read` finds the anchors, `source` writes the regular expression of
what was read, and `simplify` takes out the wildcards that say nothing: repeated ones,
and those at an end that is not anchored.
-/
import CosmeticFilter.Regex

namespace CosmeticFilter

/-- How the start of the subject is anchored. -/
inductive StartAnchor where
  | text | domain
  deriving DecidableEq, Repr

/-- A wildcard expression with its anchors taken off. -/
structure Wildcard where
  start : Option StartAnchor
  body : List Char
  /-- The match has to reach the end of the subject. -/
  toEnd : Bool
  deriving DecidableEq, Repr

namespace Wildcard

/-- A final bar after a separator is dropped, for a separator stands for the end too. -/
def dropFinalBar (cs : List Char) : List Char :=
  match cs.reverse with
  | '|' :: '^' :: before => ('^' :: before).reverse
  | _ => cs

/-- Takes off the anchor at the start. -/
def readStart : List Char → Option StartAnchor × List Char
  | '|' :: '|' :: rest => (some .domain, rest)
  | '|' :: rest => (some .text, rest)
  | cs => (none, cs)

/-- Takes off the anchor at the end. -/
def readEnd (cs : List Char) : List Char × Bool :=
  match cs.reverse with
  | '|' :: before => (before.reverse, true)
  | _ => (cs, false)

/-- Reads wildcard syntax. -/
def read (cs : List Char) : Wildcard :=
  let (start, rest) := readStart (dropFinalBar cs)
  let (body, toEnd) := readEnd rest
  ⟨start, body, toEnd⟩

/-- Of several stars in a row only one is kept. -/
def collapse : List Char → List Char
  | '*' :: '*' :: rest => collapse ('*' :: rest)
  | c :: rest => c :: collapse rest
  | [] => []

/-- The body without stars at its start. -/
def dropStars (cs : List Char) : List Char :=
  cs.dropWhile (· == '*')

/-- Takes out the stars that change nothing. -/
def simplify (w : Wildcard) : Wildcard :=
  let body := collapse w.body
  let body := if w.start.isNone then dropStars body else body
  let body := if w.toEnd then body else (dropStars body.reverse).reverse
  { w with body := body }

/-- Any ASCII character but letters, digits and `_%.-`, or the end of the subject. -/
def separatorSource : String :=
  "(?:[\\x00-\\x24\\x26-\\x2C\\x2F\\x3A-\\x40\\x5B-\\x5E\\x60\\x7B-\\x7F]|$)"

/-- A scheme and an optional run of subdomains. -/
def domainSource : String :=
  "^[\\w\\-]+:/+(?:[^/]+\\.)?"

/-- The expression of one character of the body. -/
def charSource : Char → List Char
  | '*' => ['.', '*']
  | '^' => separatorSource.toList
  | c => Regex.escapeChar c

def startSource : Option StartAnchor → List Char
  | some .domain => domainSource.toList
  | some .text => ['^']
  | none => []

/-- The regular expression of a wildcard expression. -/
def source (w : Wildcard) : List Char :=
  startSource w.start ++ w.body.flatMap charSource ++ (if w.toEnd then ['$'] else [])

end Wildcard

/-- The regular expression of a text in wildcard syntax. -/
def wildcardSource (text : String) : String :=
  String.ofList (Wildcard.read text.toList).simplify.source

end CosmeticFilter
