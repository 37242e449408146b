/-
What the engine does to the outside.

Every call of the engine answers with its effects in order: decisions about elements,
wishes to the document, and notes for whoever wants to follow what happens.
-/
import CosmeticFilter.Chain.Parser
import CosmeticFilter.Document.Basic
import CosmeticFilter.StyleIndex
import CosmeticFilter.Time.Span

namespace CosmeticFilter

/-- How important a note is. -/
inductive Level where
  | error | warn | debug | trace
  deriving DecidableEq, Repr

def Level.name : Level → String
  | error => "ERROR"
  | warn => "WARN"
  | debug => "DEBUG"
  | trace => "TRACE"

/-- Something worth noting. -/
inductive Note where
  | rejectedExpression (source : String)
  | rejectedSelector (error : ParseError)
  | registered (kept given : Nat)
  | deferred (delay : Span)
  | awaitingDocument
  | skippedSheet (sheet : SkippedSheet)
  | starting (full : Bool) (candidates styles : Nat)
  | queryFailed (selector : String) (error : QueryError)
  | suspending (elements : Nat)
  | finished (hidden unhidden : Nat)
  | sleeping (delay : Span)
  | droppedSelectors (count : Nat)
  | strayTimer
  | strayDocumentReady
  | strayResume

namespace Note

def level : Note → Level
  | rejectedExpression _ | rejectedSelector _ => .error
  | queryFailed .. | droppedSelectors _ | strayTimer | strayDocumentReady | strayResume => .warn
  | suspending _ | sleeping _ => .trace
  | _ => .debug

/-- The words of a note; lengths of time are left out. -/
def text : Note → String
  | rejectedExpression _ => "Invalid regular expression"
  | rejectedSelector e => e.message
  | registered kept given =>
    "Registered " ++ toString kept ++ " of " ++ toString given ++ " patterns"
  | deferred _ => "Deferring run by"
  | awaitingDocument => "Deferring run until the document has loaded"
  | skippedSheet sheet => sheet.message
  | starting full candidates styles =>
    "Starting " ++ (if full then "full" else "partial") ++ " run: " ++ toString candidates ++
      " candidate patterns, " ++ toString styles ++ " style rules"
  | queryFailed selector e => "Query " ++ Text.quoted selector ++ " failed: " ++ e.message
  | suspending elements => "Suspending run after " ++ toString elements ++ " matches"
  | finished hidden unhidden =>
    "Run finished: " ++ toString hidden ++ " hidden, " ++ toString unhidden ++ " unhidden"
  | sleeping _ => "Sleeping"
  | droppedSelectors count =>
    "Dropping " ++ toString count ++ " selectors, host does not hide by selector"
  | strayTimer => "Ignoring timer wake-up outside of debouncing"
  | strayDocumentReady => "Ignoring document-ready wake-up while not waiting for it"
  | strayResume => "Ignoring resume wake-up without an active run"

end Note

/-- One thing that the engine does to the outside. -/
inductive Effect (N : Type) where
  /-- Elements to be hidden, each with the text of the filter responsible for it. -/
  | hide (nodes : List N) (texts : List String)
  /-- Elements to be shown again. -/
  | unhide (nodes : List N)
  /-- Selectors to be hidden by a style rule, each with the text of its filter. -/
  | addSelectors (selectors texts : List String)
  /-- The changes that the document should report from now on. -/
  | observe (options : ObserveOptions)
  | note (note : Note)

/-- The effect on a host that hides elements only: selectors are dropped with a note. -/
def Effect.withoutSelectors {N : Type} : Effect N → Effect N
  | addSelectors selectors _ => note (.droppedSelectors selectors.length)
  | other => other

end CosmeticFilter
