/-
Changes of documents as data.

A document that is being filtered goes through any sequence of changes.  A change that
the document refuses leaves it as it was.
-/
import CosmeticFilter.Document.Basic

namespace CosmeticFilter

/-- A change of a document. -/
inductive Change where
  | appendElement (parent : Nat) (tag : String)
  | appendText (parent : Nat) (data : String)
  | setAttribute (n : Nat) (name value : String)
  | setText (n : Nat) (data : String)
  | remove (n : Nat)
  deriving DecidableEq, Repr

namespace Document

/-- The document after a change. -/
def change (doc : Document) : Change → Document
  | .appendElement parent tag => doc.appendElement parent tag
  | .appendText parent data => doc.appendText parent data
  | .setAttribute n name value => ((doc.setAttribute n name value).toOption).getD doc
  | .setText n data => ((doc.setText n data).toOption).getD doc
  | .remove n => doc.remove n

/-- The document after a sequence of changes. -/
def changeAll (doc : Document) (changes : List Change) : Document :=
  changes.foldl change doc

end Document

end CosmeticFilter
