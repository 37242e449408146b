/-
The page of a document.

A query trims its selector and refuses what the selector reader does not support.  A
selector that starts with `>` is relative to the scope of the query.
-/
import CosmeticFilter.Document.Tree
import CosmeticFilter.Page

namespace CosmeticFilter.Document

open CosmeticFilter.Text

namespace Family

variable (family : Family)

/-- The selector list of a query. -/
def queryList (selector : String) : SelectorList :=
  if selector.toList.head? = some '>' then SelectorList.parse (":scope " ++ selector)
  else SelectorList.parse selector

/-- The elements below a node that a selector matches, in tree order. -/
def queryAll (scope : Nat) (selector : String) : Except QueryError (List Nat) :=
  let selector := trimmed selector
  let list := queryList selector
  if list.isSupported then .ok (family.tree.query scope (scope != 0) list)
  else .error (.unsupported selector)

end Family

/-- What filtering may ask of the document. -/
def page (doc : Document) : Page Nat Nat :=
  let family := doc.family
  { document := 0
    queryAll := family.queryAll
    parent? := family.parentElement?
    depth := id
    depth_parent := family.parentElement?_lt
    children := family.childElements
    tag := family.tag
    textContent := family.textContent
    contains := doc.contains
    isConnected := doc.isConnected
    location := doc.url
    isLoading := doc.isLoading
    sheets := List.range doc.sheets.size
    href? := fun sheet => doc.sheets[sheet]?.bind Sheet.href
    rules? := fun sheet => doc.sheets[sheet]?.bind Sheet.rules }

end CosmeticFilter.Document
