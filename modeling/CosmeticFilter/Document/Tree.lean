/-
The tree of a document.

The children of a node are the nodes that name it as their parent, in the order of
their numbers, for a node is only ever added at the end.  They are collected into a
table once for all questions about one state of the document.
-/
import CosmeticFilter.Document.Basic
import CosmeticFilter.Selector.Match

namespace CosmeticFilter.Document

open CosmeticFilter.Text

variable (doc : Document)

/-- The children of every node. -/
def childTable : Array (List Nat) :=
  (List.range doc.size).foldr
    (fun n table =>
      match doc.parentNode? n with
      | some p => table.modify p (n :: ·)
      | none => table)
    (Array.replicate doc.size [])

/-- A document with the children of its nodes. -/
structure Family where
  doc : Document
  children : Array (List Nat)

/-- The document with its table of children. -/
def family : Family :=
  ⟨doc, doc.childTable⟩

namespace Family

variable (family : Family)

def childNodes (n : Nat) : List Nat :=
  family.children.getD n []

def childElements (n : Nat) : List Nat :=
  (family.childNodes n).filter family.doc.isElement

/-- A node and all below it in tree order, down to `layers` links. -/
def layersBelow : Nat → Nat → List Nat
  | 0, n => [n]
  | layers + 1, n => n :: (family.childNodes n).flatMap (layersBelow layers)

/-- A node and all below it in tree order.  No path is longer than the table. -/
def subtree (n : Nat) : List Nat :=
  family.layersBelow family.doc.size n

/-- The elements below a node in tree order. -/
def descendants (n : Nat) : List Nat :=
  (family.subtree n).tail.filter family.doc.isElement

/-- The parent, if it is an element. -/
def parentElement? (n : Nat) : Option Nat :=
  (family.doc.parentNode? n).filter family.doc.isElement

/-- The children of the node's parent, the node among them. -/
def siblings (n : Nat) : List Nat :=
  match family.doc.parentNode? n with
  | some p => family.childNodes p
  | none => []

/-- The nearest element before a node that has the same parent. -/
def previousElement? (n : Nat) : Option Nat :=
  ((family.siblings n).filter fun m => m < n && family.doc.isElement m).getLast?

def tag (n : Nat) : String :=
  match family.doc.kind? n with
  | some (.element tag _) => tag
  | _ => ""

def attributes (n : Nat) : List (String × String) :=
  match family.doc.kind? n with
  | some (.element _ attributes) => attributes
  | _ => []

/-- The value of the first attribute of this name, in any case. -/
def attribute? (n : Nat) (name : String) : Option String :=
  ((family.attributes n).find? fun (other, _) => sameName other name).map (·.2)

/-- The class attribute lists the class. -/
def hasClass (n : Nat) (name : String) : Bool :=
  match family.attribute? n "class" with
  | some classes => (words classes.toList).contains name.toList
  | none => false

/-- The one-based position among the elements below the same parent; zero without a parent. -/
def position (n : Nat) : Nat :=
  match ((family.siblings n).filter family.doc.isElement).idxOf? n with
  | some i => i + 1
  | none => 0

/-- The element hangs directly from the document node. -/
def isRoot (n : Nat) : Bool :=
  family.doc.parentNode? n == some 0

/-- The text of the text nodes of a subtree, joined. -/
def textContent (n : Nat) : String :=
  String.join <| (family.subtree n).map fun m =>
    match family.doc.kind? m with
    | some (.text data) => data
    | _ => ""

/-- The first element of the document, in tree order, with this id. -/
def elementById? (id : String) : Option Nat :=
  (family.subtree 0).find? fun n => family.doc.isElement n && family.attribute? n "id" == some id

theorem parentElement?_lt {n p : Nat} (h : family.parentElement? n = some p) : p < n :=
  family.doc.parentNode?_lt (Option.filter_eq_some_iff.mp h).1

theorem previousElement?_lt {n p : Nat} (h : family.previousElement? n = some p) : p < n := by
  have hmem := List.mem_of_getLast? h
  simp only [List.mem_filter, Bool.and_eq_true, decide_eq_true_eq] at hmem
  exact hmem.2.1

/-- The document as a tree of elements.  Parents and previous siblings have smaller numbers. -/
def tree : ElementTree Nat where
  parent? := family.parentElement?
  previous? := family.previousElement?
  depth := id
  place := id
  depth_parent := family.parentElement?_lt
  place_previous := family.previousElement?_lt
  tag := family.tag
  id? n := family.attribute? n "id"
  hasClass := family.hasClass
  attribute? := family.attribute?
  position := family.position
  descendants := family.descendants
  isRoot := family.isRoot

end Family

end CosmeticFilter.Document
