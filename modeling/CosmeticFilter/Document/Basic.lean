/-
Documents.

A document is a table of nodes that are numbered in the order of their creation; node
0 is the document node.  A node is created below an existing one and can later be
detached, so the number of a parent is always smaller than that of its children.
Nodes are never forgotten: a detached subtree keeps its numbers.
-/
import CosmeticFilter.Css.Sheet
import CosmeticFilter.Mutation
import CosmeticFilter.Text.Ascii

namespace CosmeticFilter

open CosmeticFilter.Text

/-- What a node is. -/
inductive NodeKind where
  | document
  /-- Tags and attribute names are kept in small letters. -/
  | element (tag : String) (attributes : List (String × String))
  | text (data : String)
  deriving DecidableEq, Repr

structure Node where
  parent : Option Nat
  kind : NodeKind
  deriving DecidableEq, Repr

/-- A style sheet; without rules when access to them is refused. -/
structure Sheet where
  href : Option String
  rules : Option (List Css.Rule)
  deriving DecidableEq, Repr

/-- The changes that somebody wants to be told of. -/
structure ObserveOptions where
  childList : Bool
  attributes : Bool
  characterData : Bool
  subtree : Bool
  /-- Records of attributes tell the value before the change. -/
  attributeOldValue : Bool
  deriving DecidableEq, Repr

/-- No node is its own parent, nor older than its parent. -/
def ParentsFirst (nodes : Array Node) : Prop :=
  ∀ n (h : n < nodes.size) p, nodes[n].parent = some p → p < n

structure Document where
  nodes : Array Node
  parentsFirst : ParentsFirst nodes
  url : String
  isLoading : Bool
  sheets : Array Sheet
  observed : Option ObserveOptions
  /-- Changes that have been recorded and not been taken yet, oldest first. -/
  records : List (Mutation Nat)

/-- Why a change is refused. -/
inductive DocumentError where
  | notElement (n : Nat)
  | notText (n : Nat)
  deriving DecidableEq, Repr

def DocumentError.message : DocumentError → String
  | notElement n => "node " ++ toString n ++ " is not an element"
  | notText n => "node " ++ toString n ++ " is not a text node"

/-! ### Changing one node keeps parents first -/

theorem ParentsFirst.push {nodes : Array Node} (h : ParentsFirst nodes) {node : Node}
    (hnode : ∀ p, node.parent = some p → p < nodes.size) : ParentsFirst (nodes.push node) := by
  intro n hn p hp
  rw [Array.getElem_push] at hp
  split at hp
  · exact h n _ p hp
  · rename_i hlast
    rw [Array.size_push] at hn
    have := hnode p hp
    omega

theorem ParentsFirst.modify {nodes : Array Node} (h : ParentsFirst nodes) (n : Nat)
    {f : Node → Node} (hf : ∀ node p, (f node).parent = some p → node.parent = some p) :
    ParentsFirst (nodes.modify n f) := by
  intro m hm p hp
  rw [Array.getElem_modify] at hp
  split at hp
  · exact h m (by simpa using hm) p (hf _ p hp)
  · exact h m (by simpa using hm) p hp

namespace Document

/-- A document that holds nothing but its document node. -/
def empty (url : String) : Document where
  nodes := #[⟨none, .document⟩]
  parentsFirst := by
    intro n hn p hp
    obtain rfl : n = 0 := by simpa using hn
    simp at hp
  url := url
  isLoading := false
  sheets := #[]
  observed := none
  records := []

variable (doc : Document)

/-! ### Looking at nodes -/

/-- The number that the next new node gets. -/
def size : Nat := doc.nodes.size

def kind? (n : Nat) : Option NodeKind :=
  doc.nodes[n]?.map Node.kind

def parentNode? (n : Nat) : Option Nat :=
  doc.nodes[n]?.bind Node.parent

def isElement (n : Nat) : Bool :=
  match doc.kind? n with
  | some (.element _ _) => true
  | _ => false

theorem parentNode?_lt {n p : Nat} (h : doc.parentNode? n = some p) : p < n := by
  obtain ⟨node, hnode, hp⟩ := Option.bind_eq_some_iff.mp h
  obtain ⟨hn, rfl⟩ := Array.getElem?_eq_some_iff.mp hnode
  exact doc.parentsFirst n hn p hp

/-- The nodes that a path of at most `steps` parent links leads to, the start among them. -/
def climb : Nat → Nat → List Nat
  | 0, n => [n]
  | steps + 1, n =>
    match doc.parentNode? n with
    | some p => n :: climb steps p
    | none => [n]

/-- The second node is the first one or below it. -/
def contains (a n : Nat) : Bool :=
  (doc.climb n n).contains a

/-- The node hangs from the document node. -/
def isConnected (n : Nat) : Bool :=
  doc.contains 0 n

/-! ### Changes -/

/-- Records a change if such changes are observed and the place of the change is connected. -/
def record (wanted : ObserveOptions → Bool) (place : Nat) (change : ObserveOptions → Mutation Nat) :
    Document :=
  match doc.observed with
  | some options =>
    if wanted options && doc.isConnected place then
      { doc with records := doc.records ++ [change options] }
    else doc
  | none => doc

/-- A new node below `parent`; below a number that the document lacks it stays detached. -/
def append (parent : Nat) (kind : NodeKind) : Document :=
  let node : Node := ⟨if parent < doc.size then some parent else none, kind⟩
  let grown := { doc with
    nodes := doc.nodes.push node
    parentsFirst := doc.parentsFirst.push (by
      intro p hp
      simp only [node] at hp
      split at hp
      · obtain rfl := Option.some.inj hp
        assumption
      · simp at hp) }
  grown.record (·.childList) parent fun _ => .childList parent [doc.size] []

def appendElement (parent : Nat) (tag : String) : Document :=
  doc.append parent (.element (lower tag) [])

def appendText (parent : Nat) (data : String) : Document :=
  doc.append parent (.text data)

/-- Another kind for a node. -/
def setKind (n : Nat) (kind : NodeKind) : Document :=
  { doc with
    nodes := doc.nodes.modify n fun node => { node with kind := kind }
    parentsFirst := doc.parentsFirst.modify n fun _ _ h => h }

/-- The value set for a name, in the place of the one before or at the end. -/
def setValue (name value : String) : List (String × String) → List (String × String)
  | [] => [(name, value)]
  | (other, old) :: rest =>
    if other = name then (name, value) :: rest else (other, old) :: setValue name value rest

def setAttribute (n : Nat) (name value : String) : Except DocumentError Document :=
  match doc.kind? n with
  | some (.element tag attributes) =>
    let name := lower name
    let changed := doc.setKind n (.element tag (setValue name value attributes))
    .ok <| changed.record (·.attributes) n fun options =>
      .attributes n name (if options.attributeOldValue then attributes.lookup name else none)
  | _ => .error (.notElement n)

def setText (n : Nat) (data : String) : Except DocumentError Document :=
  match doc.kind? n with
  | some (.text old) =>
    let changed := doc.setKind n (.text data)
    .ok <| changed.record (·.characterData) n fun _ => .characterData n (some old)
  | _ => .error (.notText n)

/-- Takes a node with all that is below it from its parent. -/
def remove (n : Nat) : Document :=
  let changed := { doc with
    nodes := doc.nodes.modify n fun node => { node with parent := none }
    parentsFirst := doc.parentsFirst.modify n fun _ _ h => by simp at h }
  match doc.parentNode? n with
  | some parent => changed.record (·.childList) parent fun _ => .childList parent [] [n]
  | none => changed

/-- A style sheet at the end, with the rules of a text. -/
def addSheet (href : Option String) (css : String) : Document :=
  { doc with sheets := doc.sheets.push ⟨href, some (Css.parse css)⟩ }

/-- A style sheet at the end that refuses access to its rules. -/
def addRefusingSheet (href : Option String) : Document :=
  { doc with sheets := doc.sheets.push ⟨href, none⟩ }

def observe (options : ObserveOptions) : Document :=
  { doc with observed := some options }

/-- The recorded changes, which are recorded no longer. -/
def takeRecords : List (Mutation Nat) × Document :=
  (doc.records, { doc with records := [] })

end Document

end CosmeticFilter
