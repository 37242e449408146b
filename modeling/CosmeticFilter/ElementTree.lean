/-
What matching may ask about elements.

An element tree answers questions about elements of some type: parents, previous
siblings, names and attributes.  The two rank functions say that parent and sibling
links come to an end, so that the ancestors of an element and the siblings before
it are lists.
-/

namespace CosmeticFilter

/-- A view of elements, enough to match selectors against them. -/
structure ElementTree (N : Type) where
  /-- The parent, if it is an element. -/
  parent? : N → Option N
  /-- The nearest sibling element before this one. -/
  previous? : N → Option N
  /-- Falls along parent links. -/
  depth : N → Nat
  /-- Falls along sibling links. -/
  place : N → Nat
  depth_parent : ∀ {n p}, parent? n = some p → depth p < depth n
  place_previous : ∀ {n p}, previous? n = some p → place p < place n
  /-- The tag, compared without regard to case. -/
  tag : N → String
  id? : N → Option String
  hasClass : N → String → Bool
  attribute? : N → String → Option String
  /-- The one-based position among the element children of the parent, zero without one. -/
  position : N → Nat
  /-- The elements below a node, in tree order. -/
  descendants : N → List N
  /-- The element that `:root` means. -/
  isRoot : N → Bool

/-- The nodes that `steps` many links lead to, nearest first. -/
def follow {N : Type} (link : N → Option N) : Nat → N → List N
  | 0, _ => []
  | steps + 1, n =>
    match link n with
    | some p => p :: follow link steps p
    | none => []

/-- Steps beyond the rank of the start find nothing more. -/
theorem follow_congr {N : Type} {link : N → Option N} {rank : N → Nat}
    (hrank : ∀ {n p}, link n = some p → rank p < rank n) :
    ∀ {s t : Nat} {n : N}, rank n ≤ s → rank n ≤ t → follow link s n = follow link t n := by
  have hstop : ∀ {n : N}, rank n = 0 → link n = none := fun {n} h => by
    cases hn : link n with
    | none => rfl
    | some p => have := hrank hn; omega
  intro s
  induction s with
  | zero =>
    intro t n hs _
    have hn := hstop (Nat.le_zero.mp hs)
    cases t <;> simp [follow, hn]
  | succ s ih =>
    intro t n hs ht
    cases t with
    | zero => simp [follow, hstop (Nat.le_zero.mp ht)]
    | succ t =>
      cases hn : link n with
      | none => simp [follow, hn]
      | some p =>
        have hp := hrank hn
        simp only [follow, hn]
        rw [ih (t := t) (n := p) (by omega) (by omega)]

namespace ElementTree

variable {N : Type} (tree : ElementTree N)

/-- The ancestors of an element, nearest first. -/
def ancestors (n : N) : List N :=
  follow tree.parent? (tree.depth n) n

/-- The sibling elements before an element, nearest first. -/
def preceding (n : N) : List N :=
  follow tree.previous? (tree.place n) n

theorem ancestors_eq (n : N) :
    tree.ancestors n = match tree.parent? n with
      | none => []
      | some p => p :: tree.ancestors p := by
  unfold ancestors
  rw [follow_congr tree.depth_parent (Nat.le_refl _) (Nat.le_succ _)]
  cases hn : tree.parent? n with
  | none => simp [follow, hn]
  | some p =>
    simp only [follow, hn]
    rw [follow_congr tree.depth_parent (Nat.le_of_lt (tree.depth_parent hn)) (Nat.le_refl _)]

theorem preceding_eq (n : N) :
    tree.preceding n = match tree.previous? n with
      | none => []
      | some p => p :: tree.preceding p := by
  unfold preceding
  rw [follow_congr tree.place_previous (Nat.le_refl _) (Nat.le_succ _)]
  cases hn : tree.previous? n with
  | none => simp [follow, hn]
  | some p =>
    simp only [follow, hn]
    rw [follow_congr tree.place_previous (Nat.le_of_lt (tree.place_previous hn)) (Nat.le_refl _)]

/-- The same tree, with `:root` meaning every element that has no parent element. -/
def rootedByParent : ElementTree N :=
  { tree with isRoot := fun n => (tree.parent? n).isNone }

end ElementTree

end CosmeticFilter
