/-
The matcher finds every row of elements, and a query finds every match.

Told without any search, a selector asks for a row of elements, one for each compound: each
element meets its compound, and each two neighbours of the row are related as the combinator
between their compounds asks.  An ancestor is where one or more parent links lead to, a sibling
before an element is where one or more links to previous siblings lead to.  The matcher goes
back through all candidates on the left, so it misses no such row, in whatever tree links come
to an end.

A query answers in tree order with the elements below its start that the matcher accepts, so
that it finds all ends of such rows, and nothing else.
-/
import CosmeticFilter.Proofs.Spans
import CosmeticFilter.Proofs.Tree

namespace CosmeticFilter

/-! ### Links -/

/-- The nodes that links lead to, as long as the rank falls along them. -/
theorem mem_follow_iff {N : Type} {link : N → Option N} {rank : N → Nat}
    (hrank : ∀ {n p}, link n = some p → rank p < rank n) {steps : Nat} {n m : N}
    (hsteps : rank n ≤ steps) :
    m ∈ follow link steps n ↔ Relation.TransGen (fun a b => link a = some b) n m := by
  induction steps generalizing n with
  | zero =>
    simp only [follow, List.not_mem_nil, false_iff]
    intro hlinked
    obtain ⟨p, hp, -⟩ := Relation.TransGen.head'_iff.mp hlinked
    have := hrank hp
    omega
  | succ steps ih =>
    rw [Relation.TransGen.head'_iff]
    cases hlink : link n with
    | none => simp [follow, hlink]
    | some p =>
      have := hrank hlink
      simp only [follow, hlink, List.mem_cons, ih (n := p) (by omega), Option.some.injEq,
        exists_eq_left', Relation.reflTransGen_iff_eq_or_transGen]

namespace Combinator

variable {N : Type}

/-- The first element stands to the second one as the combinator asks. -/
def Relates (tree : ElementTree N) (left right : N) : Combinator → Prop
  | .descendant => Relation.TransGen (fun n p => tree.parent? n = some p) right left
  | .child => tree.parent? right = some left
  | .adjacent => tree.previous? right = some left
  | .sibling => Relation.TransGen (fun n p => tree.previous? n = some p) right left

/-- The matcher tries the elements that the combinator allows, and no others. -/
theorem mem_leftOf_iff {tree : ElementTree N} {left right : N} (comb : Combinator) :
    left ∈ comb.leftOf tree right ↔ comb.Relates tree left right := by
  cases comb with
  | descendant => exact mem_follow_iff tree.depth_parent (Nat.le_refl _)
  | child => exact Option.mem_toList
  | adjacent => exact Option.mem_toList
  | sibling => exact mem_follow_iff tree.place_previous (Nat.le_refl _)

end Combinator

/-! ### Rows of elements -/

namespace Complex

variable {N : Type} [DecidableEq N] {tree : ElementTree N} {scope : Option N}

/-- A row of elements, from left to right, is what the selector asks for. -/
structure IsRow (tree : ElementTree N) (scope : Option N) (sel : Complex) (row : List N) :
    Prop where
  /-- There is an element for each compound, which meets it. -/
  meets : List.Forall₂ (fun n compound => Compound.matches tree scope n compound = true)
    row sel.compounds
  /-- Neighbours are related by the combinator between their compounds. -/
  related : List.Forall₂ (fun pair comb => Combinator.Relates tree pair.1 pair.2 comb)
    (row.zip row.tail) (sel.rest.map (·.1))

theorem isRow_nil {first : Compound} {row : List N} :
    IsRow tree scope ⟨first, []⟩ row ↔
      ∃ m, row = [m] ∧ Compound.matches tree scope m first = true := by
  constructor
  · rintro ⟨hmeets, -⟩
    obtain ⟨m, rest, hm, hrest, rfl⟩ := List.forall₂_cons_right_iff.mp hmeets
    rw [List.map_nil, List.forall₂_nil_right_iff] at hrest
    exact ⟨m, by rw [hrest], hm⟩
  · rintro ⟨m, rfl, hm⟩
    exact ⟨.cons hm .nil, .nil⟩

/-- With a compound in front the row has one more element in front. -/
theorem isRow_cons {first next : Compound} {comb : Combinator}
    {more : List (Combinator × Compound)} {row : List N} :
    IsRow tree scope ⟨first, (comb, next) :: more⟩ row ↔
      ∃ m right rest, row = m :: right :: rest ∧ Compound.matches tree scope m first = true ∧
        comb.Relates tree m right ∧ IsRow tree scope ⟨next, more⟩ (right :: rest) := by
  constructor
  · rintro ⟨hmeets, hrelated⟩
    obtain ⟨m, behind, hm, hbehind, rfl⟩ := List.forall₂_cons_right_iff.mp hmeets
    obtain ⟨right, rest, hright, hrest, rfl⟩ := List.forall₂_cons_right_iff.mp hbehind
    obtain ⟨hpair, hpairs⟩ := List.forall₂_cons.mp hrelated
    exact ⟨m, right, rest, rfl, hm, hpair, .cons hright hrest, hpairs⟩
  · rintro ⟨m, right, rest, rfl, hm, hpair, hrow⟩
    exact ⟨.cons hm hrow.meets, .cons hpair hrow.related⟩

/-- The search from left to right passes along a row. -/
theorem exists_spans_iff_exists_row {first : Compound} {rest : List (Combinator × Compound)}
    {m n : N} :
    Spans tree scope first rest m n ↔
      ∃ row, IsRow tree scope ⟨first, rest⟩ row ∧ row.head? = some m ∧ row.getLast? = some n := by
  induction rest generalizing first m with
  | nil =>
    simp only [Spans, isRow_nil]
    constructor
    · rintro ⟨hm, rfl⟩
      exact ⟨[m], ⟨m, rfl, hm⟩, rfl, rfl⟩
    · rintro ⟨row, ⟨o, rfl, ho⟩, hhead, hlast⟩
      obtain rfl : o = m := Option.some.inj hhead
      exact ⟨ho, Option.some.inj hlast⟩
  | cons pair more ih =>
    obtain ⟨comb, next⟩ := pair
    simp only [Spans, isRow_cons, ih, Combinator.mem_leftOf_iff]
    constructor
    · rintro ⟨hm, right, hrelates, row, hrow, hhead, hlast⟩
      obtain ⟨rest, rfl⟩ := List.head?_eq_some_iff.mp hhead
      exact ⟨m :: right :: rest, ⟨m, right, rest, rfl, hm, hrelates, hrow⟩, rfl, hlast⟩
    · rintro ⟨row, ⟨o, right, rest, rfl, ho, hrelates, hrow⟩, hhead, hlast⟩
      obtain rfl : o = m := Option.some.inj hhead
      exact ⟨ho, right, hrelates, right :: rest, hrow, rfl, hlast⟩

/-- **The matcher is right**: it accepts the elements in which a row ends. -/
theorem matches_iff_exists_row (sel : Complex) (n : N) :
    sel.matches tree scope n = true ↔
      ∃ row, IsRow tree scope sel row ∧ row.getLast? = some n := by
  simp only [matches_iff_spans, exists_spans_iff_exists_row]
  constructor
  · rintro ⟨m, row, hrow, -, hlast⟩
    exact ⟨row, hrow, hlast⟩
  · rintro ⟨row, hrow, hlast⟩
    obtain ⟨m, hm⟩ : ∃ m, row.head? = some m := by
      obtain ⟨m, rest, -, -, rfl⟩ := List.forall₂_cons_right_iff.mp hrow.meets
      exact ⟨m, rfl⟩
    exact ⟨m, row, hrow, hm, hlast⟩

end Complex

/-! ### Queries -/

namespace Document

variable {doc : Document}

/-- The elements that a query finds are listed in tree order. -/
theorem pairwise_query (doc : Document) (start : Nat) (startIsElement : Bool)
    (list : SelectorList) :
    (doc.family.tree.query start startIsElement list).Pairwise doc.Before :=
  (((pairwise_before doc.size start).sublist (List.tail_sublist _)).filter _).filter _

theorem mem_query_iff {start : Nat} {startIsElement : Bool} {list : SelectorList} {n : Nat} :
    n ∈ doc.family.tree.query start startIsElement list ↔
      (doc.isElement n = true ∧ doc.contains start n = true ∧ n ≠ start) ∧
        ∃ sel ∈ list, ∃ row, Complex.IsRow doc.family.tree
          (if startIsElement then some start else none) sel row ∧ row.getLast? = some n := by
  rw [ElementTree.query, List.mem_filter, SelectorList.matches, List.any_eq_true]
  simp only [Complex.matches_iff_exists_row]
  exact and_congr_left' mem_descendants_iff

end Document

/--
**Matching and queries are complete and sound.**  In each tree of elements an element matches a
selector if and only if a row of elements that the selector asks for ends in it.  In each
document a query for a list answers, in tree order and each of them once, with just those
elements below its start in which a row for a member of the list ends.
-/
theorem matching_exact :
    (∀ {N : Type} [DecidableEq N] (tree : ElementTree N) (scope : Option N) (sel : Complex) (n : N),
      sel.matches tree scope n = true ↔
        ∃ row, Complex.IsRow tree scope sel row ∧ row.getLast? = some n) ∧
    ∀ (doc : Document) (start : Nat) (startIsElement : Bool) (list : SelectorList),
      let scope := if startIsElement then some start else none
      let found := doc.family.tree.query start startIsElement list
      found.Pairwise doc.Before ∧ found.Nodup ∧
        ∀ n, n ∈ found ↔
          (doc.isElement n = true ∧ doc.contains start n = true ∧ n ≠ start) ∧
            ∃ sel ∈ list, ∃ row,
              Complex.IsRow doc.family.tree scope sel row ∧ row.getLast? = some n := by
  refine ⟨fun tree scope sel n => sel.matches_iff_exists_row n,
    fun doc start startIsElement list => ?_⟩
  have horder := doc.pairwise_query start startIsElement list
  exact ⟨horder, horder.imp Document.Before.ne, fun n => Document.mem_query_iff⟩

end CosmeticFilter
