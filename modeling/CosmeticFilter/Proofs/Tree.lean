/-
The tree of a document.

Parents have smaller numbers than their children, so the nodes that parent links lead to
are a chain that comes to an end, and `contains` decides whether a node is on it.  Two
nodes that contain a third one are on one chain, so that one of them contains the other.

The table of children lists for every node those that name it as their parent.  The subtree
of a node is read off this table layer by layer; it holds just the nodes that the node
contains, in tree order, each of them followed at once by what lies inside of it.  So the page
of a document is an orderly one.
-/
import CosmeticFilter.Document.Page
import CosmeticFilter.Proofs.Pruning
import Mathlib.Logic.Relation

namespace CosmeticFilter.Document

variable (doc : Document)

/-! ### Parent links -/

/-- Parent links lead from the first node to the second. -/
abbrev Below : Nat → Nat → Prop :=
  Relation.ReflTransGen fun n p => doc.parentNode? n = some p

variable {doc}

theorem Below.le {n a : Nat} (h : doc.Below n a) : a ≤ n := by
  induction h with
  | refl => exact Nat.le_refl _
  | tail _ hparent ih => exact Nat.le_trans (Nat.le_of_lt (doc.parentNode?_lt hparent)) ih

theorem mem_climb_iff {steps n a : Nat} (hsteps : n ≤ steps) :
    a ∈ doc.climb steps n ↔ doc.Below n a := by
  induction steps generalizing n with
  | zero =>
    obtain rfl : n = 0 := Nat.le_zero.mp hsteps
    simp only [climb, List.mem_singleton]
    constructor
    · rintro rfl
      exact .refl
    · exact fun h => Nat.le_zero.mp h.le
  | succ steps ih =>
    unfold climb
    cases hparent : doc.parentNode? n with
    | none =>
      simp only [List.mem_singleton]
      constructor
      · rintro rfl
        exact .refl
      · intro h
        rcases h.cases_head with heq | ⟨p, hp, -⟩
        · exact heq.symm
        · simp [hparent] at hp
    | some p =>
      have hlt := doc.parentNode?_lt hparent
      simp only [List.mem_cons, ih (n := p) (by omega)]
      constructor
      · rintro (rfl | h)
        · exact .refl
        · exact .head hparent h
      · intro h
        rcases h.cases_head with heq | ⟨q, hq, hbelow⟩
        · exact .inl heq.symm
        · obtain rfl : p = q := Option.some.inj (hparent.symm.trans hq)
          exact .inr hbelow

theorem contains_iff {a n : Nat} : doc.contains a n = true ↔ doc.Below n a := by
  rw [contains, List.contains_iff_mem, mem_climb_iff (Nat.le_refl n)]

theorem isConnected_iff {n : Nat} : doc.isConnected n = true ↔ doc.Below n 0 :=
  contains_iff

@[simp] theorem contains_self (n : Nat) : doc.contains n n = true :=
  contains_iff.mpr .refl

theorem contains_trans {a b c : Nat} (hab : doc.contains a b = true)
    (hbc : doc.contains b c = true) : doc.contains a c = true :=
  contains_iff.mpr ((contains_iff.mp hbc).trans (contains_iff.mp hab))

theorem contains_le {a n : Nat} (h : doc.contains a n = true) : a ≤ n :=
  (contains_iff.mp h).le

/-- What contains a node is the node or contains its parent. -/
theorem contains_parent {a n p : Nat} (hparent : doc.parentNode? n = some p) :
    doc.contains a n = true ↔ a = n ∨ doc.contains a p = true := by
  simp only [contains_iff]
  constructor
  · intro h
    rcases h.cases_head with heq | ⟨q, hq, hbelow⟩
    · exact .inl heq.symm
    · obtain rfl : p = q := Option.some.inj (hparent.symm.trans hq)
      exact .inr hbelow
  · rintro (rfl | h)
    · exact .refl
    · exact .head hparent h

/-- The nodes that contain a node are one chain. -/
theorem contains_branch {a b n : Nat} (ha : doc.contains a n = true)
    (hb : doc.contains b n = true) : doc.contains a b = true ∨ doc.contains b a = true := by
  simp only [contains_iff] at ha hb ⊢
  refine (Relation.ReflTransGen.total_of_right_unique ?_ ha hb).symm
  intro n p q hp hq
  exact Option.some.inj (hp.symm.trans hq)

/-! ### Children -/

/-- The numbers of nodes that name `n` as their parent, in order. -/
def childrenOf (doc : Document) (n : Nat) : List Nat :=
  (List.range doc.size).filter fun m => doc.parentNode? m == some n

theorem lt_size_of_parentNode? {n p : Nat} (h : doc.parentNode? n = some p) : n < doc.size := by
  obtain ⟨node, hnode, -⟩ := Option.bind_eq_some_iff.mp h
  exact (Array.getElem?_eq_some_iff.mp hnode).1

theorem lt_size_of_isElement {n : Nat} (h : doc.isElement n = true) : n < doc.size := by
  refine Nat.lt_of_not_le fun hn => ?_
  simp [isElement, kind?, Array.getElem?_eq_none hn] at h

theorem mem_childrenOf {n m : Nat} : m ∈ doc.childrenOf n ↔ doc.parentNode? m = some n := by
  simp only [childrenOf, List.mem_filter, List.mem_range, beq_iff_eq]
  exact ⟨fun h => h.2, fun h => ⟨lt_size_of_parentNode? h, h⟩⟩

theorem pairwise_childrenOf (n : Nat) : (doc.childrenOf n).Pairwise (· < ·) :=
  List.pairwise_lt_range.filter _

/-- What a table lists after some nodes have been entered under their parents. -/
theorem getElem?_childTable (doc : Document) (nodes : List Nat) (n : Nat) (hn : n < doc.size) :
    (nodes.foldr
      (fun m (table : Array (List Nat)) =>
        match doc.parentNode? m with
        | some p => table.modify p (m :: ·)
        | none => table)
      (Array.replicate doc.size []))[n]? =
      some (nodes.filter fun m => doc.parentNode? m == some n) := by
  induction nodes with
  | nil => simp [hn]
  | cons m more ih =>
    rw [List.foldr_cons]
    cases hparent : doc.parentNode? m with
    | none => rw [List.filter_cons_of_neg (by simp [hparent]), ← ih]
    | some p =>
      simp only [Array.getElem?_modify, ih]
      by_cases hp : p = n
      · rw [if_pos hp, List.filter_cons_of_pos (by simp [hparent, hp])]
        rfl
      · rw [if_neg hp, List.filter_cons_of_neg (by simp [hparent, hp])]

theorem childNodes_eq (n : Nat) : doc.family.childNodes n = doc.childrenOf n := by
  unfold Family.childNodes family
  simp only
  rw [Array.getD_eq_getD_getElem?]
  by_cases hn : n < doc.size
  · have htable : doc.childTable[n]? = some (doc.childrenOf n) :=
      getElem?_childTable doc (List.range doc.size) n hn
    rw [htable, Option.getD_some]
  · have hsize : (doc.childTable).size = doc.size := by
      unfold childTable
      generalize List.range doc.size = nodes
      induction nodes with
      | nil => simp
      | cons m more ih =>
        rw [List.foldr_cons]
        split
        · rw [Array.size_modify, ih]
        · exact ih
    rw [Array.getElem?_eq_none (by omega), eq_comm, Option.getD_none,
      List.eq_nil_iff_forall_not_mem]
    intro m hm
    have hparent := mem_childrenOf.mp hm
    have := doc.parentNode?_lt hparent
    have := lt_size_of_parentNode? hparent
    omega

/-! ### Subtrees -/

theorem layersBelow_succ (layers n : Nat) :
    doc.family.layersBelow (layers + 1) n =
      n :: (doc.childrenOf n).flatMap (doc.family.layersBelow layers) := by
  rw [Family.layersBelow, childNodes_eq]

theorem contains_of_mem_layersBelow {layers n m : Nat}
    (h : m ∈ doc.family.layersBelow layers n) : doc.contains n m = true := by
  induction layers generalizing n with
  | zero =>
    rw [Family.layersBelow, List.mem_singleton] at h
    rw [h, contains_self]
  | succ layers ih =>
    rw [layersBelow_succ, List.mem_cons, List.mem_flatMap] at h
    rcases h with rfl | ⟨child, hchild, hm⟩
    · exact contains_self m
    · have hbelow := (contains_parent (mem_childrenOf.mp hchild)).mpr (.inr (contains_self n))
      exact contains_trans hbelow (ih hm)

/-- A node is found by the layer of its number. -/
theorem mem_layersBelow_of_contains {layers n m : Nat} (h : doc.contains n m = true)
    (hlayers : m ≤ n + layers) : m ∈ doc.family.layersBelow layers n := by
  induction layers generalizing n with
  | zero =>
    have := contains_le h
    rw [Family.layersBelow, List.mem_singleton]
    omega
  | succ layers ih =>
    rw [layersBelow_succ, List.mem_cons, List.mem_flatMap]
    rcases Relation.ReflTransGen.cases_tail (contains_iff.mp h) with heq | ⟨child, hbelow, hchild⟩
    · exact .inl heq.symm
    · have := doc.parentNode?_lt hchild
      exact .inr ⟨child, mem_childrenOf.mpr hchild, ih (contains_iff.mpr hbelow) (by omega)⟩

theorem mem_subtree_iff {n m : Nat} : m ∈ doc.family.subtree n ↔ doc.contains n m = true := by
  refine ⟨contains_of_mem_layersBelow, fun h => ?_⟩
  rcases Relation.ReflTransGen.cases_head (contains_iff.mp h) with rfl | ⟨p, hparent, -⟩
  · exact mem_layersBelow_of_contains h (Nat.le_add_right _ _)
  · have hlt := lt_size_of_parentNode? hparent
    exact mem_layersBelow_of_contains h (by simp only [family] at hlt ⊢; omega)

/-- The elements below a node are those that it contains, but for itself. -/
theorem mem_descendants_iff {scope n : Nat} :
    n ∈ doc.family.descendants scope ↔
      doc.isElement n = true ∧ doc.contains scope n = true ∧ n ≠ scope := by
  have htail : n ∈ (doc.family.subtree scope).tail ↔
      n ∈ doc.family.subtree scope ∧ n ≠ scope := by
    unfold Family.subtree
    cases doc.family.doc.size with
    | zero => simp [Family.layersBelow]
    | succ layers =>
      rw [layersBelow_succ, List.tail_cons, List.mem_cons]
      constructor
      · intro hmem
        refine ⟨.inr hmem, ?_⟩
        rintro rfl
        -- What lies below a child has a greater number than the node.
        obtain ⟨child, hchild, hbelow⟩ := List.mem_flatMap.mp hmem
        have hlt := doc.parentNode?_lt (mem_childrenOf.mp hchild)
        have hle := contains_le (contains_of_mem_layersBelow hbelow)
        omega
      · rintro ⟨rfl | hmem, hne⟩
        · exact absurd rfl hne
        · exact hmem
  unfold Family.descendants
  rw [List.mem_filter, htail, mem_subtree_iff, and_comm]
  rfl

/-- Different children of a node contain nothing in common. -/
theorem eq_of_contains_of_mem_childrenOf {n a b m : Nat} (ha : a ∈ doc.childrenOf n)
    (hb : b ∈ doc.childrenOf n) (hma : doc.contains a m = true) (hmb : doc.contains b m = true) :
    a = b := by
  have hle : ∀ {a b : Nat}, a ∈ doc.childrenOf n → b ∈ doc.childrenOf n →
      doc.contains a b = true → a = b := by
    intro a b ha hb hab
    have hlt := doc.parentNode?_lt (mem_childrenOf.mp ha)
    rcases (contains_parent (mem_childrenOf.mp hb)).mp hab with heq | habove
    · exact heq
    · have := contains_le habove
      omega
  rcases contains_branch hma hmb with h | h
  · exact hle ha hb h
  · exact (hle hb ha h).symm

/--
The first node comes before the second one in tree order: it has the second one inside of
it, or it lies in a child of some node, and the second one in a later child.
-/
def Before (doc : Document) (a b : Nat) : Prop :=
  (doc.contains a b = true ∧ a ≠ b) ∨
    ∃ n c d, doc.parentNode? c = some n ∧ doc.parentNode? d = some n ∧ c < d ∧
      doc.contains c a = true ∧ doc.contains d b = true

/-- No node comes before one that it lies inside of. -/
theorem Before.outside {a b : Nat} (h : doc.Before a b) : doc.contains b a = false := by
  rw [Bool.eq_false_iff]
  intro hinside
  rcases h with ⟨hab, hne⟩ | ⟨n, c, d, hc, hd, hlt, hca, hdb⟩
  · exact hne (Nat.le_antisymm (contains_le hab) (contains_le hinside))
  · have heq := eq_of_contains_of_mem_childrenOf (mem_childrenOf.mpr hc) (mem_childrenOf.mpr hd)
      hca (contains_trans hdb hinside)
    omega

theorem Before.ne {a b : Nat} (h : doc.Before a b) : a ≠ b := by
  rintro rfl
  simpa using h.outside

/-- A subtree is listed in tree order. -/
theorem pairwise_before (layers n : Nat) :
    (doc.family.layersBelow layers n).Pairwise doc.Before := by
  induction layers generalizing n with
  | zero => exact List.pairwise_singleton _ _
  | succ layers ih =>
    rw [layersBelow_succ, List.pairwise_cons, List.pairwise_flatMap]
    refine ⟨fun m hm => .inl ?_, fun child _ => ih child, ?_⟩
    · obtain ⟨child, hchild, hm⟩ := List.mem_flatMap.mp hm
      have hparent := mem_childrenOf.mp hchild
      have hinside := contains_of_mem_layersBelow hm
      have hlt := doc.parentNode?_lt hparent
      have hle := contains_le hinside
      exact ⟨contains_trans ((contains_parent hparent).mpr (.inr (contains_self n))) hinside,
        by omega⟩
    · refine (pairwise_childrenOf n).imp_of_mem fun {c d} hc hd hlt x hx y hy => .inr ?_
      exact ⟨n, c, d, mem_childrenOf.mp hc, mem_childrenOf.mp hd, hlt,
        contains_of_mem_layersBelow hx, contains_of_mem_layersBelow hy⟩

theorem inPieces_layersBelow (layers n : Nat) :
    InPieces doc.contains (doc.family.layersBelow layers n) := by
  induction layers generalizing n with
  | zero => exact ⟨List.Pairwise.nil, trivial⟩
  | succ layers ih =>
    rw [layersBelow_succ]
    have hbelow : ∀ m ∈ (doc.childrenOf n).flatMap (doc.family.layersBelow layers),
        doc.contains n m = true := by
      intro m hm
      have hmem : m ∈ doc.family.layersBelow (layers + 1) n := by
        rw [layersBelow_succ]
        exact List.mem_cons_of_mem _ hm
      exact contains_of_mem_layersBelow hmem
    refine ⟨List.pairwise_of_forall_mem_list fun b hb _ _ _ => hbelow b hb, ?_⟩
    have hchildren : ∀ children : List Nat, children.Pairwise (· < ·) →
        (∀ child ∈ children, child ∈ doc.childrenOf n) →
        InPieces doc.contains (children.flatMap (doc.family.layersBelow layers)) := by
      intro children hpairwise hsub
      induction children with
      | nil => trivial
      | cons child more ihmore =>
        obtain ⟨hless, hmore⟩ := List.pairwise_cons.mp hpairwise
        rw [List.flatMap_cons]
        refine inPieces_append (ih child)
          (ihmore hmore fun c hc => hsub c (List.mem_cons_of_mem _ hc)) ?_
        intro a ha b hb
        obtain ⟨other, hother, hb⟩ := List.mem_flatMap.mp hb
        rw [Bool.eq_false_iff]
        intro hab
        have heq := eq_of_contains_of_mem_childrenOf (hsub child List.mem_cons_self)
          (hsub other (List.mem_cons_of_mem _ hother))
          (contains_trans (contains_of_mem_layersBelow ha) hab) (contains_of_mem_layersBelow hb)
        have := hless other hother
        omega
    exact hchildren _ (pairwise_childrenOf n) fun _ h => h

/-! ### The page -/

/-- What a query finds lies in the subtree of its scope, in tree order. -/
theorem queryAll_sublist {scope : Nat} {selector : String} {nodes : List Nat}
    (h : doc.page.queryAll scope selector = .ok nodes) :
    nodes.Sublist (doc.family.subtree scope) := by
  simp only [page, Family.queryAll] at h
  split at h
  · rw [← Except.ok.inj h]
    exact (List.filter_sublist.trans List.filter_sublist).trans (List.tail_sublist _)
  · simp at h

theorem contains_of_mem_queryAll {scope n : Nat} {selector : String} {nodes : List Nat}
    (h : doc.page.queryAll scope selector = .ok nodes) (hn : n ∈ nodes) :
    doc.contains scope n = true :=
  mem_subtree_iff.mp ((queryAll_sublist h).mem hn)

/-- **The page of a document is orderly.** -/
theorem page_orderly (doc : Document) : doc.page.Orderly where
  trans := contains_trans
  branch ha hb := by
    rcases contains_branch ha hb with h | h
    · exact Bool.or_eq_true _ _ ▸ .inl h
    · exact Bool.or_eq_true _ _ ▸ .inr h
  pieces h := (inPieces_layersBelow _ _).sublist (queryAll_sublist h)

end CosmeticFilter.Document
