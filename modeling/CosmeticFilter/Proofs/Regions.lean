/-
Where no record reaches, nothing has changed.

The region of a node is what contains it and what it contains.  If no record that matters to
some dependencies touches this region, then the document before the changes and the one after are
alike there: the nodes above stand where they stood, for new siblings come at the end, and
below the node there is the same subtree.  So selectors match the same, and searches that
start inside of the region find the same.
-/
import CosmeticFilter.Classification
import CosmeticFilter.Proofs.Likeness
import CosmeticFilter.Proofs.Paths
import CosmeticFilter.Proofs.Recording

namespace CosmeticFilter

open CosmeticFilter.Text

/-- A change of this kind matters to the dependencies. -/
def Dependencies.heeds (deps : Dependencies) : MutationKind → Bool
  | .attributes => deps.attributes
  | .characterData => deps.text
  | .childList => true

theorem Pattern.heeds_dependencies (pattern : Pattern) (kind : MutationKind) :
    pattern.dependencies.heeds kind = pattern.affectedBy kind := by
  cases kind <;> rfl

namespace Document

/-- The changes from `a` to `b` that matter are out of the region of the node. -/
structure Spared (options : ObserveOptions) (deps : Dependencies) (a b : Document) (r : Nat) :
    Prop where
  documented : Documented options a b
  filled : 0 < a.size
  tags : a.Tagged
  connected : b.isConnected r = true
  quiet : ∀ kind, deps.heeds kind = true → ∀ n, b.Told kind n → b.page.related r n = false
  attributes : deps.attributes = true → options.attributes = true
  text : deps.text = true → options.characterData = true
  /-- If siblings matter, the whole document is meant. -/
  siblings : deps.siblings = true → r = 0

namespace Spared

variable {options : ObserveOptions} {deps : Dependencies} {a b : Document} {r : Nat}

/-! ### The nodes of the region -/

section Nodes

variable (h : Spared options deps a b r)

theorem related_iff {n : Nat} :
    b.page.related r n = true ↔ b.contains r n = true ∨ b.contains n r = true := by
  rw [Page.related, Bool.or_eq_true]
  rfl

theorem related_of_contains {n : Nat} (hn : b.contains r n = true) : b.page.related r n = true :=
  related_iff.mpr (.inl hn)

include h

theorem isConnected {n : Nat} (hn : b.page.related r n = true) : b.isConnected n = true := by
  rcases related_iff.mp hn with hn | hn
  · exact contains_trans h.connected hn
  · exact connected_of_contains h.connected hn

/-- There is no new node in the region. -/
theorem old {n : Nat} (hn : b.page.related r n = true) : n < a.size := by
  rcases Relation.ReflTransGen.cases_head (isConnected_iff.mp (h.isConnected hn)) with
    rfl | ⟨p, hp, hbelow⟩
  · exact h.filled
  · by_contra hnew
    have htold := h.documented.added n p (Nat.le_of_not_lt hnew) hp (isConnected_iff.mpr hbelow)
    simp [h.quiet _ rfl n htold] at hn

theorem parentNode? {n : Nat} (hn : b.page.related r n = true) :
    b.parentNode? n = a.parentNode? n := by
  rcases Relation.ReflTransGen.cases_head (isConnected_iff.mp (h.isConnected hn)) with
    rfl | ⟨p, hp, -⟩
  · have hnone : ∀ doc : Document, doc.parentNode? 0 = none := by
      intro doc
      rw [Option.eq_none_iff_forall_ne_some]
      exact fun p hp => absurd (doc.parentNode?_lt hp) (Nat.not_lt_zero p)
    rw [hnone, hnone]
  · rw [hp, h.documented.parent n p (h.old hn) hp]

theorem related_parent {n p : Nat} (hn : b.page.related r n = true)
    (hp : a.parentNode? n = some p) : b.page.related r p = true := by
  rw [← h.parentNode? hn] at hp
  have hpn : b.contains p n = true := (contains_parent hp).mpr (.inr (contains_self p))
  rcases related_iff.mp hn with hrn | hnr
  · rcases (contains_parent hp).mp hrn with rfl | hrp
    · exact related_iff.mpr (.inr hpn)
    · exact related_iff.mpr (.inl hrp)
  · exact related_iff.mpr (.inr (contains_trans hpn hnr))

theorem isElement {n : Nat} (hn : b.page.related r n = true) : b.isElement n = a.isElement n :=
  h.documented.isElement n (h.old hn)

theorem attributes_eq (hattributes : deps.attributes = true) {n : Nat}
    (hn : b.page.related r n = true) : b.family.attributes n = a.family.attributes n := by
  by_contra hne
  have htold := h.documented.attributes (h.attributes hattributes) n (h.old hn)
    (h.isConnected hn) hne
  simp [h.quiet .attributes hattributes n htold] at hn

theorem ownText_eq (htext : deps.text = true) {n : Nat}
    (hn : b.page.related r n = true) : b.ownText n = a.ownText n := by
  by_contra hne
  have htold := h.documented.text (h.text htext) n (h.old hn) (h.isConnected hn) hne
  simp [h.quiet .characterData htext n htold] at hn

/-! ### Children -/

/-- The children of a node of the region are those it had and new ones behind them. -/
theorem childrenOf_append {p : Nat} (hp : b.page.related r p = true) :
    ∃ extra, b.childrenOf p = a.childrenOf p ++ extra ∧ (∀ m ∈ extra, a.size ≤ m) ∧
      (b.contains r p = true → extra = []) := by
  have hrange : List.range b.size = List.range a.size ++
      (List.range (b.size - a.size)).map (a.size + ·) := by
    rw [← List.range_add, Nat.add_sub_cancel' h.documented.size]
  have hold : (List.range a.size).filter (fun m => b.parentNode? m == some p) =
      a.childrenOf p := by
    refine List.filter_congr fun m hm => ?_
    rw [Bool.eq_iff_iff, beq_iff_eq, beq_iff_eq]
    refine ⟨h.documented.parent m p (List.mem_range.mp hm), fun hparent => ?_⟩
    by_contra hne
    have htold := h.documented.removed m p hparent hne (h.isConnected hp)
    simp [h.quiet _ rfl p htold] at hp
  refine ⟨((List.range (b.size - a.size)).map (a.size + ·)).filter
    fun m => b.parentNode? m == some p, ?_, ?_, ?_⟩
  · rw [childrenOf, hrange, List.filter_append, hold]
  · intro m hm
    obtain ⟨k, -, rfl⟩ := List.mem_map.mp (List.mem_filter.mp hm).1
    exact Nat.le_add_right _ _
  · intro hinside
    rw [List.filter_eq_nil_iff]
    intro m hm hparent
    obtain ⟨k, -, rfl⟩ := List.mem_map.mp hm
    have hparent := beq_iff_eq.mp hparent
    have htold := h.documented.added _ p (Nat.le_add_right _ _) hparent (h.isConnected hp)
    have hbelow : b.contains r (a.size + k) = true :=
      (contains_parent hparent).mpr (.inr hinside)
    have hapart := h.quiet _ rfl _ htold
    simp [related_of_contains hbelow] at hapart

theorem childrenOf_eq {p : Nat} (hp : b.contains r p = true) : b.childrenOf p = a.childrenOf p := by
  obtain ⟨extra, heq, -, hnone⟩ := h.childrenOf_append (related_of_contains hp)
  rw [heq, hnone hp, List.append_nil]

/-- A node of the region keeps its place among the elements below its parent. -/
theorem place_eq {n p : Nat} (hn : b.page.related r n = true) (hp : a.parentNode? n = some p) :
    (b.family.childElements p).idxOf? n = (a.family.childElements p).idxOf? n := by
  obtain ⟨extra, heq, hnew, -⟩ := h.childrenOf_append (h.related_parent hn hp)
  have hold : (a.childrenOf p).filter b.isElement = (a.childrenOf p).filter a.isElement :=
    List.filter_congr fun m hm =>
      h.documented.isElement m (lt_size_of_parentNode? (mem_childrenOf.mp hm))
  have hnone : (extra.filter b.isElement).idxOf? n = none := by
    rw [List.idxOf?_eq_none_iff]
    intro hmem
    have := hnew n (List.mem_filter.mp hmem).1
    have := h.old hn
    omega
  unfold Family.childElements
  rw [childNodes_eq, childNodes_eq, heq, List.filter_append]
  rw [show b.family.doc.isElement = b.isElement from rfl,
    show a.family.doc.isElement = a.isElement from rfl, hold]
  rw [List.idxOf?, List.findIdx?_append]
  rw [List.idxOf?] at hnone
  rw [hnone, Option.map_none, Option.or_none]

theorem position_eq {n : Nat} (hn : b.page.related r n = true) :
    b.family.position n = a.family.position n := by
  have hplace : ((b.family.siblings n).filter b.family.doc.isElement).idxOf? n =
      ((a.family.siblings n).filter a.family.doc.isElement).idxOf? n := by
    unfold Family.siblings
    rw [show b.family.doc.parentNode? n = a.family.doc.parentNode? n from h.parentNode? hn]
    cases hp : a.family.doc.parentNode? n with
    | none => rfl
    | some p => exact h.place_eq hn hp
  unfold Family.position
  rw [hplace]

end Nodes

/-! ### Selectors -/

section Selectors

variable (h : Spared options deps a b r)

include h

theorem parentElement?_eq {n : Nat} (hn : b.page.related r n = true) :
    b.family.parentElement? n = a.family.parentElement? n := by
  unfold Family.parentElement?
  rw [show b.family.doc.parentNode? n = a.family.doc.parentNode? n from h.parentNode? hn]
  cases hp : a.family.doc.parentNode? n with
  | none => rfl
  | some p =>
    have helement := h.isElement (h.related_parent hn hp)
    rw [Option.filter_some, Option.filter_some]
    rw [show b.family.doc.isElement p = a.family.doc.isElement p from helement]

theorem attribute?_eq (hattributes : deps.attributes = true) {n : Nat}
    (hn : b.page.related r n = true) : b.family.attribute? n = a.family.attribute? n := by
  funext name
  unfold Family.attribute?
  rw [h.attributes_eq hattributes hn]

/-- If siblings matter, there are no new ones. -/
theorem previousElement?_eq (hsiblings : deps.siblings = true) {n : Nat}
    (hn : b.page.related r n = true) :
    b.family.previousElement? n = a.family.previousElement? n := by
  unfold Family.previousElement? Family.siblings
  rw [show b.family.doc.parentNode? n = a.family.doc.parentNode? n from h.parentNode? hn]
  cases hp : a.family.doc.parentNode? n with
  | none => rfl
  | some p =>
    have hconnected := h.isConnected (h.related_parent hn hp)
    have hinside : b.contains r p = true := h.siblings hsiblings ▸ hconnected
    simp only
    rw [childNodes_eq, childNodes_eq, h.childrenOf_eq hinside]
    congr 1
    refine List.filter_congr fun m hm => ?_
    have hold := lt_size_of_parentNode? (mem_childrenOf.mp hm)
    rw [show b.family.doc.isElement m = a.family.doc.isElement m from
      h.documented.isElement m hold]

theorem related_previous (hsiblings : deps.siblings = true) {n m : Nat}
    (hn : b.page.related r n = true) (hm : a.family.previousElement? n = some m) :
    b.page.related r m = true := by
  have hmem := List.mem_of_mem_filter (List.mem_of_getLast? hm)
  unfold Family.siblings at hmem
  cases hp : a.family.doc.parentNode? n with
  | none => simp [hp] at hmem
  | some p =>
    rw [hp] at hmem
    have hmem : m ∈ a.family.childNodes p := hmem
    rw [childNodes_eq] at hmem
    have hconnected := h.isConnected (h.related_parent hn hp)
    have hinside : b.contains r p = true := h.siblings hsiblings ▸ hconnected
    rw [← h.childrenOf_eq hinside] at hmem
    exact related_of_contains ((contains_parent (mem_childrenOf.mp hmem)).mpr (.inr hinside))

/-- **The trees of elements are alike** in the region. -/
theorem tree_alike : ElementTree.Alike deps (b.page.related r · = true)
    a.family.tree b.family.tree where
  parent _ hn := h.parentElement?_eq hn
  above _ _ hn hp := h.related_parent hn (Option.filter_eq_some_iff.mp hp).1
  tag n hn := h.documented.tag n (h.old hn)
  position _ hn := h.position_eq hn
  isRoot n hn := by
    show (b.parentNode? n == some 0) = (a.parentNode? n == some 0)
    rw [h.parentNode? hn]
  id? hattributes _ hn := congrFun (h.attribute?_eq hattributes hn) "id"
  hasClass hattributes n hn := by
    show b.family.hasClass n = a.family.hasClass n
    funext name
    unfold Family.hasClass
    rw [h.attribute?_eq hattributes hn]
  attribute? hattributes _ hn := h.attribute?_eq hattributes hn
  previous hsiblings _ hn := h.previousElement?_eq hsiblings hn
  before hsiblings _ _ hn hm := h.related_previous hsiblings hn hm

end Selectors

/-! ### Subtrees -/

/-- Layers below the last node are empty. -/
theorem layersBelow_congr (doc : Document) {s t n : Nat} (hs : doc.size ≤ n + s)
    (ht : doc.size ≤ n + t) : doc.family.layersBelow s n = doc.family.layersBelow t n := by
  have hnone : ∀ n, doc.size ≤ n → doc.childrenOf n = [] := by
    intro n hn
    rw [List.eq_nil_iff_forall_not_mem]
    intro m hm
    have hparent := mem_childrenOf.mp hm
    have := doc.parentNode?_lt hparent
    have := lt_size_of_parentNode? hparent
    omega
  induction s generalizing t n with
  | zero =>
    cases t with
    | zero => rfl
    | succ t =>
      rw [layersBelow_succ, hnone n (by omega)]
      rfl
  | succ s ih =>
    cases t with
    | zero =>
      rw [layersBelow_succ, hnone n (by omega)]
      rfl
    | succ t =>
      rw [layersBelow_succ, layersBelow_succ]
      congr 1
      refine List.flatMap_congr fun m hm => ?_
      have := doc.parentNode?_lt (mem_childrenOf.mp hm)
      exact ih (by omega) (by omega)

section Subtrees

variable (h : Spared options deps a b r)

include h

theorem layersBelow_eq (layers : Nat) {n : Nat} (hn : b.contains r n = true) :
    b.family.layersBelow layers n = a.family.layersBelow layers n := by
  induction layers generalizing n with
  | zero => rfl
  | succ layers ih =>
    rw [layersBelow_succ, layersBelow_succ, h.childrenOf_eq hn]
    congr 1
    refine List.flatMap_congr fun m hm => ih ?_
    rw [← h.childrenOf_eq hn] at hm
    exact (contains_parent (mem_childrenOf.mp hm)).mpr (.inr hn)

theorem subtree_eq {n : Nat} (hn : b.contains r n = true) :
    b.family.subtree n = a.family.subtree n := by
  have hsize := h.documented.size
  refine (h.layersBelow_eq b.size hn).trans (layersBelow_congr a ?_ ?_)
  · omega
  · exact Nat.le_add_left _ _

/-- Inside of the node the documents agree about what contains what. -/
theorem contains_iff_of_inside {m n : Nat} (hm : b.contains r m = true) :
    b.contains m n = true ↔ a.contains m n = true := by
  rw [← mem_subtree_iff, ← mem_subtree_iff, h.subtree_eq hm]

theorem inside_of_contains {m n : Nat} (hm : b.contains r m = true)
    (hmn : a.contains m n = true) : b.contains r n = true :=
  contains_trans hm ((h.contains_iff_of_inside hm).mpr hmn)

theorem textContent_eq (htext : deps.text = true) {n : Nat}
    (hn : b.contains r n = true) : b.family.textContent n = a.family.textContent n := by
  have htexts : ∀ doc : Document,
      doc.family.textContent n = String.join ((doc.family.subtree n).map doc.ownText) :=
    fun _ => rfl
  rw [htexts, htexts, h.subtree_eq hn]
  congr 1
  refine List.map_congr_left fun m hm => h.ownText_eq htext (related_of_contains ?_)
  exact h.inside_of_contains hn (mem_subtree_iff.mp hm)

/-- A path leads through the region only. -/
theorem path_eq {n : Nat} (hn : b.page.related r n = true) : b.page.path n = a.page.path n := by
  have hsteps : ∀ n, b.page.related r n = true →
      b.page.pathSteps n (b.page.ancestors n) = a.page.pathSteps n (a.page.ancestors n) := by
    intro n
    induction n using Nat.strongRecOn with
    | ind n ih =>
      intro hn
      rw [b.page.ancestors_eq, a.page.ancestors_eq]
      rw [show b.page.parent? n = a.page.parent? n from h.parentElement?_eq hn]
      cases hp : a.page.parent? n with
      | none => simp only [Page.pathSteps]
      | some p =>
        have hnode : a.parentNode? n = some p := (Option.filter_eq_some_iff.mp hp).1
        have hplace : (b.page.children p).idxOf? n = (a.page.children p).idxOf? n :=
          h.place_eq hn hnode
        have htag : b.page.tag n = a.page.tag n := h.documented.tag n (h.old hn)
        simp only [Page.pathSteps]
        rw [hplace, htag, ih p (a.parentNode?_lt hnode) (h.related_parent hn hnode)]
  rw [Page.path, Page.path, hsteps n hn]

theorem queryAll_inside {scope : Nat} (hscope : b.contains r scope = true) {text : String}
    (hfits : Fits deps text.toList) :
    b.page.queryAll scope text = a.page.queryAll scope text := by
  have hdescendants : b.family.descendants scope = a.family.descendants scope := by
    unfold Family.descendants
    rw [h.subtree_eq hscope]
    refine List.filter_congr fun m hm => ?_
    have hm := mem_subtree_iff.mp (List.mem_of_mem_tail hm)
    exact h.isElement (related_of_contains (h.inside_of_contains hscope hm))
  have hquery : ∀ (start : Option Nat) (list : SelectorList),
      (∀ sel ∈ list, sel.Fits deps) →
      (b.family.descendants scope).filter (list.matches b.family.tree start) =
        (a.family.descendants scope).filter (list.matches a.family.tree start) := by
    intro start list hlist
    rw [hdescendants]
    refine List.filter_congr fun m hm => ?_
    have hm := mem_subtree_iff.mp (List.mem_of_mem_tail (List.mem_filter.mp hm).1)
    exact h.tree_alike.list_matches start hlist
      (related_of_contains (h.inside_of_contains hscope hm))
  rw [queryAll_eq, queryAll_eq]
  simp only [ElementTree.query]
  rw [show a.family.tree.descendants = a.family.descendants from rfl,
    show b.family.tree.descendants = b.family.descendants from rfl,
    hquery _ _ (queryList_fits hfits)]

/-- **The pages are alike** below the node. -/
theorem page_alike : Page.Alike deps (b.contains r · = true) a.page b.page where
  query _ _ hscope hfits := h.queryAll_inside hscope hfits
  inside _ _ _ hscope hquery _ hn :=
    h.inside_of_contains hscope (contains_of_mem_queryAll hquery hn)
  path _ hn := h.path_eq (related_of_contains hn)
  inert n _ := h.tags.path_inert n
  contains m n hm _ := by
    rw [Bool.eq_iff_iff]
    exact h.contains_iff_of_inside hm
  text htext _ hn := h.textContent_eq htext hn

end Subtrees

end Spared

/-! ### Queries from the top -/

/-- A query from the top finds the node. -/
def Finds (doc : Document) (text : String) (n : Nat) : Prop :=
  ∃ nodes, doc.page.queryAll 0 text = .ok nodes ∧ n ∈ nodes

/-- A query from the top is about the connected elements. -/
theorem finds_iff_of_top {doc : Document} (htop : doc.isElement 0 = false) {text : String}
    {n : Nat} :
    doc.Finds text n ↔ SelectorList.isSupported (Family.queryList (trimmed text)) = true ∧
      (doc.isConnected n = true ∧ doc.isElement n = true) ∧
      SelectorList.matches doc.family.tree none n (Family.queryList (trimmed text)) = true := by
  have hdescendants : n ∈ doc.family.descendants 0 ↔
      doc.isConnected n = true ∧ doc.isElement n = true := by
    rw [mem_descendants_iff, and_comm, and_assoc]
    refine and_congr_right fun _ => and_iff_right_of_imp ?_
    rintro helement rfl
    simp [htop] at helement
  unfold Finds
  rw [queryAll_eq]
  split
  · rename_i hsupported
    simp only [Except.ok.injEq, exists_eq_left', hsupported, true_and]
    unfold ElementTree.query
    rw [List.mem_filter, ← hdescendants]
    rfl
  · rename_i hsupported
    simp [hsupported]

theorem WellFormed.finds_iff {doc : Document} (h : doc.WellFormed) {text : String} {n : Nat} :
    doc.Finds text n ↔ SelectorList.isSupported (Family.queryList (trimmed text)) = true ∧
      (doc.isConnected n = true ∧ doc.isElement n = true) ∧
      SelectorList.matches doc.family.tree none n (Family.queryList (trimmed text)) = true :=
  finds_iff_of_top h.not_isElement_top

/-- Queries from the top agree about the region. -/
theorem Spared.finds_iff {options : ObserveOptions} {deps : Dependencies} {a b : Document}
    {r : Nat} (h : Spared options deps a b r) (htop : a.isElement 0 = false) {text : String}
    (hfits : Fits deps text.toList) {n : Nat} (hn : b.page.related r n = true) :
    b.Finds text n ↔ a.Finds text n := by
  have hconnected := h.isConnected hn
  have hbefore := h.documented.connected (h.old hn) hconnected
  have htopAfter : b.isElement 0 = false := (h.documented.isElement 0 h.filled).trans htop
  rw [finds_iff_of_top htopAfter, finds_iff_of_top htop, h.isElement hn, hconnected, hbefore,
    h.tree_alike.list_matches none (queryList_fits hfits) hn]

end Document

end CosmeticFilter
