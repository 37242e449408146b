/-
Paths lead to their elements.

A path leads to no other element than the one that it was made for.  In a document whose
nodes can be counted by machine words it does lead to this element: each place in it can be
read, so that the path is a supported selector, and the element matches it.  So a query for
the path finds the element, and nothing else, from wherever the element lies below.
-/
import CosmeticFilter.Proofs.Spans

namespace CosmeticFilter.Document

open CosmeticFilter.Text

variable {doc : Document}

/-! ### Queries -/

/-- The scope of a query, if it is an element. -/
def scopeOf (scope : Nat) : Option Nat :=
  if scope != 0 then some scope else none

/-- A query for a supported list finds the elements that match one of its members. -/
theorem mem_queryAll_list (doc : Document) (scope : Nat) {text : String} {list : SelectorList}
    (hlist : Family.queryList (trimmed text) = list) (hsupported : list.isSupported = true) :
    ∃ nodes, doc.page.queryAll scope text = .ok nodes ∧ ∀ n, n ∈ nodes ↔
      (doc.isElement n = true ∧ doc.contains scope n = true ∧ n ≠ scope) ∧
        ∃ sel ∈ list, sel.matches doc.family.tree (scopeOf scope) n = true := by
  refine ⟨doc.family.tree.query scope (scope != 0) list, ?_, fun n => ?_⟩
  · rw [queryAll_eq, hlist, if_pos hsupported]
  · rw [ElementTree.query, List.mem_filter, ← mem_descendants_iff, SelectorList.matches,
      List.any_eq_true]
    rfl

/-- A query that comes down to one supported selector finds the elements that match it. -/
theorem mem_queryAll_iff (doc : Document) (scope : Nat) {text : String} {sel : Complex}
    (hlist : Family.queryList (trimmed text) = [sel]) (hsupported : sel.isSupported = true) :
    ∃ nodes, doc.page.queryAll scope text = .ok nodes ∧ ∀ n, n ∈ nodes ↔
      (doc.isElement n = true ∧ doc.contains scope n = true ∧ n ≠ scope) ∧
        sel.matches doc.family.tree (scopeOf scope) n = true := by
  have hone : SelectorList.isSupported [sel] = true := by
    simp [SelectorList.isSupported, hsupported]
  obtain ⟨nodes, hquery, hnodes⟩ := mem_queryAll_list doc scope hlist hone
  refine ⟨nodes, hquery, fun n => ?_⟩
  simp only [hnodes, List.mem_singleton, exists_eq_left]

/-- A sealed text that starts with a colon is one selector. -/
theorem queryList_of_sealed {text : String} (hsealed : Sealed text.toList) {front more : List Char}
    {c : Char} (hhead : text.toList = ':' :: more) (hlast : text.toList = front ++ [c])
    (hc : SelectorText.isSeam c = false) :
    Family.queryList (trimmed text) = [Complex.parse text] := by
  have htrimmed : trimmed text = text := by
    rw [trimmed, trim_of_ends hhead (by decide) hlast (SelectorText.isWhite_of_not_isSeam hc),
      String.ofList_toList]
  rw [htrimmed, Family.queryList, if_neg (by simp [hhead]),
    SelectorList.parse_of_sealed hsealed htrimmed]

/-! ### The selectors of paths -/

/-- The place of an element is no greater than the number of nodes. -/
theorem position_le (n : Nat) : doc.family.position n ≤ doc.size := by
  unfold Family.position
  split
  · rename_i i hplace
    obtain ⟨hlt, -⟩ := List.idxOf?_eq_some_iff.mp hplace
    have hlength : ((doc.family.siblings n).filter doc.family.doc.isElement).length ≤ doc.size := by
      refine Nat.le_trans (List.length_filter_le _ _) ?_
      unfold Family.siblings
      split
      · rw [childNodes_eq, childrenOf]
        refine Nat.le_trans (List.length_filter_le _ _) ?_
        rw [List.length_range]
      · exact Nat.zero_le _
    omega
  · exact Nat.zero_le _

/-- From the root on, the tag of each element on the way and its place among its siblings. -/
inductive PathSelector (doc : Document) : Nat → Complex → Prop
  | root {n : Nat} (hroot : doc.family.tree.isRoot n = true) (hparent : doc.page.parent? n = none) :
      PathSelector doc n ⟨[.root], []⟩
  | child {n p : Nat} {sel : Complex} (hn : doc.isElement n = true)
      (hparent : doc.page.parent? n = some p) (h : PathSelector doc p sel) :
      PathSelector doc n
        (sel.concat .child [.type (lower (doc.family.tag n)), .nthChild (doc.family.position n)])

namespace PathSelector

variable {n : Nat} {sel : Complex}

theorem supported (h : doc.PathSelector n sel) : sel.isSupported = true := by
  induction h with
  | root => rfl
  | child hn hparent h ih =>
    rw [Complex.isSupported, Complex.compounds] at ih ⊢
    simp only [Complex.concat, List.map_append, List.all_cons, List.all_append, Bool.and_eq_true]
      at ih ⊢
    exact ⟨ih.1, ih.2, rfl⟩

theorem ends (h : doc.PathSelector n sel) : sel.last ≠ [] := by
  cases h with
  | root => simp [Complex.last]
  | child => simp

/-- An element meets the selector of its path, in every scope. -/
theorem holds (h : doc.PathSelector n sel) (scope : Option Nat) :
    sel.matches doc.family.tree scope n = true := by
  induction h with
  | root hroot hparent =>
    simp [Complex.matches_first, Compound.matches, Simple.matches, hroot]
  | @child n p sel hn hparent h ih =>
    have htag : sameName (doc.family.tree.tag n) (lower (doc.family.tag n)) = true := by
      simp [sameName, lower, Family.tree]
    have hplace : doc.family.tree.position n = doc.family.position n := rfl
    have hleft : p ∈ Combinator.child.leftOf doc.family.tree n := Option.mem_toList.mpr hparent
    rw [Complex.matches_concat, Bool.and_eq_true]
    refine ⟨?_, List.any_eq_true.mpr ⟨p, hleft, ih⟩⟩
    simp [Compound.matches, Simple.matches, htag, hplace]

/-- No other element meets it: there is one root, and one element at each place below a parent. -/
theorem eq_of_matches (hformed : doc.WellFormed) (h : doc.PathSelector n sel)
    (hn : doc.isElement n = true) {scope : Option Nat} {m : Nat} (hm : doc.isElement m = true)
    (hmatches : sel.matches doc.family.tree scope m = true) : m = n := by
  induction h generalizing m with
  | root hroot hparent =>
    have hmroot : doc.family.tree.isRoot m = true := by
      simpa [Complex.matches_first, Compound.matches, Simple.matches] using hmatches
    exact hformed.root m _ hm hn (beq_iff_eq.mp hmroot) (beq_iff_eq.mp hroot)
  | @child n p sel _ hparent h ih =>
    rw [Complex.matches_concat, Bool.and_eq_true, List.any_eq_true] at hmatches
    obtain ⟨hcompound, q, hq, hmatches⟩ := hmatches
    have hmq : doc.page.parent? m = some q := Option.mem_toList.mp hq
    have hpelement : doc.isElement p = true := (Option.filter_eq_some_iff.mp hparent).2
    obtain rfl : q = p := ih hpelement (Option.filter_eq_some_iff.mp hmq).2 hmatches
    simp only [Compound.matches, List.all_cons, List.all_nil, Bool.and_true, Bool.and_eq_true]
      at hcompound
    exact WellFormed.eq_of_place hm hn hmq hparent (beq_iff_eq.mp hcompound.2.2)

end PathSelector

namespace WellFormed

variable (h : doc.WellFormed)

include h

theorem exists_pathSelector {n : Nat} (hn : doc.isElement n = true)
    (hconnected : doc.isConnected n = true) : ∃ sel, doc.PathSelector n sel := by
  refine element_induction (P := fun n => doc.isConnected n = true → ∃ sel, doc.PathSelector n sel)
    ?_ ?_ n hn hconnected
  · intro n hn hparent hconnected
    exact ⟨_, .root (beq_iff_eq.mpr (h.parent_of_root hn hconnected hparent)) hparent⟩
  · intro n p hn hparent _ ih hconnected
    obtain ⟨sel, hsel⟩ := ih (h.connected_parent hn hconnected hparent)
    exact ⟨_, .child hn hparent hsel⟩

/-- The path reads as this selector, with whatever comes behind that does not go on with it. -/
theorem read_pathSelector (hsize : doc.size ≤ maxWord) {n : Nat} {sel : Complex}
    (hsel : doc.PathSelector n sel) (source : String) {rest : List Char}
    (hrest : Token.EndsName rest) :
    (Token.all ((doc.page.path n).toList ++ rest)).foldl (PartialComplex.add source) .empty =
      (Token.all rest).foldl (PartialComplex.add source) ⟨sel, none⟩ := by
  induction hsel generalizing rest with
  | root hroot hparent =>
    have hnext : Token.next? (":root".toList ++ rest) = some (.simple .root, rest) :=
      Token.next?_print (show Simple.root.IsPrintable from trivial) fun _ => hrest
    rw [doc.page.path_of_root hparent, Token.all_cons hnext]
    rfl
  | @child n p sel hn hparent hsel ih =>
    obtain ⟨i, hposition, hpath⟩ := path_of_element hn hparent
    have hlimit : i + 1 ≤ maxWord := hposition ▸ Nat.le_trans (position_le n) hsize
    obtain ⟨cond, hcond, hstep⟩ := Complex.read_step source (h.tags n hn) i rest hsel.ends
    obtain rfl : cond = .nthChild (i + 1) :=
      hcond.resolve_right fun hgreat => Nat.not_lt_of_le hlimit hgreat.1
    have hblank : Token.EndsName (" > ".toList ++ ((doc.family.tag n).toList ++
        (":nth-child(".toList ++ Nat.toDigits 10 (i + 1) ++ ')' :: rest))) :=
      Token.endsName_blank _
    rw [hpath, hposition]
    refine Eq.trans ?_ ((ih hblank).trans hstep)
    simp

end WellFormed

/-! ### Places -/

/--
The path of a node reads as this selector, with whatever comes behind a blank, and the node
matches the selector in every scope.
-/
structure PathReads (doc : Document) (n : Nat) (sel : Complex) : Prop where
  supported : sel.isSupported = true
  ends : sel.last ≠ []
  holds : ∀ scope, sel.matches doc.family.tree scope n = true
  read : ∀ source rest, (rest.head?.all fun c => c == ' ') = true →
    (Token.all ((doc.page.path n).toList ++ rest)).foldl (PartialComplex.add source) .empty =
      (Token.all rest).foldl (PartialComplex.add source) ⟨sel, none⟩

namespace WellFormed

variable (h : doc.WellFormed) (hsize : doc.size ≤ maxWord)

include h hsize

theorem pathReads {n : Nat} {sel : Complex} (hsel : doc.PathSelector n sel) :
    doc.PathReads n sel := by
  refine ⟨hsel.supported, hsel.ends, hsel.holds, fun source rest hrest => ?_⟩
  refine h.read_pathSelector hsize hsel source ?_
  cases rest with
  | nil => exact Token.endsName_nil
  | cons c more =>
    obtain rfl : c = ' ' := by simpa using hrest
    exact Token.endsName_blank more

/-- The path of an element reads as a supported selector that the element matches. -/
theorem read_path_exact {n : Nat} (hn : doc.isElement n = true)
    (hconnected : doc.isConnected n = true) : ∃ sel, doc.PathReads n sel := by
  obtain ⟨sel, hsel⟩ := h.exists_pathSelector hn hconnected
  exact ⟨sel, h.pathReads hsize hsel⟩

omit hsize in
theorem path_isSealed {n : Nat} (hn : doc.isElement n = true) :
    Sealed (doc.page.path n).toList := by
  refine element_induction (P := fun n => Sealed (doc.page.path n).toList) ?_ ?_ n hn
  · intro n _ hparent
    rw [doc.page.path_of_root hparent]
    exact .of_all (by decide)
  · intro n p hn hparent _ ih
    obtain ⟨i, -, hpath⟩ := path_of_element hn hparent
    have hsigns : Sealed " > ".toList := .of_all (by decide)
    have hname : Sealed ":nth-child".toList := .of_all (by decide)
    have hdigits : Sealed (Nat.toDigits 10 (i + 1)) := .of_letters fun c hc =>
      Token.isScanSign_of_isNameChar (isNameChar_of_letter
        (.inl (by simp [Char.isAlphanum, isDigit_of_mem_toDigits hc])))
    have hplace := hname.append (.group hdigits .nil)
    have hstep := ih.append (hsigns.append
      ((Token.isName_of_isTag (h.tags n hn)).isSealed.append hplace))
    rw [hpath]
    simpa using hstep

omit hsize in
/-- A query for a path is one for a single selector. -/
theorem queryList_path {n : Nat} (hn : doc.isElement n = true) {sel : Complex}
    (hreads : doc.PathReads n sel) : Family.queryList (trimmed (doc.page.path n)) = [sel] := by
  obtain ⟨⟨more, hhead⟩, front, d, hlast, hd⟩ := path_ends hn
  have hparse : Complex.parse (doc.page.path n) = sel := by
    have hall := hreads.read (doc.page.path n) [] rfl
    rw [List.append_nil, Token.all_nil] at hall
    rw [Complex.parse, Complex.ofTokens, hall]
    rfl
  rw [queryList_of_sealed (h.path_isSealed hn) hhead hlast hd, hparse]

/-- **A query for the path of an element finds just this element**, from every scope above it. -/
theorem queryAll_path {n : Nat} (hn : doc.isElement n = true)
    (hconnected : doc.isConnected n = true) {scope : Nat} (hscope : doc.contains scope n = true)
    (hne : n ≠ scope) :
    ∃ nodes, doc.page.queryAll scope (doc.page.path n) = .ok nodes ∧ n ∈ nodes := by
  obtain ⟨sel, hreads⟩ := h.read_path_exact hsize hn hconnected
  obtain ⟨nodes, hquery, hnodes⟩ :=
    mem_queryAll_iff doc scope (h.queryList_path hn hreads) hreads.supported
  exact ⟨nodes, hquery, (hnodes n).mpr ⟨⟨hn, hscope, hne⟩, hreads.holds _⟩⟩

/-- From the top it finds no other element. -/
theorem finds_path_iff {n m : Nat} (hn : doc.isElement n = true)
    (hconnected : doc.isConnected n = true) : doc.Finds (doc.page.path n) m ↔ m = n := by
  constructor
  · rintro ⟨nodes, hquery, hm⟩
    exact h.eq_of_mem_path hn hconnected hquery hm
  · rintro rfl
    exact h.queryAll_path hsize hn hconnected hconnected (h.ne_top hn)

end WellFormed

end CosmeticFilter.Document
