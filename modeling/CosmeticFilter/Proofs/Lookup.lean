/-
Looking up an element by its path.

The path of an element is written from its places among the elements on the way down from
the root, and a query reads it back as conditions on tags and places.  At each level these
single out one element below one parent, whether or not there are texts between the
elements or other elements have been removed.  So from the top of the document the query
answers with the element alone.  A query from some element answers with what lies below it,
which is the same element or nothing.
-/
import CosmeticFilter.Proofs.Rows
import CosmeticFilter.Proofs.Signposts

namespace CosmeticFilter.Document

open CosmeticFilter.Text

variable {doc : Document}

/-- A query answers with each element once. -/
theorem nodup_of_queryAll {scope : Nat} {selector : String} {nodes : List Nat}
    (h : doc.page.queryAll scope selector = .ok nodes) : nodes.Nodup := by
  rw [queryAll_eq] at h
  split at h
  · rw [← Except.ok.inj h]
    exact (pairwise_query doc scope _ _).imp Before.ne
  · simp at h

namespace WellFormed

variable (h : doc.WellFormed) (hsize : doc.size ≤ maxWord) {n : Nat}
  (hn : doc.isElement n = true) (hconnected : doc.isConnected n = true)

include h hsize hn hconnected

/-- What a query for the path of an element finds is the element, where it lies below. -/
theorem mem_queryAll_path (scope : Nat) :
    ∃ nodes, doc.page.queryAll scope (doc.page.path n) = .ok nodes ∧ ∀ m, m ∈ nodes ↔
      m = n ∧ doc.contains scope n = true ∧ n ≠ scope := by
  obtain ⟨sel, hsel⟩ := h.exists_pathSelector hn hconnected
  have hreads := h.pathReads hsize hsel
  obtain ⟨nodes, hquery, hnodes⟩ :=
    mem_queryAll_iff doc scope (h.queryList_path hn hreads) hreads.supported
  refine ⟨nodes, hquery, fun m => (hnodes m).trans ?_⟩
  constructor
  · rintro ⟨⟨hm, hscope, hne⟩, hmatches⟩
    obtain rfl : m = n := hsel.eq_of_matches h hn hm hmatches
    exact ⟨rfl, hscope, hne⟩
  · rintro ⟨rfl, hscope, hne⟩
    exact ⟨⟨hn, hscope, hne⟩, hsel.holds _⟩

theorem queryAll_path_eq (scope : Nat) :
    doc.page.queryAll scope (doc.page.path n) =
      .ok (if doc.contains scope n = true ∧ n ≠ scope then [n] else []) := by
  obtain ⟨nodes, hquery, hnodes⟩ := h.mem_queryAll_path hsize hn hconnected scope
  rw [hquery]
  split
  · rename_i hbelow
    have hperm : nodes.Perm [n] := by
      rw [List.perm_ext_iff_of_nodup (nodup_of_queryAll hquery) (List.nodup_singleton n)]
      intro m
      rw [hnodes, List.mem_singleton]
      exact and_iff_left hbelow
    rw [List.perm_singleton.mp hperm]
  · rename_i houtside
    rw [List.eq_nil_iff_forall_not_mem.mpr fun m hm => houtside ((hnodes m).mp hm).2]

end WellFormed

/--
**Paths identify their elements.**  In a well-formed document, whose nodes are numbered by
machine words, a query of the document for the path of a connected element answers with just
this element.  So does a query of an element that the element lies inside of, and a query of
any other element, be it connected or not, succeeds and answers with nothing.
-/
theorem paths_identify (doc : Document) (hformed : doc.WellFormed) (hsize : doc.size ≤ maxWord)
    {n : Nat} (hn : doc.isElement n = true) (hconnected : doc.isConnected n = true) :
    doc.page.queryAll doc.page.document (doc.page.path n) = .ok [n] ∧
    ∀ scope, doc.isElement scope = true →
      (doc.contains scope n = true ∧ n ≠ scope →
        doc.page.queryAll scope (doc.page.path n) = .ok [n]) ∧
      (¬(doc.contains scope n = true ∧ n ≠ scope) →
        doc.page.queryAll scope (doc.page.path n) = .ok []) := by
  have hquery := hformed.queryAll_path_eq hsize hn hconnected
  have htop : doc.contains 0 n = true ∧ n ≠ 0 := ⟨hconnected, hformed.ne_top hn⟩
  refine ⟨(hquery 0).trans (by rw [if_pos htop]), fun scope _ => ⟨fun hbelow => ?_,
    fun houtside => ?_⟩⟩
  · rw [hquery, if_pos hbelow]
  · rw [hquery, if_neg houtside]

/-- The paragraph in the box is found from everywhere above it, and not from itself. -/
theorem paths_identify_paragraph :
    let doc := Engine.boxDocument
    doc.page.path 3 = ":root > div:nth-child(1) > p:nth-child(1)" ∧
    doc.page.queryAll 0 (doc.page.path 3) = .ok [3] ∧
    doc.page.queryAll 2 (doc.page.path 3) = .ok [3] ∧
    doc.page.queryAll 3 (doc.page.path 3) = .ok [] := by
  intro doc
  have hn : doc.isElement 3 = true := by decide
  have hconnected : doc.isConnected 3 = true := by decide
  obtain ⟨htop, hscopes⟩ := paths_identify doc (by decide) (by decide) hn hconnected
  exact ⟨by decide, htop, (hscopes 2 (by decide)).1 (by decide),
    (hscopes 3 (by decide)).2 (by decide)⟩

end CosmeticFilter.Document
