/-
Canonical lists of selectors.

A list is written with commas between its members.  A member that is written is sealed, so that no
comma inside of it separates, and the blank behind a comma is trimmed away: what is read are the
members again, one by one.  No extended pseudo-class starts in such a text, as none goes on
across a comma.  A query for the list finds what matches one of its members.
-/
import CosmeticFilter.Proofs.Signposts

namespace CosmeticFilter

open CosmeticFilter.Text

/-! ### Reading -/

namespace SelectorList

theorem parse_ne_nil (text : String) : parse text ≠ [] := by
  obtain ⟨first, more, hsplit, -, -⟩ := splitFrom_part .top text.toList
  simp [parse, split, hsplit]

theorem prints_ne_nil (text : String) : (parse text).map Complex.print ≠ [] :=
  mt List.map_eq_nil_iff.mp (parse_ne_nil text)

/-- A sealed text is a member of its own, up to a comma with a blank behind it. -/
theorem parse_comma {first : String} (hsealed : Sealed first.toList)
    (htrimmed : trimmed first = first) (rest : String) :
    parse (first ++ ", " ++ rest) = Complex.parse first :: parse rest := by
  have htext : (first ++ ", " ++ rest).toList = first.toList ++ ',' :: (' ' :: rest.toList) := by
    simp
  have hblank : trimmed (String.ofList (' ' :: rest.toList)) = trimmed rest := by
    have hwhite : isWhite ' ' = true := rfl
    simp [trimmed, trim, trimLeft, hwhite]
  have hrest : parse (String.ofList (' ' :: rest.toList)) = parse rest := by
    rw [← parse_trimmed, hblank, parse_trimmed]
  rw [← hrest, parse, split, htext, hsealed.splitFrom_comma]
  simp [htrimmed, parse, split]

end SelectorList

/-- **Sealed texts with commas between them** are read one by one. -/
theorem SelectorList.parse_intercalate {texts : List String} (hsome : texts ≠ [])
    (hsealed : ∀ text ∈ texts, Sealed text.toList)
    (htrimmed : ∀ text ∈ texts, trimmed text = text) :
    SelectorList.parse (", ".intercalate texts) = texts.map Complex.parse := by
  induction texts with
  | nil => exact absurd rfl hsome
  | cons first more ih =>
    obtain ⟨hfirst, hmore⟩ := List.forall_mem_cons.mp hsealed
    obtain ⟨hends, hmoreEnds⟩ := List.forall_mem_cons.mp htrimmed
    cases more with
    | nil =>
      rw [String.intercalate_singleton, SelectorList.parse_of_sealed hfirst hends]
      rfl
    | cons second others =>
      rw [String.intercalate_cons_cons, parse_comma hfirst hends,
        ih (List.cons_ne_nil _ _) hmore hmoreEnds]
      rfl

/-- The text ends in the last member. -/
theorem exists_last_member {texts : List String} (hsome : texts ≠ []) :
    ∃ front, ∃ text ∈ texts, ", ".intercalate texts = front ++ text := by
  obtain ⟨front, last, rfl⟩ := (List.eq_nil_or_concat texts).resolve_left hsome
  refine ⟨if front = [] then "" else ", ".intercalate front ++ ", ", last, by simp, ?_⟩
  rw [List.concat_eq_append]
  split
  · rename_i hnone
    simp [hnone]
  · rename_i hfront
    rw [String.intercalate_append_of_ne_nil hfront (List.cons_ne_nil _ _),
      String.intercalate_singleton]

theorem isExtended_intercalate {texts : List String} (hsome : texts ≠ [])
    (htexts : ∀ text ∈ texts, Canonical text) :
    isExtended (", ".intercalate texts).toList = false := by
  induction texts with
  | nil => exact absurd rfl hsome
  | cons first more ih =>
    obtain ⟨hfirst, hmore⟩ := List.forall_mem_cons.mp htexts
    cases more with
    | nil => rw [String.intercalate_singleton, hfirst.not_extended]
    | cons second others =>
      have hcomma : Stop ',' := ⟨by decide, by decide⟩
      have hlater := ih (List.cons_ne_nil _ _) hmore
      have htext : (", ".intercalate (first :: second :: others)).toList =
          first.toList ++ ',' :: (' ' :: (", ".intercalate (second :: others)).toList) := by
        simp [String.intercalate_cons_cons]
      rw [htext, isExtended_stop hcomma, hfirst.not_extended, Bool.false_or,
        isExtended_cons_of_ne (by decide), isExtended_cons_of_ne (by decide), hlater]

/-! ### Canonical lists -/

/-- A list as it is written: canonical members, with commas between them. -/
structure CanonicalList (text : String) : Prop where
  printed : (SelectorList.parse text).print = text
  members : ∀ sel ∈ SelectorList.parse text, Canonical sel.print

/-- A single selector is a list, too. -/
theorem Canonical.parse_list {text : String} (h : Canonical text) :
    SelectorList.parse text = [Complex.parse text] :=
  SelectorList.parse_of_sealed h.written.isSealed h.trimmed

theorem Canonical.list {text : String} (h : Canonical text) : CanonicalList text where
  printed := by
    rw [h.parse_list, SelectorList.print, List.map_singleton, h.printed,
      String.intercalate_singleton]
  members := by
    rw [h.parse_list, List.forall_mem_singleton, h.printed]
    exact h

namespace CanonicalList

variable {text : String} (h : CanonicalList text)

include h

theorem forall_mem_prints : ∀ other ∈ (SelectorList.parse text).map Complex.print,
    Canonical other :=
  List.forall_mem_map.mpr h.members

theorem intercalate_eq : ", ".intercalate ((SelectorList.parse text).map Complex.print) = text :=
  h.printed

/-- The members are read back from their texts. -/
theorem parse_print {sel : Complex} (hsel : sel ∈ SelectorList.parse text) :
    Complex.parse sel.print = sel := by
  have hread := SelectorList.parse_intercalate (SelectorList.prints_ne_nil _)
    (fun other hother => (h.forall_mem_prints other hother).written.isSealed)
    fun other hother => (h.forall_mem_prints other hother).trimmed
  rw [h.intercalate_eq, List.map_map] at hread
  exact List.map_inj_left.mp (hread.symm.trans (List.map_id _).symm) sel hsel

theorem supported : (SelectorList.parse text).isSupported = true := by
  have hmembers : ∀ sel ∈ SelectorList.parse text, sel.isSupported = true :=
    fun sel hsel => h.parse_print hsel ▸ (h.members sel hsel).supported
  simpa [SelectorList.isSupported, SelectorList.parse_ne_nil] using hmembers

theorem not_extended : isExtended text.toList = false := by
  have hnone := isExtended_intercalate (SelectorList.prints_ne_nil _) h.forall_mem_prints
  rwa [h.intercalate_eq] at hnone

theorem exists_last : ∃ front last, Canonical last ∧ text = front ++ last := by
  obtain ⟨front, last, hlast, heq⟩ :=
    exists_last_member (SelectorList.prints_ne_nil _)
  exact ⟨front, last, h.forall_mem_prints last hlast, h.intercalate_eq.symm.trans heq⟩

theorem complete : SelectorText.complete text = text := by
  obtain ⟨front, last, hlast, rfl⟩ := h.exists_last
  exact hlast.written.complete_append front

theorem filled : text.toList ≠ [] := by
  obtain ⟨front, last, hlast, rfl⟩ := h.exists_last
  obtain ⟨c, more, hhead, -⟩ := hlast.written.exists_head
  simp [hhead]

/-- **A query for a canonical list** finds the elements that end a row for one of its members. -/
theorem mem_query (doc : Document) (scope : Nat) :
    ∃ nodes, doc.page.queryAll scope text = .ok nodes ∧ ∀ n, n ∈ nodes ↔
      (doc.isElement n = true ∧ doc.contains scope n = true ∧ n ≠ scope) ∧
      ∃ sel ∈ SelectorList.parse text, ∃ m,
        Complex.Spans doc.family.tree (Document.scopeOf scope) sel.first sel.rest m n := by
  obtain ⟨nodes, hquery, hnodes⟩ := Document.mem_queryAll_list doc scope
    (Document.Family.queryList_of_supported h.supported) h.supported
  exact ⟨nodes, hquery, fun n => by simp only [hnodes, Complex.matches_iff_spans]⟩

/-- On the whole document these are elements anywhere. -/
theorem finds_iff {doc : Document} (hformed : doc.WellFormed) (n : Nat) :
    doc.Finds text n ↔ doc.isElement n = true ∧ doc.isConnected n = true ∧
      ∃ sel ∈ SelectorList.parse text, ∃ m,
        Complex.Spans doc.family.tree none sel.first sel.rest m n := by
  obtain ⟨nodes, hquery, hnodes⟩ := h.mem_query doc 0
  rw [Document.finds_iff_mem hquery, hnodes]
  constructor
  · rintro ⟨⟨hn, hconnected, -⟩, hspans⟩
    exact ⟨hn, hconnected, hspans⟩
  · rintro ⟨hn, hconnected, hspans⟩
    exact ⟨⟨hn, hconnected, hformed.ne_top hn⟩, hspans⟩

end CanonicalList

/-- A single selector finds the elements that end a row for it. -/
theorem Canonical.finds_iff {text : String} (h : Canonical text) {doc : Document}
    (hformed : doc.WellFormed) (n : Nat) :
    doc.Finds text n ↔ doc.isElement n = true ∧ doc.isConnected n = true ∧
      ∃ m, Complex.Spans doc.family.tree none (Complex.parse text).first
        (Complex.parse text).rest m n := by
  simp only [h.list.finds_iff hformed, h.parse_list, List.mem_singleton, exists_eq_left]

end CosmeticFilter
