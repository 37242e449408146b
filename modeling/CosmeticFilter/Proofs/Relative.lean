/-
Lists with members that are relative to the scope.

A query for a text that starts with `>` is a query for `:scope` with the text behind it.  The
scope is put in front before the text is cut at its commas, so that the first member is read
relative to it.  A later one that starts with `>` has nothing in front of its combinator: it is
not supported, and neither is the list.  Without such a member the list finds what its members
find by themselves.
-/
import CosmeticFilter.Proofs.Alternatives
import CosmeticFilter.Proofs.Slicing

namespace CosmeticFilter

open CosmeticFilter.Text

/-! ### Members -/

/-- A selector of a query, which may be relative to the scope. -/
structure QueryMember where
  isRelative : Bool
  selector : String

namespace QueryMember

def text (member : QueryMember) : String :=
  if member.isRelative then "> " ++ member.selector else member.selector

/-- The members as they are written in one query. -/
def list (members : List QueryMember) : String :=
  ", ".intercalate (members.map text)

/-- What a query reads when the member comes first. -/
def complex (member : QueryMember) : Complex :=
  if member.isRelative then Complex.join ⟨[.scope], []⟩ .child (Complex.parse member.selector)
  else Complex.parse member.selector

theorem complex_of_absolute {member : QueryMember} (h : member.isRelative = false) :
    member.complex = Complex.parse member.text := by
  rw [complex, text, if_neg (by simp [h]), if_neg (by simp [h])]

end QueryMember

/-- A selector that starts with a combinator is not supported. -/
theorem Complex.not_supported_of_sign (more : List Char) :
    (Complex.parse (String.ofList ('>' :: more))).isSupported = false := by
  have hnext : Token.next? ('>' :: more) = some (.combinator .child, more) := rfl
  refine Complex.not_supported_of_leads ?_
  rw [String.toList_ofList, Token.all_cons hnext, Token.leads]

theorem Written.head_ne {text : String} (h : Written text) : text.toList.head? ≠ some '>' := by
  intro hhead
  obtain ⟨more, hmore⟩ := List.head?_eq_some_iff.mp hhead
  have htext : text = String.ofList ('>' :: more) := by rw [← hmore, String.ofList_toList]
  have hsupported := h.supported
  rw [htext, Complex.not_supported_of_sign] at hsupported
  exact Bool.noConfusion hsupported

namespace QueryMember

variable {member : QueryMember} (h : Written member.selector)

include h

theorem text_isSealed : Sealed member.text.toList := by
  have hsign : Sealed "> ".toList := .of_all (by decide)
  unfold text
  split
  · rw [String.toList_append]
    exact hsign.append h.isSealed
  · exact h.isSealed

theorem exists_head_text : ∃ c more, member.text.toList = c :: more ∧ isWhite c = false := by
  unfold text
  split
  · rw [String.toList_append]
    exact ⟨'>', _, rfl, rfl⟩
  · exact h.exists_head

theorem exists_last_text : ∃ front c, member.text.toList = front ++ [c] ∧ isWhite c = false := by
  obtain ⟨front, c, hlast, hseam⟩ := h.exists_last
  have hwhite := SelectorText.isWhite_of_not_isSeam hseam
  unfold text
  split
  · refine ⟨"> ".toList ++ front, c, ?_, hwhite⟩
    rw [String.toList_append, hlast, List.append_assoc]
  · exact ⟨front, c, hlast, hwhite⟩

theorem trimmed_text : trimmed member.text = member.text := by
  obtain ⟨c, more, hhead, hc⟩ := exists_head_text h
  obtain ⟨front, d, hlast, hd⟩ := exists_last_text h
  rw [trimmed, trim_of_ends hhead hc hlast hd, String.ofList_toList]

/-- The text starts with the sign if and only if the member is relative. -/
theorem head_text_iff : member.text.toList.head? = some '>' ↔ member.isRelative = true := by
  unfold text
  split
  · rename_i hrelative
    rw [String.toList_append]
    exact iff_of_true rfl hrelative
  · rename_i habsolute
    exact iff_of_false h.head_ne habsolute

theorem complex_supported : member.complex.isSupported = true := by
  unfold complex
  split
  · exact Complex.isSupported_join .child rfl h.supported
  · exact h.supported

/-- By itself, a relative member is not supported. -/
theorem parse_text_supported_iff :
    (Complex.parse member.text).isSupported = true ↔ member.isRelative = false := by
  unfold text
  split
  · rename_i hrelative
    have hsign : "> " ++ member.selector =
        String.ofList ('>' :: ' ' :: member.selector.toList) := by
      rw [← String.toList_inj]
      simp
    rw [hsign, Complex.not_supported_of_sign]
    exact iff_of_false Bool.false_ne_true (by simp [hrelative])
  · rename_i habsolute
    rw [h.supported, Bool.eq_false_iff]
    exact iff_of_true rfl habsolute

end QueryMember

/-! ### Reading -/

namespace QueryMember

/-- Text in front of a list is text in front of its first member. -/
theorem append_intercalate (front first : String) (more : List String) :
    front ++ ", ".intercalate (first :: more) = ", ".intercalate ((front ++ first) :: more) := by
  cases more with
  | nil => rw [String.intercalate_singleton, String.intercalate_singleton]
  | cons second others =>
    rw [String.intercalate_cons_cons, String.intercalate_cons_cons]
    simp only [String.append_assoc]

theorem list_eq_append (first : QueryMember) (more : List QueryMember) :
    ∃ back, list (first :: more) = first.text ++ back := by
  have hfront := append_intercalate first.text "" (more.map text)
  rw [String.append_empty] at hfront
  exact ⟨_, hfront.symm⟩

section Reading

variable {first : QueryMember} {more : List QueryMember}
  (h : ∀ member ∈ first :: more, Written member.selector)

include h

/-- The list has no white space at its ends. -/
theorem trimmed_list : trimmed (list (first :: more)) = list (first :: more) := by
  obtain ⟨c, rest, hhead, hc⟩ := exists_head_text (h first List.mem_cons_self)
  obtain ⟨back, hstart⟩ := list_eq_append first more
  obtain ⟨front, last, hlast, hend⟩ :=
    exists_last_member (List.cons_ne_nil first.text (more.map text))
  rw [← List.map_cons] at hlast hend
  obtain ⟨member, hmember, rfl⟩ := List.mem_map.mp hlast
  obtain ⟨before, d, htext, hd⟩ := exists_last_text (h member hmember)
  have hcons : (list (first :: more)).toList = c :: (rest ++ back.toList) := by
    rw [hstart, String.toList_append, hhead, List.cons_append]
  have hback : (list (first :: more)).toList = (front.toList ++ before) ++ [d] := by
    rw [list, hend, String.toList_append, htext, List.append_assoc]
  rw [trimmed, trim_of_ends hcons hc hback hd, String.ofList_toList]

/-- The scope is put in front of the first member, and of no other. -/
theorem queryList_list : Document.Family.queryList (list (first :: more)) =
    first.complex :: more.map fun member => Complex.parse member.text := by
  have hfirst := h first List.mem_cons_self
  have hothers : ∀ other ∈ more.map text, Sealed other.toList ∧ trimmed other = other := by
    intro other hother
    obtain ⟨member, hmember, rfl⟩ := List.mem_map.mp hother
    have hwritten := h member (List.mem_cons_of_mem _ hmember)
    exact ⟨text_isSealed hwritten, trimmed_text hwritten⟩
  have hread : ∀ front : String, Sealed front.toList → trimmed front = front →
      SelectorList.parse (", ".intercalate (front :: more.map text)) =
        Complex.parse front :: more.map fun member => Complex.parse member.text := by
    intro front hsealed htrimmed
    rw [SelectorList.parse_intercalate (List.cons_ne_nil _ _)
      (List.forall_mem_cons.mpr ⟨hsealed, fun other hother => (hothers other hother).1⟩)
      (List.forall_mem_cons.mpr ⟨htrimmed, fun other hother => (hothers other hother).2⟩),
      List.map_cons, List.map_map]
    rfl
  have hhead : (list (first :: more)).toList.head? = first.text.toList.head? := by
    obtain ⟨c, rest, hcons, -⟩ := exists_head_text hfirst
    obtain ⟨back, hstart⟩ := list_eq_append first more
    rw [hstart, String.toList_append, hcons, List.cons_append, List.head?_cons, List.head?_cons]
  rw [Document.Family.queryList, hhead]
  by_cases hrelative : first.isRelative = true
  · have hscoped : ":scope " ++ first.text = ":scope > " ++ first.selector := by
      rw [text, if_pos hrelative, ← String.append_assoc]
      rfl
    have hsigns : Sealed ":scope > ".toList := .of_all (by decide)
    have hsealed : Sealed (":scope > " ++ first.selector).toList := by
      rw [String.toList_append]
      exact hsigns.append hfirst.isSealed
    rw [if_pos ((head_text_iff hfirst).mpr hrelative), list, List.map_cons, append_intercalate,
      hscoped, hread _ hsealed (hfirst.trimmed_append rfl (by decide)), hfirst.parse_scoped,
      complex, if_pos hrelative]
  · have htext : first.text = first.selector := if_neg hrelative
    rw [if_neg (mt (head_text_iff hfirst).mp hrelative), list, List.map_cons,
      hread _ (text_isSealed hfirst) (trimmed_text hfirst), htext, complex, if_neg hrelative]

/-- The list is supported if no member but the first is relative. -/
theorem list_supported_iff :
    (Document.Family.queryList (list (first :: more))).isSupported = true ↔
      more.any isRelative = false := by
  have hfirst := complex_supported (h first List.mem_cons_self)
  have hmore : ∀ member ∈ more,
      (Complex.parse member.text).isSupported = true ↔ member.isRelative = false :=
    fun member hmember => parse_text_supported_iff (h member (List.mem_cons_of_mem _ hmember))
  rw [queryList_list h, List.any_eq_false]
  simp only [SelectorList.isSupported, List.isEmpty_cons, Bool.not_false, Bool.true_and,
    List.all_cons, hfirst, List.all_map, List.all_eq_true, Function.comp_apply,
    Bool.not_eq_true]
  exact forall₂_congr hmore

end Reading

end QueryMember

/-! ### Queries -/

namespace Document

variable (doc : Document) (scope : Nat)

/-- What the query of one member finds. -/
theorem mem_query_member {member : QueryMember} (h : Written member.selector) :
    ∃ found, doc.page.queryAll scope member.text = .ok found ∧ ∀ n, n ∈ found ↔
      (doc.isElement n = true ∧ doc.contains scope n = true ∧ n ≠ scope) ∧
        member.complex.matches doc.family.tree (scopeOf scope) n = true := by
  have hread := QueryMember.queryList_list (List.forall_mem_singleton.mpr h)
  rw [QueryMember.list, List.map_singleton, String.intercalate_singleton, List.map_nil] at hread
  refine mem_queryAll_iff doc scope ?_ (QueryMember.complex_supported h)
  rw [QueryMember.trimmed_text h, hread]

section Lists

variable {first : QueryMember} {more : List QueryMember}
  (h : ∀ member ∈ first :: more, Written member.selector)

include h

theorem queryAll_refused (hany : more.any QueryMember.isRelative = true) :
    doc.page.queryAll scope (QueryMember.list (first :: more)) =
      .error (.unsupported (QueryMember.list (first :: more))) := by
  have hrefused : ¬ (Family.queryList (QueryMember.list (first :: more))).isSupported = true := by
    rw [QueryMember.list_supported_iff h, hany]
    exact Bool.noConfusion
  rw [queryAll_eq, QueryMember.trimmed_list h, if_neg hrefused]

theorem mem_query_members (hany : more.any QueryMember.isRelative = false) :
    ∃ nodes, doc.page.queryAll scope (QueryMember.list (first :: more)) = .ok nodes ∧
      ∀ n, n ∈ nodes ↔ ∃ member ∈ first :: more,
        ∃ found, doc.page.queryAll scope member.text = .ok found ∧ n ∈ found := by
  have hsupported := (QueryMember.list_supported_iff h).mpr hany
  obtain ⟨nodes, hquery, hnodes⟩ :=
    mem_queryAll_list doc scope (congrArg Family.queryList (QueryMember.trimmed_list h)) hsupported
  refine ⟨nodes, hquery, fun n => ?_⟩
  have hmore : ∀ member ∈ more, member.complex = Complex.parse member.text := by
    intro member hmember
    have habsolute := List.any_eq_false.mp hany member hmember
    exact QueryMember.complex_of_absolute (Bool.eq_false_iff.mpr habsolute)
  rw [hnodes, QueryMember.queryList_list h, ← List.map_congr_left hmore, ← List.map_cons]
  constructor
  · rintro ⟨hn, sel, hsel, hmatches⟩
    obtain ⟨member, hmember, rfl⟩ := List.mem_map.mp hsel
    obtain ⟨found, hown, hfound⟩ := doc.mem_query_member scope (h member hmember)
    exact ⟨member, hmember, found, hown, (hfound n).mpr ⟨hn, hmatches⟩⟩
  · rintro ⟨member, hmember, found, hown, hfound⟩
    obtain ⟨others, hother, hiff⟩ := doc.mem_query_member scope (h member hmember)
    obtain rfl : found = others := Except.ok.inj (hown.symm.trans hother)
    obtain ⟨hn, hmatches⟩ := (hiff n).mp hfound
    exact ⟨hn, member.complex, List.mem_map_of_mem hmember, hmatches⟩

end Lists

/--
**A list finds what its members find**, in tree order and each element once, as long as no member
but the first is relative to the scope.  If a later one is, then its query succeeds by itself, and
the list is refused.
-/
theorem queryAll_members {members : List QueryMember} (hsome : members ≠ [])
    (hwritten : ∀ member ∈ members, Written member.selector) :
    (∀ member ∈ members, ∃ found, doc.page.queryAll scope member.text = .ok found) ∧
    if members.tail.any QueryMember.isRelative then
      doc.page.queryAll scope (QueryMember.list members) =
        .error (.unsupported (QueryMember.list members))
    else ∃ nodes, doc.page.queryAll scope (QueryMember.list members) = .ok nodes ∧
      nodes.Pairwise doc.Before ∧ nodes.Nodup ∧ ∀ n, n ∈ nodes ↔ ∃ member ∈ members,
        ∃ found, doc.page.queryAll scope member.text = .ok found ∧ n ∈ found := by
  refine ⟨fun member hmember => ?_, ?_⟩
  · obtain ⟨found, hquery, -⟩ := doc.mem_query_member scope (hwritten member hmember)
    exact ⟨found, hquery⟩
  obtain ⟨first, more, rfl⟩ := List.exists_cons_of_ne_nil hsome
  rw [List.tail_cons]
  cases hany : more.any QueryMember.isRelative with
  | true => exact doc.queryAll_refused scope hwritten hany
  | false =>
    obtain ⟨nodes, hquery, hnodes⟩ := doc.mem_query_members scope hwritten hany
    have horder := (pairwise_before doc.size scope).sublist (queryAll_sublist hquery)
    exact ⟨nodes, hquery, horder, horder.imp Before.ne, hnodes⟩

/-- The children of the box that are paragraphs, and all spans below it. -/
theorem queryAll_members_pair :
    let doc := Engine.pairDocument
    let members : List QueryMember := [⟨true, "p"⟩, ⟨false, "span"⟩]
    members ≠ [] ∧ (∀ member ∈ members, Written member.selector) ∧
      ∃ nodes, doc.page.queryAll 2 (QueryMember.list members) = .ok nodes ∧
        nodes.Pairwise doc.Before ∧ nodes.Nodup ∧ ∀ n, n ∈ nodes ↔ ∃ member ∈ members,
          ∃ found, doc.page.queryAll 2 member.text = .ok found ∧ n ∈ found := by
  intro doc members
  have hp : Canonical "p" := .of_type (by cbv) (by cbv)
  have hspan : Canonical "span" := .of_type (by cbv) (by cbv)
  have hsome : members ≠ [] := List.cons_ne_nil _ _
  have hwritten : ∀ member ∈ members, Written member.selector :=
    List.forall_mem_cons.mpr ⟨hp.written, List.forall_mem_singleton.mpr hspan.written⟩
  exact ⟨hsome, hwritten, (queryAll_members doc 2 hsome hwritten).2⟩

/--
**A later member that is relative** makes the query fail: the paragraphs and the spans that are
children of the box are found by themselves, but not together.
-/
theorem relative_members_refused :
    let doc := Engine.pairDocument
    let members : List QueryMember := [⟨true, "p"⟩, ⟨true, "span"⟩]
    (∀ member ∈ members, Written member.selector) ∧ QueryMember.list members = "> p, > span" ∧
      (∃ found, doc.page.queryAll 2 "> p" = .ok found ∧ 3 ∈ found) ∧
      (∃ found, doc.page.queryAll 2 "> span" = .ok found ∧ 4 ∈ found) ∧
      doc.page.queryAll 2 "> p, > span" = .error (.unsupported "> p, > span") := by
  intro doc members
  have hp : Complex.parse "p" = ⟨[.type "p"], []⟩ := by cbv
  have hspan : Complex.parse "span" = ⟨[.type "span"], []⟩ := by cbv
  have hwritten : ∀ member ∈ members, Written member.selector :=
    List.forall_mem_cons.mpr ⟨(Canonical.of_type hp (by cbv)).written,
      List.forall_mem_singleton.mpr (Canonical.of_type hspan (by cbv)).written⟩
  have hlist : QueryMember.list members = "> p, > span" := by decide
  have hrefused := doc.queryAll_refused 2 hwritten rfl
  obtain ⟨paragraphs, hparagraphs, hp3⟩ :=
    doc.mem_query_member 2 (hwritten ⟨true, "p"⟩ List.mem_cons_self)
  obtain ⟨spans, hspans, hspan4⟩ := doc.mem_query_member 2
    (hwritten ⟨true, "span"⟩ (List.mem_cons_of_mem _ List.mem_cons_self))
  rw [show (⟨true, "p"⟩ : QueryMember).text = "> p" by decide] at hparagraphs
  rw [show (⟨true, "span"⟩ : QueryMember).text = "> span" by decide] at hspans
  refine ⟨hwritten, hlist, ⟨paragraphs, hparagraphs, (hp3 3).mpr ⟨by decide, ?_⟩⟩,
    ⟨spans, hspans, (hspan4 4).mpr ⟨by decide, ?_⟩⟩, hlist ▸ hrefused⟩
  · rw [QueryMember.complex, if_pos rfl, hp]
    decide
  · rw [QueryMember.complex, if_pos rfl, hspan]
    decide

end Document

end CosmeticFilter
