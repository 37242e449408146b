/-
Members of the selector lists of rules.

A member of a list is a selector without commas, a pseudo-element, or one behind the other.
On its way from a rule to a query its text is cut out of the list, trimmed, and cut at its
last two colons.  A cut at a comma is right if the members before it close what they open:
then the scan that looks for commas stands at the top again.  The cut at the colons is right
for a member with a pseudo-element, whose name holds no colon; and for a selector alone if
there are no two colons in a row in it, as there may be in an attribute value.
-/
import CosmeticFilter.Proofs.Commas
import CosmeticFilter.Proofs.Standard

namespace CosmeticFilter

open CosmeticFilter.Text

/-! ### Cutting at colons -/

namespace SelectorText

/-- Two colons in a row. -/
def colons : List Char :=
  [':', ':']

theorem before?_of_no_colons {cs : List Char} (h : ¬ colons <:+: cs) :
    dropPseudoElement.before? cs = none := by
  induction cs with
  | nil => rfl
  | cons c rest ih =>
    have hrest : ¬ colons <:+: rest := fun hpart =>
      h (hpart.trans (List.suffix_cons c rest).isInfix)
    rw [dropPseudoElement.before?, ih hrest]
    refine if_neg ?_
    rintro ⟨rfl, hhead⟩
    obtain ⟨more, rfl⟩ := List.head?_eq_some_iff.mp hhead
    exact h ⟨[], more, rfl⟩

theorem no_colons_of_not_mem {cs : List Char} (h : ':' ∉ cs) : ¬ colons <:+: cs :=
  fun hpart => h (hpart.subset (by decide))

/-- Without two colons in a row nothing is cut off. -/
theorem dropPseudoElement_of_no_colons {cs : List Char} (h : ¬ colons <:+: cs) :
    dropPseudoElement cs = cs := by
  rw [dropPseudoElement, before?_of_no_colons h, Option.getD_none]

/-- What stands behind the last two colons is cut off with them. -/
theorem dropPseudoElement_append (front : List Char) {name : List Char} (hname : ':' ∉ name) :
    dropPseudoElement (front ++ (colons ++ name)) = front := by
  have hbefore : dropPseudoElement.before? (front ++ (colons ++ name)) = some front := by
    induction front with
    | nil =>
      have hhead : name.head? ≠ some ':' := fun hhead => hname (List.mem_of_head? hhead)
      have hlater : dropPseudoElement.before? (':' :: name) = none := by
        rw [dropPseudoElement.before?, before?_of_no_colons (no_colons_of_not_mem hname)]
        exact if_neg fun hboth => hhead hboth.2
      show dropPseudoElement.before? (':' :: ':' :: name) = some []
      rw [dropPseudoElement.before?, hlater]
      exact if_pos ⟨rfl, rfl⟩
    | cons c front ih =>
      rw [List.cons_append, dropPseudoElement.before?, ih]
  rw [dropPseudoElement, hbefore, Option.getD_some]

end SelectorText

/-! ### Members -/

/-- A supported selector without commas. -/
structure IsSelector (text : String) : Prop where
  supported : (SelectorList.parse text).isSupported = true
  comma : ',' ∉ text.toList

/--
The text is a member of a selector list, and stands for a selector; a pseudo-element without
one stands for none.
-/
inductive Member : List Char → Option String → Prop
  | selector {text : String} (h : IsSelector text) : Member text.toList (some text)
  | styled {text name : String} {back : List Char} (h : IsSelector text)
      (hname : Token.IsName name) (hback : ∀ c ∈ back, isWhite c = true) :
      Member (text.toList ++ (SelectorText.colons ++ (name.toList ++ back))) (some text)
  | bare {front back : List Char} {name : String} (hfront : ∀ c ∈ front, isWhite c = true)
      (hname : Token.IsName name) (hback : ∀ c ∈ back, isWhite c = true) :
      Member (front ++ (SelectorText.colons ++ (name.toList ++ back))) none

/-- There is more than white space in a selector. -/
theorem IsSelector.filled {text : String} (h : IsSelector text) : trim text.toList ≠ [] := by
  have hsupported := h.supported
  rw [← SelectorList.parse_trimmed] at hsupported
  have hfilled := SelectorList.filled_of_supported hsupported
  rwa [trimmed, String.toList_ofList] at hfilled

namespace Member

variable {cs : List Char} {text? : Option String}

theorem isSelector {text : String} (h : Member cs (some text)) : IsSelector text := by
  cases h with
  | selector h => exact h
  | styled h _ _ => exact h

theorem not_mem_name {name : String} (hname : Token.IsName name) {c : Char}
    (hc : Token.isNameChar c = false) : c ∉ name.toList := by
  intro hmem
  simp [hname.letters c hmem] at hc

theorem not_mem_white {back : List Char} (hback : ∀ c ∈ back, isWhite c = true) {c : Char}
    (hc : isWhite c = false) : c ∉ back := by
  intro hmem
  simp [hback c hmem] at hc

/-- The name of a pseudo-element and what follows it hold neither colons nor commas. -/
theorem not_mem_behind {name : String} (hname : Token.IsName name) {back : List Char}
    (hback : ∀ c ∈ back, isWhite c = true) {c : Char} (hc : c = ':' ∨ c = ',') :
    c ∉ name.toList ++ back := by
  rw [List.mem_append, not_or]
  rcases hc with rfl | rfl
  · exact ⟨not_mem_name hname (by decide), not_mem_white hback (by decide)⟩
  · exact ⟨not_mem_name hname (by decide), not_mem_white hback (by decide)⟩

theorem comma (h : Member cs text?) : ',' ∉ cs := by
  have hcolons : ',' ∉ SelectorText.colons := by decide
  cases h with
  | selector h => exact h.comma
  | styled h hname hback =>
    have hbehind := not_mem_behind hname hback (c := ',') (.inr rfl)
    simp only [List.mem_append, not_or] at hbehind ⊢
    exact ⟨h.comma, hcolons, hbehind⟩
  | bare hfront hname hback =>
    have hbehind := not_mem_behind hname hback (c := ',') (.inr rfl)
    simp only [List.mem_append, not_or] at hbehind ⊢
    exact ⟨not_mem_white hfront (by decide), hcolons, hbehind⟩

/-- At the start of a selector its text is that of the member without its pseudo-element. -/
theorem resolveProperty?_eq (member : List Char) :
    resolveProperty? "" (trimmed (String.ofList member)) =
      if SelectorText.dropPseudoElement (trim member) = [] then none
      else some (String.ofList (SelectorText.dropPseudoElement (trim member))) := by
  have hincomplete : SelectorText.isIncomplete "" = true := rfl
  unfold resolveProperty?
  simp only [hincomplete, if_true, trimmed, String.toList_ofList, List.isEmpty_iff,
    SelectorText.qualify, Bool.true_or, String.empty_append]

/-- Behind a front that is not cut, the pseudo-element of a member is cut off. -/
theorem dropPseudoElement_trim {front : List Char} {name : String} {back : List Char}
    (hname : Token.IsName name) (hback : ∀ c ∈ back, isWhite c = true) {left : List Char}
    (hleft : trimLeft (front ++ (SelectorText.colons ++ (name.toList ++ back))) =
      left ++ (SelectorText.colons ++ (name.toList ++ back))) :
    SelectorText.dropPseudoElement
      (trim (front ++ (SelectorText.colons ++ (name.toList ++ back)))) = left := by
  have hcolon : ':' ∉ trimRight (name.toList ++ back) := fun hmem =>
    not_mem_behind hname hback (.inl rfl) ((trimRight_front _).subset hmem)
  have hright : trimRight (left ++ (SelectorText.colons ++ (name.toList ++ back))) =
      left ++ (SelectorText.colons ++ trimRight (name.toList ++ back)) := by
    have hwhite : isWhite ':' = false := by decide
    have hsplit : left ++ (SelectorText.colons ++ (name.toList ++ back)) =
        (left ++ [':']) ++ ':' :: (name.toList ++ back) := by simp [SelectorText.colons]
    rw [hsplit, trimRight_append hwhite]
    simp [SelectorText.colons]
  rw [trim, hleft, hright, SelectorText.dropPseudoElement_append left hcolon]

/--
**What is made of the text of a member**: nothing of a mere pseudo-element, and else the selector,
if it is not one that holds two colons in a row itself.
-/
theorem resolve (h : Member cs text?)
    (hcolons : ∀ text, cs = text.toList → IsSelector text → ¬ SelectorText.colons <:+: cs) :
    (resolveProperty? "" (trimmed (String.ofList cs))).map trimmed = text?.map trimmed := by
  rw [resolveProperty?_eq]
  cases h with
  | @selector text h =>
    have hnone : ¬ SelectorText.colons <:+: trim text.toList :=
      fun hpart => hcolons text rfl h (hpart.trans (trim_part _))
    rw [SelectorText.dropPseudoElement_of_no_colons hnone, if_neg h.filled, Option.map_some,
      Option.map_some]
    simp [trimmed, trim_trim]
  | @styled text name back h hname hback =>
    have hfilled : trimLeft text.toList ≠ [] := fun hnil => h.filled (by rw [trim, hnil]; rfl)
    rw [dropPseudoElement_trim hname hback (trimLeft_append hfilled _), if_neg hfilled,
      Option.map_some, Option.map_some, trimmed, trimmed, String.toList_ofList, trim_trimLeft]
  | @bare front back name hfront hname hback =>
    have hleft : trimLeft (front ++ (SelectorText.colons ++ (name.toList ++ back))) =
        [] ++ (SelectorText.colons ++ (name.toList ++ back)) := by
      have hcolon : isWhite ':' = false := by decide
      rw [trimLeft_white hfront]
      exact List.dropWhile_cons_of_neg (by simp [hcolon])
    rw [dropPseudoElement_trim hname hback hleft]
    rfl

end Member

end CosmeticFilter
