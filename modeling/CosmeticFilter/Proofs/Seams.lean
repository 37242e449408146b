/-
Joined texts are joined selectors.

A text behind another one is joined to it by a look at the two characters at the seam: is one of
them white or a sign?  What the joined text means is decided by the reader of the whole.  For
selectors as they are written the two agree.  Their names are in ASCII, so that the characters at
their ends are letters and brackets, and no name and no argument goes on across the seam; the
combinator at the seam is what is written there, or a descendant if nothing is.

So what the joined selector matches is the end of a row for the second selector, and the start of
the row stands to a match of the first one as the combinator says.  The end of the row does so as
well, if none of the combinators in the second selector leads on from where the one at the seam
has led to.
-/
import CosmeticFilter.Proofs.Continuations
import CosmeticFilter.Selector.Qualify

namespace CosmeticFilter

open CosmeticFilter.Text

/-! ### Ends of texts -/

/-- A supported selector that is read back from its own text, with names in ASCII. -/
structure Complex.Legible (sel : Complex) : Prop where
  supported : sel.isSupported = true
  readBack : Complex.parse sel.print = sel
  ascii : ∀ cond ∈ sel.conditions, ∀ name, cond.name? = some name →
    ∀ c ∈ name.toList, c.toNat < 128

namespace SelectorText

theorem not_isSeam_of_isNameChar {c : Char} (hname : Token.isNameChar c = true)
    (hascii : c.toNat < 128) : isSeam c = false := by
  have hnone : ∀ k < 128, Token.isNameChar (Char.ofNat k) = true →
      isSeam (Char.ofNat k) = false := by decide
  have hc := hnone c.toNat hascii
  rw [Char.ofNat_toNat] at hc
  exact hc hname

theorem isSeam_of_spelt {comb : Combinator} {sign : List Char} (h : comb.IsSpelt sign) :
    ∀ c ∈ sign, isSeam c = true := by
  intro c hc
  rcases h.letters c hc with hblank | hsign
  · simp [isSeam, isWhite_of_isBlank hblank]
  · have hsigns : (">+~".toList.all isSeam) = true := by decide
    exact List.all_eq_true.mp hsigns c hsign

theorem isIncomplete_append (front : String) {comb : Combinator} {sign : String}
    (h : comb.IsSpelt sign.toList) : isIncomplete (front ++ sign) = true := by
  obtain ⟨before, c, hlast⟩ := (List.eq_nil_or_concat sign.toList).resolve_left h.1
  have hc : isSeam c = true := isSeam_of_spelt h c (by simp [hlast])
  rw [isIncomplete, String.toList_append, hlast, List.concat_eq_append, ← List.append_assoc,
    List.getLast?_concat, Option.all_some, hc]

theorem startsWithSeam_append {comb : Combinator} {sign : String} (h : comb.IsSpelt sign.toList)
    (back : String) : startsWithSeam (sign ++ back) = true := by
  obtain ⟨c, more, hhead⟩ := List.exists_cons_of_ne_nil h.1
  have hc : isSeam c = true := isSeam_of_spelt h c (by simp [hhead])
  rw [startsWithSeam, String.toList_append, hhead, List.cons_append, List.head?_cons,
    Option.any_some, hc]

end SelectorText

namespace Complex.Legible

open SelectorText

variable {sel : Complex} (h : sel.Legible)

include h

theorem isPrintable : sel.IsPrintable := by
  have hsupported : (Complex.parse sel.print).isSupported = true := by
    rw [h.readBack]
    exact h.supported
  exact h.readBack ▸ isPrintable_parse hsupported

/-- The letters of a name relate nothing. -/
theorem not_isSeam {cond : Simple} (hcond : cond ∈ sel.conditions) {name : String}
    (hname : cond.name? = some name) : ∀ c ∈ name.toList, isSeam c = false := by
  intro c hc
  have hletters := ((h.isPrintable.printable cond hcond).isName hname).letters c hc
  exact not_isSeam_of_isNameChar hletters (h.ascii cond hcond name hname c hc)

/-- The text is complete. -/
theorem not_isIncomplete : isIncomplete sel.print = false := by
  have hsigns : ("*])te".toList.all fun c => !isSeam c) = true := by decide
  obtain ⟨front, c, hlast, hc⟩ := exists_last h.supported (P := fun c => isSeam c = false)
    (fun cond hcond name hname =>
      ⟨((h.isPrintable.printable cond hcond).isName hname).filled, h.not_isSeam hcond hname⟩)
    fun c hc => by simpa using List.all_eq_true.mp hsigns c hc
  rw [isIncomplete, hlast, List.getLast?_concat, Option.all_some, hc]

/-- The text does not start with a combinator. -/
theorem not_startsWithSeam : startsWithSeam sel.print = false := by
  have hsigns : ("*.#[:".toList.all fun c => !isSeam c) = true := by decide
  obtain ⟨cond, back, hcond, hprint⟩ := h.isPrintable.exists_first
  obtain ⟨c, more, hcons, hhead⟩ := Token.exists_head_print (h.isPrintable.printable cond hcond)
  have hc : isSeam c = false := by
    rcases hhead with hsign | ⟨name, rfl, hname, -⟩
    · simpa using List.all_eq_true.mp hsigns c hsign
    · exact h.not_isSeam hcond rfl c hname
  rw [startsWithSeam, hprint, hcons, List.cons_append, List.head?_cons, Option.any_some, hc]

end Complex.Legible

/-! ### Joined texts -/

namespace SelectorText

variable {first second : Complex} (hfirst : first.Legible) (hsecond : second.Legible)

include hfirst hsecond

/-- Without a combinator at the seam the second selector is about descendants. -/
theorem parse_qualify :
    Complex.parse (qualify second.print first.print) = first.join .descendant second := by
  have hspelt : Combinator.descendant.IsSpelt " ".toList :=
    ⟨by decide, [' '], [], by simp [isBlank], rfl⟩
  have hseam : ¬(isIncomplete first.print || startsWithSeam second.print) = true := by
    simp [hfirst.not_isIncomplete, hsecond.not_startsWithSeam]
  rw [qualify, if_neg hseam, String.append_assoc]
  exact hsecond.isPrintable.parse_join hfirst.isPrintable hspelt

variable {comb : Combinator} {sign : String} (hspelt : comb.IsSpelt sign.toList)

include hspelt

theorem parse_qualify_front :
    Complex.parse (qualify second.print (first.print ++ sign)) = first.join comb second := by
  have hseam : (isIncomplete (first.print ++ sign) || startsWithSeam second.print) = true := by
    rw [isIncomplete_append _ hspelt, Bool.true_or]
  rw [qualify, if_pos hseam, String.append_assoc]
  exact hsecond.isPrintable.parse_join hfirst.isPrintable hspelt

theorem parse_qualify_back :
    Complex.parse (qualify (sign ++ second.print) first.print) = first.join comb second := by
  have hseam : (isIncomplete first.print || startsWithSeam (sign ++ second.print)) = true := by
    rw [startsWithSeam_append hspelt, Bool.or_true]
  rw [qualify, if_pos hseam]
  exact hsecond.isPrintable.parse_join hfirst.isPrintable hspelt

end SelectorText

/-! ### How far a row leads -/

/--
The inner combinator does not lead on: what stands to an element as it says, where that element
stands to another one as the outer combinator says, does so as well.
-/
def Combinator.absorbs : Combinator → Combinator → Bool
  | .descendant, _ => true
  | .child, inner | .sibling, inner => inner == .adjacent || inner == .sibling
  | .adjacent, _ => false

namespace Document

variable {doc : Document} {l m n : Nat}

theorem parent?_of_previous (h : doc.family.tree.previous? n = some m) :
    doc.family.tree.parent? n = doc.family.tree.parent? m := by
  obtain ⟨p, hn, hm, -⟩ := exists_parent_of_previous h
  show (doc.parentNode? n).filter doc.isElement = (doc.parentNode? m).filter doc.isElement
  rw [hn, hm]

/-- The next sibling has the same ancestors, the same parent and one more sibling before it. -/
theorem relates_of_previous {comb : Combinator} (hcomb : comb ≠ .adjacent)
    (hprevious : doc.family.tree.previous? n = some m)
    (h : comb.Relates doc.family.tree l m) : comb.Relates doc.family.tree l n := by
  cases comb with
  | descendant =>
    obtain ⟨p, hparent, habove⟩ := Relation.TransGen.head'_iff.mp h
    rw [← parent?_of_previous hprevious] at hparent
    exact Relation.TransGen.head'_iff.mpr ⟨p, hparent, habove⟩
  | child => exact (parent?_of_previous hprevious).trans h
  | adjacent => exact absurd rfl hcomb
  | sibling => exact .head hprevious h

/-- What the outer combinator absorbs does not lead on. -/
theorem relates_of_absorbs {comb inner : Combinator} (habsorbs : comb.absorbs inner = true)
    (h : comb.Relates doc.family.tree l m) (hinner : inner.Relates doc.family.tree m n) :
    comb.Relates doc.family.tree l n := by
  have hcomb : comb ≠ .adjacent := by
    rintro rfl
    cases habsorbs
  cases inner with
  | descendant =>
    obtain rfl : comb = .descendant := by
      cases comb <;> first | rfl | cases habsorbs
    exact hinner.trans h
  | child =>
    obtain rfl : comb = .descendant := by
      cases comb <;> first | rfl | cases habsorbs
    exact .head hinner h
  | adjacent => exact relates_of_previous hcomb hinner h
  | sibling =>
    induction hinner using Relation.TransGen.head_induction_on with
    | single hprevious => exact relates_of_previous hcomb hprevious h
    | head hprevious _ ih => exact relates_of_previous hcomb hprevious ih

/-- So a row of absorbed combinators ends where it has begun, as far as the outer one can tell. -/
theorem relates_of_spans {scope : Option Nat} {comb : Combinator} {first : Compound}
    {rest : List (Combinator × Compound)}
    (hspans : Complex.Spans doc.family.tree scope first rest m n)
    (habsorbs : ∀ pair ∈ rest, comb.absorbs pair.1 = true)
    (h : comb.Relates doc.family.tree l m) : comb.Relates doc.family.tree l n := by
  induction rest generalizing first m with
  | nil =>
    obtain ⟨-, rfl⟩ := hspans
    exact h
  | cons pair more ih =>
    obtain ⟨hpair, hmore⟩ := List.forall_mem_cons.mp habsorbs
    obtain ⟨-, right, hleft, hbehind⟩ := hspans
    rw [Combinator.mem_leftOf_iff] at hleft
    exact ih hbehind hmore (relates_of_absorbs hpair h hleft)

end Document

/--
**Texts are joined as selectors.**  Two selectors that are read back from their texts, with names
in ASCII, are one selector when the second text is joined to the first one: with a descendant
between them, or with the combinator that is written at the end of the first text or at the start
of the second one.  Joined to no text a selector stays as it is.

What the joined selector matches, the second selector matches in a row of elements whose start
stands to a match of the first selector as the combinator says; and if the combinator absorbs
those in the second selector, the matched element does so, too.
-/
theorem qualify_joins {first second : Complex} (hfirst : first.Legible)
    (hsecond : second.Legible) :
    Complex.parse (SelectorText.qualify second.print first.print) =
      first.join .descendant second ∧
    (∀ (comb : Combinator) (sign : String), comb.IsSpelt sign.toList →
      Complex.parse (SelectorText.qualify second.print (first.print ++ sign)) =
        first.join comb second ∧
      Complex.parse (SelectorText.qualify (sign ++ second.print) first.print) =
        first.join comb second) ∧
    Complex.parse (SelectorText.qualify second.print "") = second ∧
    ∀ (doc : Document) (scope : Option Nat) (comb : Combinator) (n : Nat),
      (first.join comb second).matches doc.family.tree scope n = true →
      second.matches doc.family.tree scope n = true ∧
      ∃ l m row, first.matches doc.family.tree scope l = true ∧
        comb.Relates doc.family.tree l m ∧ Complex.IsRow doc.family.tree scope second row ∧
        row.head? = some m ∧ row.getLast? = some n ∧
        ((∀ pair ∈ second.rest, comb.absorbs pair.1 = true) →
          comb.Relates doc.family.tree l n) := by
  refine ⟨SelectorText.parse_qualify hfirst hsecond, fun comb sign hspelt =>
    ⟨SelectorText.parse_qualify_front hfirst hsecond hspelt,
      SelectorText.parse_qualify_back hfirst hsecond hspelt⟩, ?_, fun doc scope comb n h => ?_⟩
  · have hempty : SelectorText.qualify second.print "" = second.print := by
      rw [SelectorText.qualify, if_pos (by rfl), String.empty_append]
    rw [hempty, hsecond.readBack]
  · obtain ⟨l, hl, m, hleft, hspans⟩ := (Complex.matches_join first second comb n).mp h
    rw [Combinator.mem_leftOf_iff] at hleft
    obtain ⟨row, hrow, hhead, hlast⟩ := Complex.exists_spans_iff_exists_row.mp hspans
    exact ⟨(Complex.matches_iff_spans second n).mpr ⟨m, hspans⟩, l, m, row, hl, hleft, hrow, hhead,
      hlast, fun habsorbs => Document.relates_of_spans hspans habsorbs hleft⟩

/-- Elements of four kinds, each inside the one before. -/
def nestDocument : Document :=
  ((((Document.empty "https://example.com/").appendElement 0 "html").appendElement 1
    "a").appendElement 2 "b").appendElement 3 "c"

/-- The child of a box: the row is one element long, so it is the matched one that is a child. -/
theorem qualify_joins_child :
    let first : Complex := ⟨[.type "a"], []⟩
    let second : Complex := ⟨[.type "b"], []⟩
    first.Legible ∧ second.Legible ∧ Combinator.child.IsSpelt " >".toList ∧
      Complex.parse (SelectorText.qualify "b" "a >") = first.join .child second ∧
      (first.join .child second).matches nestDocument.family.tree none 3 = true ∧
      second.matches nestDocument.family.tree none 3 = true ∧
      (∀ pair ∈ second.rest, Combinator.child.absorbs pair.1 = true) ∧
      ∃ l, first.matches nestDocument.family.tree none l = true ∧
        Combinator.child.Relates nestDocument.family.tree l 3 := by
  intro first second
  have hfirst : first.Legible :=
    ⟨by decide, by cbv, by simp [first, Complex.conditions_eq, Simple.name?]⟩
  have hsecond : second.Legible :=
    ⟨by decide, by cbv, by simp [second, Complex.conditions_eq, Simple.name?]⟩
  have hspelt : Combinator.child.IsSpelt " >".toList :=
    ⟨by decide, [' '], [], by simp [isBlank], rfl⟩
  obtain ⟨-, hjoined, -, hmatched⟩ := qualify_joins hfirst hsecond
  have hmatch : (first.join .child second).matches nestDocument.family.tree none 3 = true := by
    decide
  have habsorbs : ∀ pair ∈ second.rest, Combinator.child.absorbs pair.1 = true := by simp [second]
  obtain ⟨hmatches, l, m, row, hl, -, -, -, -, hrelates⟩ :=
    hmatched nestDocument none .child 3 hmatch
  exact ⟨hfirst, hsecond, hspelt, (hjoined .child " >" hspelt).1, hmatch, hmatches, habsorbs, l, hl,
    hrelates habsorbs⟩

/-- Where the second selector leads on, the matched element is no child of a first match. -/
theorem matched_beyond_child :
    let first : Complex := ⟨[.type "a"], []⟩
    let second : Complex := ⟨[.type "b"], [(.descendant, [.type "c"])]⟩
    first.Legible ∧ second.Legible ∧ Combinator.child.IsSpelt ">".toList ∧
      (Complex.parse (SelectorText.qualify second.print (first.print ++ ">"))).matches
        nestDocument.family.tree none 4 = true ∧
      ¬∃ l, first.matches nestDocument.family.tree none l = true ∧
        Combinator.child.Relates nestDocument.family.tree l 4 := by
  intro first second
  have hfirst : first.Legible :=
    ⟨by decide, by cbv, by simp [first, Complex.conditions_eq, Simple.name?]⟩
  have hsecond : second.Legible :=
    ⟨by decide, by cbv, by simp [second, Complex.conditions_eq, Simple.name?]⟩
  have hspelt : Combinator.child.IsSpelt ">".toList := ⟨by decide, [], [], by simp, rfl⟩
  refine ⟨hfirst, hsecond, hspelt, ?_, ?_⟩
  · rw [SelectorText.parse_qualify_front hfirst hsecond hspelt]
    decide
  · rintro ⟨l, hl, hparent⟩
    obtain rfl : 3 = l := Option.some.inj hparent
    revert hl
    decide

end CosmeticFilter
