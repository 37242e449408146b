/-
Paths with more text behind them.

After a `has` the chain goes on from each of its candidates: the text that comes next stands
behind the path of the candidate, and the query for both starts from the candidate, too.  The
path reads as a selector that only the candidate meets.  So what the query finds are the
elements inside of the candidate that the text leads to: if it adds conditions to the path,
this is the candidate itself, and if it opens with a combinator, the ends of the rows that
stand to the candidate as the combinator asks.

A row that goes down from an element stays inside of it, and one that goes on to its siblings
never comes back.  So text that opens with a descendant or child combinator finds all that it
leads to, and any other finds nothing.
-/
import CosmeticFilter.Proofs.Rows
import CosmeticFilter.Proofs.Signposts

namespace CosmeticFilter

open CosmeticFilter.Text

/-! ### Continuations -/

/-- What stands between two `has`. -/
inductive Continuation where
  | same
  /-- More conditions on the same element. -/
  | suffix (text : String)
  /-- A combinator, as it is spelt, and a selector. -/
  | onward (comb : Combinator) (sign text : String)
  deriving DecidableEq, Repr

/-- The condition can stand behind others. -/
def Simple.isSuffix : Simple → Bool
  | .class _ | .id _ | .attribute _ | .attributeIs _ _ | .nthChild _ => true
  | _ => false

namespace Continuation

def text : Continuation → String
  | same => ""
  | suffix text => text
  | onward _ sign text => sign ++ text

/-- Nothing, a compound of classes, ids, attributes and places, or a canonical selector. -/
def WellSpelt : Continuation → Prop
  | same => True
  | suffix text => Canonical text ∧ (Complex.parse text).rest = [] ∧
      ∀ cond ∈ (Complex.parse text).first, cond.isSuffix = true
  | onward comb sign text => comb.IsSpelt sign.toList ∧ Canonical text

/-- The continuation goes down from the element. -/
def goesIn : Continuation → Bool
  | onward .descendant _ _ | onward .child _ _ => true
  | _ => false

/-- The selector, continued. -/
def extend (sel : Complex) : Continuation → Complex
  | same => sel
  | suffix text => (Complex.parse text).first.foldl Complex.addSimple sel
  | onward comb _ text => sel.join comb (Complex.parse text)

/-- The continuation leads from the one element to the other. -/
def Reaches (doc : Document) (a e : Nat) : Continuation → Prop
  | same => e = a
  | suffix text => e = a ∧
      Compound.matches doc.family.tree (some a) e (Complex.parse text).first = true
  | onward comb _ text => ∃ m, a ∈ comb.leftOf doc.family.tree m ∧
      Complex.Spans doc.family.tree (some a) (Complex.parse text).first (Complex.parse text).rest m e

end Continuation

/-! ### Reading -/

namespace Continuation.WellSpelt

variable {between : Continuation} (h : between.WellSpelt)

include h

/-- **What stands behind a selector** continues it. -/
theorem read (source : String) {sel : Complex} (hlast : sel.last ≠ []) :
    (Token.all between.text.toList).foldl (PartialComplex.add source) ⟨sel, none⟩ =
      ⟨between.extend sel, none⟩ := by
  cases between with
  | same =>
    rw [text, String.toList_empty, Token.all_nil]
    rfl
  | suffix text =>
    obtain ⟨htext, hsingle, -⟩ := h
    have htokens : (Complex.parse text).tokens = (Complex.parse text).first.map .simple := by
      simp [Complex.tokens, hsingle]
    rw [Continuation.text, htext.written.tokens, htokens, PartialComplex.addAll_compound]
    rfl
  | onward comb sign text =>
    obtain ⟨hspelt, htext⟩ := h
    rw [Continuation.text, String.toList_append, htext.written.read_behind source hlast hspelt]
    rfl

theorem endsName : Token.EndsName between.text.toList := by
  cases between with
  | same => exact Token.endsName_nil
  | suffix text =>
    obtain ⟨htext, hsingle, hsuffix⟩ := h
    have hprintable := htext.written.isPrintable
    obtain ⟨cond, more, hfirst⟩ := List.exists_cons_of_ne_nil
      (hprintable.filled _ List.mem_cons_self)
    have htype : cond.isType = false := by
      have hcond := hsuffix cond (by simp [hfirst])
      cases cond <;> first | rfl | cases hcond
    have hprint : text.toList = cond.print.toList ++
        more.flatMap fun cond => cond.print.toList := by
      rw [← htext.printed, Complex.print, hsingle, String.toList_append, Token.print_toList, hfirst]
      simp
    rw [Continuation.text, hprint]
    exact Token.endsName_print (hprintable.printable cond (by simp [Complex.conditions_eq, hfirst]))
      htype _
  | onward comb sign text =>
    obtain ⟨hspelt, -⟩ := h
    obtain ⟨c, more, hhead⟩ := List.exists_cons_of_ne_nil hspelt.1
    rw [Continuation.text, String.toList_append, hhead]
    intro d hd
    obtain rfl : c = d := Option.some.inj hd
    exact (hspelt.plain c (by simp [hhead])).2.2

theorem isSealed : Sealed between.text.toList := by
  cases between with
  | same => exact .nil
  | suffix text => exact h.1.written.isSealed
  | onward comb sign text =>
    rw [Continuation.text, String.toList_append]
    exact (Sealed.of_letters fun c hc => (h.1.plain c hc).1).append h.2.written.isSealed

theorem not_extended : isExtended between.text.toList = false := by
  cases between with
  | same => rfl
  | suffix text => exact h.1.not_extended
  | onward comb sign text =>
    have hcolon : ':' ∉ sign.toList := fun hmem => (h.1.plain _ hmem).2.1 rfl
    rw [Continuation.text, String.toList_append, isExtended_append hcolon, h.2.not_extended]

/-- The text is empty or has a canonical one at its end. -/
theorem eq_or_exists_last : between.text = "" ∨
    ∃ front last, between.text = front ++ last ∧ Canonical last := by
  cases between with
  | same => exact .inl rfl
  | suffix text => exact .inr ⟨"", text, by simp [Continuation.text], h.1⟩
  | onward comb sign text => exact .inr ⟨sign, text, rfl, h.2⟩

end Continuation.WellSpelt

/-! ### Matching -/

namespace Complex

variable {sel : Complex} {conds : Compound}

/-- More conditions are met by what matches before and meets them. -/
theorem matches_addAll {N : Type} [DecidableEq N] (tree : ElementTree N) (scope : Option N)
    (hlast : sel.last ≠ []) (hconds : conds ≠ []) (n : N) :
    (conds.foldl addSimple sel).matches tree scope n =
      (sel.matches tree scope n && Compound.matches tree scope n conds) := by
  have hcompound : ∀ compound : Compound, compound ≠ [] →
      Compound.matches tree scope n (compound ++ conds) =
        (Compound.matches tree scope n compound && Compound.matches tree scope n conds) := by
    intro compound hcompound
    have hleft : List.isEmpty compound = false := List.isEmpty_eq_false_iff.mpr hcompound
    have hright : List.isEmpty conds = false := List.isEmpty_eq_false_iff.mpr hconds
    have hboth : List.isEmpty (compound ++ conds) = false :=
      List.isEmpty_eq_false_iff.mpr (List.append_ne_nil_of_left_ne_nil hcompound conds)
    simp [Compound.matches, hleft, hright, hboth]
  rcases sel.eq_concat with hrest | ⟨left, comb, compound, rfl⟩
  · obtain ⟨first, rest⟩ := sel
    obtain rfl : rest = [] := hrest
    rw [PartialComplex.foldl_addSimple_first, matches_first, matches_first, hcompound first hlast]
  · rw [last_concat] at hlast
    rw [PartialComplex.foldl_addSimple_concat, matches_concat, matches_concat,
      hcompound compound hlast, Bool.and_right_comm]

theorem isSupported_addAll (hsel : sel.isSupported = true)
    (hconds : ∀ cond ∈ conds, cond.isSupported = true) :
    (conds.foldl addSimple sel).isSupported = true := by
  rcases sel.eq_concat with hrest | ⟨left, comb, compound, rfl⟩
  · obtain ⟨first, rest⟩ := sel
    obtain rfl : rest = [] := hrest
    rw [PartialComplex.foldl_addSimple_first]
    simp_all [isSupported, compounds]
  · rw [PartialComplex.foldl_addSimple_concat]
    simp only [isSupported, compounds, concat, List.map_append, List.map_cons, List.map_nil,
      List.all_cons, List.all_append, List.all_nil, Bool.and_eq_true, Bool.and_true] at hsel ⊢
    obtain ⟨hfirst, hrest, hfilled, hcompound⟩ := hsel
    exact ⟨hfirst, hrest, by simp_all, hcompound, List.all_eq_true.mpr hconds⟩

end Complex

namespace Document

variable {doc : Document}

/-- Only elements stand on the left of something. -/
theorem isElement_of_leftOf {comb : Combinator} {left right : Nat}
    (h : left ∈ comb.leftOf doc.family.tree right) : doc.isElement left = true := by
  have hparent : ∀ {n p : Nat}, doc.family.tree.parent? n = some p → doc.isElement p = true :=
    fun hparent => (Option.filter_eq_some_iff.mp hparent).2
  have hprevious : ∀ {n p : Nat}, doc.family.tree.previous? n = some p →
      doc.isElement p = true := by
    intro n p hprevious
    have hmem := List.mem_of_getLast? hprevious
    simp only [List.mem_filter, Bool.and_eq_true] at hmem
    exact hmem.2.2
  rw [Combinator.mem_leftOf_iff] at h
  cases comb with
  | descendant =>
    obtain ⟨n, -, hlast⟩ := Relation.TransGen.tail'_iff.mp h
    exact hparent hlast
  | child => exact hparent h
  | adjacent => exact hprevious h
  | sibling =>
    obtain ⟨n, -, hlast⟩ := Relation.TransGen.tail'_iff.mp h
    exact hprevious hlast

namespace PathSelector

variable {a : Nat} {sel : Complex} (hsel : doc.PathSelector a sel)
  {between : Continuation} (hbetween : between.WellSpelt)

include hsel hbetween

/-- The path of an element, continued, matches what the continuation leads to. -/
theorem matches_extend (hformed : doc.WellFormed) (ha : doc.isElement a = true) {e : Nat}
    (he : doc.isElement e = true) :
    (between.extend sel).matches doc.family.tree (some a) e = true ↔ between.Reaches doc a e := by
  have hone : ∀ m, doc.isElement m = true →
      (sel.matches doc.family.tree (some a) m = true ↔ m = a) := by
    intro m hm
    constructor
    · exact hsel.eq_of_matches hformed ha hm
    · rintro rfl
      exact hsel.holds _
  cases between with
  | same => exact hone e he
  | suffix text =>
    have hfilled := hbetween.1.written.isPrintable.filled _ List.mem_cons_self
    rw [Continuation.extend, Complex.matches_addAll _ _ hsel.ends hfilled, Bool.and_eq_true,
      hone e he]
    rfl
  | onward comb sign text =>
    rw [Continuation.extend, Complex.matches_join]
    constructor
    · rintro ⟨l, hl, m, hleft, hspans⟩
      obtain rfl := (hone l (isElement_of_leftOf hleft)).mp hl
      exact ⟨m, hleft, hspans⟩
    · rintro ⟨m, hleft, hspans⟩
      exact ⟨a, hsel.holds _, m, hleft, hspans⟩

theorem isSupported_extend : (between.extend sel).isSupported = true := by
  cases between with
  | same => exact hsel.supported
  | suffix text =>
    refine Complex.isSupported_addAll hsel.supported fun cond hcond => ?_
    exact (hbetween.1.written.plain cond (by simp [Complex.conditions_eq, hcond])).supported
  | onward comb sign text => exact Complex.isSupported_join comb hsel.supported hbetween.2.supported

end PathSelector

namespace WellFormed

variable (h : doc.WellFormed)

include h

variable (hsize : doc.size ≤ maxWord) {a : Nat} (ha : doc.isElement a = true)
  (hconnected : doc.isConnected a = true) {between : Continuation}
  (hbetween : between.WellSpelt)

include ha hbetween

omit h in
theorem continued_ends : (∃ more, (doc.page.path a ++ between.text).toList = ':' :: more) ∧
    ∃ front c, (doc.page.path a ++ between.text).toList = front ++ [c] ∧
      SelectorText.isSeam c = false := by
  obtain ⟨⟨more, hhead⟩, before, d, hlast, hd⟩ := path_ends ha
  refine ⟨⟨more ++ between.text.toList, by rw [String.toList_append, hhead, List.cons_append]⟩, ?_⟩
  rcases hbetween.eq_or_exists_last with hempty | ⟨front, last, hsplit, hcanonical⟩
  · exact ⟨before, d, by rw [hempty, String.append_empty, hlast], hd⟩
  · obtain ⟨inner, c, hc, hseam⟩ := hcanonical.written.exists_last
    refine ⟨(doc.page.path a).toList ++ (front.toList ++ inner), c, ?_, hseam⟩
    rw [hsplit, String.toList_append, String.toList_append, hc]
    simp

include hsize hconnected

/-- **A query for a path with more behind it** finds what lies inside, and is led to. -/
theorem mem_query_continued :
    ∃ nodes, doc.page.queryAll a (doc.page.path a ++ between.text) = .ok nodes ∧ ∀ n, n ∈ nodes ↔
      (doc.isElement n = true ∧ doc.contains a n = true ∧ n ≠ a) ∧ between.Reaches doc a n := by
  obtain ⟨sel, hsel⟩ := h.exists_pathSelector ha hconnected
  obtain ⟨⟨more, hhead⟩, front, c, hlast, hc⟩ := continued_ends ha hbetween
  have hparse : Complex.parse (doc.page.path a ++ between.text) = between.extend sel := by
    rw [Complex.parse, Complex.ofTokens, String.toList_append,
      h.read_pathSelector hsize hsel _ hbetween.endsName, hbetween.read _ hsel.ends]
    rfl
  have hsealed : Sealed (doc.page.path a ++ between.text).toList := by
    rw [String.toList_append]
    exact (h.path_isSealed ha).append hbetween.isSealed
  have hlist : Family.queryList (trimmed (doc.page.path a ++ between.text)) =
      [between.extend sel] := by
    rw [queryList_of_sealed hsealed hhead hlast hc, hparse]
  have hscope : scopeOf a = some a := if_pos (by simpa using h.ne_top ha)
  obtain ⟨nodes, hquery, hnodes⟩ :=
    mem_queryAll_iff doc a hlist (hsel.isSupported_extend hbetween)
  refine ⟨nodes, hquery, fun n => (hnodes n).trans ?_⟩
  rw [hscope]
  exact and_congr_right fun hn => hsel.matches_extend hbetween h ha hn.1

/-- These are the candidates of a link behind the text. -/
theorem mem_candidates_continued {n : Nat} :
    n ∈ Candidates.all doc.page (doc.page.path a ++ between.text) a ↔
      (doc.isElement n = true ∧ doc.contains a n = true ∧ n ≠ a) ∧ between.Reaches doc a n := by
  obtain ⟨-, front, c, hlast, hc⟩ := continued_ends ha hbetween
  obtain ⟨nodes, hquery, hnodes⟩ := h.mem_query_continued hsize ha hconnected hbetween
  rw [Candidates.all, SelectorText.complete_of_last hlast hc, hquery]
  exact hnodes n

end WellFormed

end Document

/-! ### Down and aside -/

section Steps

variable {N : Type} {tree : ElementTree N} {P : N → Prop}
  (hparent : ∀ n p, tree.parent? n = some p → P p → P n)
  (hprevious : ∀ n p, tree.previous? n = some p → P p → P n)

include hparent hprevious

/-- What children and next siblings inherit is kept by each combinator. -/
theorem Combinator.keeps {comb : Combinator} {left right : N} (h : left ∈ comb.leftOf tree right)
    (hleft : P left) : P right := by
  have hlinks : ∀ {link : N → Option N} {n : N}, (∀ n p, link n = some p → P p → P n) →
      Relation.TransGen (fun n p => link n = some p) n left → P n := by
    intro link n hlink hlinked
    induction hlinked using Relation.TransGen.head_induction_on with
    | single hlast => exact hlink _ _ hlast hleft
    | head hstep _ ih => exact hlink _ _ hstep ih
  rw [mem_leftOf_iff] at h
  cases comb with
  | descendant => exact hlinks hparent h
  | child => exact hparent right left h hleft
  | adjacent => exact hprevious right left h hleft
  | sibling => exact hlinks hprevious h

/-- So it is kept along a row. -/
theorem Complex.Spans.keeps [DecidableEq N] {scope : Option N} {first : Compound}
    {rest : List (Combinator × Compound)} {m n : N} (h : Spans tree scope first rest m n)
    (hm : P m) : P n := by
  induction rest generalizing first m with
  | nil =>
    obtain ⟨-, rfl⟩ := h
    exact hm
  | cons pair more ih =>
    obtain ⟨-, right, hleft, hspans⟩ := h
    exact ih hspans (Combinator.keeps hparent hprevious hleft hm)

end Steps

namespace Document

variable {doc : Document} {a : Nat}

theorem parentNode?_of_parent? {n p : Nat} (h : doc.family.tree.parent? n = some p) :
    doc.parentNode? n = some p :=
  (Option.filter_eq_some_iff.mp h).1

/-- An element and the one before it have the same parent, and are numbered in order. -/
theorem exists_parent_of_previous {n m : Nat} (h : doc.family.tree.previous? n = some m) :
    ∃ p, doc.parentNode? n = some p ∧ doc.parentNode? m = some p ∧ m < n := by
  have hmem := List.mem_of_getLast? h
  simp only [List.mem_filter, Bool.and_eq_true, decide_eq_true_eq] at hmem
  obtain ⟨hsibling, hlt, -⟩ := hmem
  have hparent : ∃ p, doc.parentNode? n = some p ∧ m ∈ doc.childrenOf p := by
    unfold Family.siblings at hsibling
    split at hsibling
    · rename_i p hp
      exact ⟨p, hp, childNodes_eq p ▸ hsibling⟩
    · simp at hsibling
  obtain ⟨p, hp, hm⟩ := hparent
  exact ⟨p, hp, mem_childrenOf.mp hm, hlt⟩

/-- The node lies inside of another one. -/
def Inside (doc : Document) (a n : Nat) : Prop :=
  doc.contains a n = true ∧ n ≠ a

theorem inside_iff_of_parent {n p : Nat} (hp : doc.parentNode? n = some p) :
    doc.Inside a n ↔ doc.contains a p = true := by
  rw [Inside, contains_parent hp]
  constructor
  · rintro ⟨rfl | h, hne⟩
    · exact absurd rfl hne
    · exact h
  · intro h
    refine ⟨.inr h, ?_⟩
    rintro rfl
    have hle := contains_le h
    have hlt := doc.parentNode?_lt hp
    omega

/-- Children and siblings of what lies inside do so, too. -/
theorem inside_of_parent (n p : Nat) (hp : doc.family.tree.parent? n = some p)
    (h : doc.Inside a p) : doc.Inside a n :=
  (inside_iff_of_parent (parentNode?_of_parent? hp)).mpr h.1

theorem inside_of_previous (n m : Nat) (hm : doc.family.tree.previous? n = some m)
    (h : doc.Inside a m) : doc.Inside a n := by
  obtain ⟨p, hn, hm, -⟩ := exists_parent_of_previous hm
  exact (inside_iff_of_parent hn).mpr ((inside_iff_of_parent hm).mp h)

/-- The node is a later sibling of another one, or lies inside of one. -/
def Beside (doc : Document) (a n : Nat) : Prop :=
  ∃ p s, doc.parentNode? a = some p ∧ doc.parentNode? s = some p ∧ a < s ∧
    doc.contains s n = true

theorem Beside.not_inside {n : Nat} (h : doc.Beside a n) : ¬ doc.Inside a n := by
  rintro ⟨hinside, -⟩
  obtain ⟨p, s, ha, hs, hlt, hn⟩ := h
  have heq := eq_of_contains_of_mem_childrenOf (mem_childrenOf.mpr ha) (mem_childrenOf.mpr hs)
    hinside hn
  omega

theorem beside_of_parent (n p : Nat) (hp : doc.family.tree.parent? n = some p)
    (h : doc.Beside a p) : doc.Beside a n := by
  obtain ⟨q, s, ha, hs, hlt, hinside⟩ := h
  exact ⟨q, s, ha, hs, hlt, (contains_parent (parentNode?_of_parent? hp)).mpr (.inr hinside)⟩

theorem beside_of_previous (n m : Nat) (hm : doc.family.tree.previous? n = some m)
    (h : doc.Beside a m) : doc.Beside a n := by
  obtain ⟨q, s, ha, hs, hlt, hinside⟩ := h
  obtain ⟨p, hn, hm, hless⟩ := exists_parent_of_previous hm
  rcases (contains_parent hm).mp hinside with rfl | habove
  · obtain rfl : p = q := Option.some.inj (hm.symm.trans hs)
    exact ⟨p, n, ha, hn, Nat.lt_trans hlt hless, contains_self n⟩
  · exact ⟨q, s, ha, hs, hlt, (contains_parent hn).mpr (.inr habove)⟩

theorem inside_of_ancestor {n : Nat}
    (h : Relation.TransGen (fun n p => doc.family.tree.parent? n = some p) n a) :
    doc.Inside a n := by
  induction h using Relation.TransGen.head_induction_on with
  | single hparent =>
    exact (inside_iff_of_parent (parentNode?_of_parent? hparent)).mpr (contains_self a)
  | head hparent _ ih => exact inside_of_parent _ _ hparent ih

theorem beside_of_preceding {n : Nat}
    (h : Relation.TransGen (fun n m => doc.family.tree.previous? n = some m) n a) :
    doc.Beside a n := by
  induction h using Relation.TransGen.head_induction_on with
  | single hprevious =>
    obtain ⟨p, hn, ha, hlt⟩ := exists_parent_of_previous hprevious
    exact ⟨p, _, ha, hn, hlt, contains_self _⟩
  | head hprevious _ ih => exact beside_of_previous _ _ hprevious ih

end Document

/-- **Only by way of a child or a descendant** does a continuation lead inside. -/
theorem Continuation.Reaches.inside_iff {doc : Document} {between : Continuation} {a e : Nat}
    (h : between.Reaches doc a e) : doc.Inside a e ↔ between.goesIn = true := by
  have hin : ∀ {comb : Combinator} {sign text : String} {m : Nat}, doc.Inside a m →
      Complex.Spans doc.family.tree (some a) (Complex.parse text).first (Complex.parse text).rest
        m e → (onward comb sign text).goesIn = true →
      (doc.Inside a e ↔ (onward comb sign text).goesIn = true) := fun hm hspans hgoes =>
    iff_of_true (hspans.keeps Document.inside_of_parent Document.inside_of_previous hm) hgoes
  have haside : ∀ {comb : Combinator} {sign text : String} {m : Nat}, doc.Beside a m →
      Complex.Spans doc.family.tree (some a) (Complex.parse text).first (Complex.parse text).rest
        m e → ¬ (onward comb sign text).goesIn = true →
      (doc.Inside a e ↔ (onward comb sign text).goesIn = true) := fun hm hspans hgoes =>
    iff_of_false
      (hspans.keeps Document.beside_of_parent Document.beside_of_previous hm).not_inside hgoes
  cases between with
  | same | suffix text => simp_all [Reaches, Document.Inside, goesIn]
  | onward comb sign text =>
    obtain ⟨m, hleft, hspans⟩ := h
    rw [Combinator.mem_leftOf_iff] at hleft
    cases comb with
    | descendant => exact hin (Document.inside_of_ancestor hleft) hspans rfl
    | child => exact hin (Document.inside_of_ancestor (.single hleft)) hspans rfl
    | adjacent =>
      exact haside (Document.beside_of_preceding (.single hleft)) hspans Bool.false_ne_true
    | sibling => exact haside (Document.beside_of_preceding hleft) hspans Bool.false_ne_true

end CosmeticFilter
