/-
The outermost matches of a `contains` link.

Queries answer in tree order, so that an element comes before whatever lies inside of it, and
that comes in one piece.  A `contains` link passes over what lies inside of its last match.
So it tells of those candidates whose text matches and that lie inside of no other candidate
whose text matches.

The text of an element is a part of the text of every element around it.  An expression
without tests that matches the inner one then matches the outer one too.
-/
import CosmeticFilter.Proofs.Findings
import CosmeticFilter.Proofs.Substring
import Mathlib.Tactic.MkIffOfInductiveProp

namespace CosmeticFilter

/-! ### Inside and outside -/

namespace Document

variable {doc : Document}

theorem subtree_succ (n : Nat) : doc.family.subtree n =
    n :: (doc.childrenOf n).flatMap doc.family.subtree := by
  have hmore : doc.family.subtree n = doc.family.layersBelow (doc.size + 1) n :=
    Spared.layersBelow_congr doc (Nat.le_add_left _ _) (by omega)
  rw [hmore, layersBelow_succ]
  rfl

/-- In tree order no node comes behind what lies inside of it. -/
theorem pairwise_layersBelow (layers n : Nat) :
    (doc.family.layersBelow layers n).Pairwise fun a b => doc.contains b a = false :=
  (pairwise_before layers n).imp Before.outside

/-- What lies inside of a node is a part of it, in one piece. -/
theorem subtree_within {m n : Nat} (h : doc.contains m n = true) :
    doc.family.subtree n <:+: doc.family.subtree m := by
  rw [contains_iff] at h
  induction h using Relation.ReflTransGen.head_induction_on with
  | refl => exact List.infix_rfl
  | @head n p hparent _ ih =>
    have hchild : doc.family.subtree n <:+: (doc.childrenOf p).flatMap doc.family.subtree :=
      List.infix_flatMap_of_mem (mem_childrenOf.mpr hparent) _
    refine List.IsInfix.trans ?_ ih
    rw [subtree_succ p]
    exact hchild.trans (List.suffix_cons p _).isInfix

/-- So is the text. -/
theorem textContent_within {m n : Nat} (h : doc.contains m n = true) :
    (doc.page.textContent n).toList <:+: (doc.page.textContent m).toList := by
  have htext : ∀ n, (doc.page.textContent n).toList =
      ((doc.family.subtree n).map doc.ownText).flatMap String.toList :=
    fun _ => String.toList_join
  rw [htext, htext]
  exact (((subtree_within h).map _).map _).flatten

end Document

/-- **Around a match there are matches**, if the expression asks nothing about positions. -/
theorem matchesText_of_contains {doc : Document} {m n : Nat} (h : doc.contains m n = true)
    {expression : Option Regex} (htests : expression.any (·.expr.hasTests) = false)
    (hmatches : matchesText expression (doc.page.textContent n) = true) :
    matchesText expression (doc.page.textContent m) = true := by
  cases expression with
  | none => exact hmatches
  | some regex => exact Expr.search_of_part htests (Document.textContent_within h) hmatches

/-! ### Steps -/

namespace Evaluation

variable {N S : Type} [DecidableEq N]

omit [DecidableEq N] in
/-- What lies inside of a candidate inside of the last match lies inside of that, too. -/
theorem isInside_of_contains {page : Page N S} (h : page.Orderly) {last : Option N} {c n : N}
    (hinside : isInside page last c = true) (hcn : page.contains c n = true) :
    isInside page last n = true := by
  rw [isInside, Option.any_eq_true] at hinside ⊢
  obtain ⟨a, ha, hac⟩ := hinside
  exact ⟨a, ha, h.trans hac hcn⟩

omit [DecidableEq N] in
/-- What lies inside of the last match comes in one piece. -/
theorem isInside_behind {page : Page N S} {last : Option N} {c n : N} {more : List N}
    (hpieces : InPieces page.contains (last.toList ++ c :: more)) (hn : n ∈ more)
    (hinside : isInside page last n = true) : isInside page last c = true := by
  rw [isInside, Option.any_eq_true] at hinside ⊢
  obtain ⟨a, rfl, han⟩ := hinside
  exact ⟨a, rfl, (List.pairwise_cons.mp hpieces.1).1 n hn han⟩

/-- The candidate matches, and lies neither inside of the last match nor of another candidate
that matches. -/
structure Emerges (page : Page N S) (expression : Option Regex) (last : Option N)
    (candidates : List N) (n : N) : Prop where
  mem : n ∈ candidates
  apart : isInside page last n = false
  holds : matchesText expression (page.textContent n) = true
  alone : ∀ o ∈ candidates, page.contains o n = true →
    matchesText expression (page.textContent o) = true → o = n

section Emerging

variable {page : Page N S} {expression : Option Regex} {last : Option N} {c n : N} {more : List N}

omit [DecidableEq N] in
/-- A candidate that is passed over makes no difference to the others. -/
theorem emerges_cons_of_passed (h : page.Orderly)
    (hpassed : isInside page last c = true ∨
      matchesText expression (page.textContent c) = false) :
    Emerges page expression last (c :: more) n ↔ Emerges page expression last more n := by
  constructor
  · intro hn
    refine ⟨?_, hn.apart, hn.holds, (List.forall_mem_cons.mp hn.alone).2⟩
    rcases List.mem_cons.mp hn.mem with rfl | hmem
    · rcases hpassed with hinside | hno
      · exact absurd hinside (by simp [hn.apart])
      · exact absurd hn.holds (by simp [hno])
    · exact hmem
  · intro hn
    refine ⟨List.mem_cons_of_mem _ hn.mem, hn.apart, hn.holds,
      List.forall_mem_cons.mpr ⟨fun hcn hyes => ?_, hn.alone⟩⟩
    rcases hpassed with hinside | hno
    · exact absurd (isInside_of_contains h hinside hcn) (by simp [hn.apart])
    · exact absurd hyes (by simp [hno])

omit [DecidableEq N] in
/-- Behind a match there are those that it does not contain. -/
theorem emerges_cons_of_match (hpieces : InPieces page.contains (last.toList ++ c :: more))
    (hinward : ∀ o ∈ more, page.contains o c = false) (hout : isInside page last c = false)
    (hmatches : matchesText expression (page.textContent c) = true) :
    Emerges page expression last (c :: more) n ↔
      n = c ∨ Emerges page expression (some c) more n := by
  constructor
  · intro hn
    obtain ⟨hfirst, halone⟩ := List.forall_mem_cons.mp hn.alone
    rcases List.mem_cons.mp hn.mem with rfl | hmem
    · exact .inl rfl
    · refine .inr ⟨hmem, ?_, hn.holds, halone⟩
      show page.contains c n = false
      rw [Bool.eq_false_iff]
      intro hcn
      obtain rfl := hfirst hcn hmatches
      simp [hinward c hmem] at hcn
  · rintro (rfl | hn)
    · refine ⟨List.mem_cons_self, hout, hmatches,
        List.forall_mem_cons.mpr ⟨fun _ _ => rfl, fun o ho hon => ?_⟩⟩
      simp [hinward o ho] at hon
    · have hapart : page.contains c n = false := hn.apart
      refine ⟨List.mem_cons_of_mem _ hn.mem, ?_, hn.holds,
        List.forall_mem_cons.mpr ⟨fun hcn => by simp [hapart] at hcn, hn.alone⟩⟩
      rw [Bool.eq_false_iff]
      intro hlast
      exact absurd (isInside_behind hpieces hn.mem hlast) (by simp [hout])

end Emerging

/-- The steps of a `contains` link tell of the outermost matches that the last one does not
contain. -/
theorem mem_containsSteps {page : Page N S} (h : page.Orderly) {styles : List Style}
    {expression : Option Regex} {scope n : N} {candidates : List N} {last : Option N}
    (hpieces : InPieces page.contains (last.toList ++ candidates))
    (hinward : candidates.Pairwise fun a b => page.contains b a = false) :
    (page.path n, scope, some n) ∈
        resolvedBy (containsSteps ⟨page, styles, none⟩ expression scope last candidates) ↔
      Emerges page expression last candidates n := by
  induction candidates generalizing last with
  | nil => exact iff_of_false List.not_mem_nil fun hn => absurd hn.mem List.not_mem_nil
  | cons c more ih =>
    obtain ⟨hc, hinward⟩ := List.pairwise_cons.mp hinward
    have hsame := ih (hpieces.sublist ((List.sublist_cons_self c more).append_left _)) hinward
    have hprunes : (⟨page, styles, none⟩ : Scene N S).prunes c = false := rfl
    simp only [containsSteps, hprunes, Bool.or_false]
    rw [← isInside]
    by_cases hinside : isInside page last c = true
    · rw [if_pos hinside, resolvedBy_pause, hsame, emerges_cons_of_passed h (.inl hinside)]
    · rw [if_neg hinside]
      have hout := Bool.eq_false_iff.mpr hinside
      by_cases hmatches : matchesText expression (page.textContent c) = true
      · have hpiece : InPieces page.contains ((some c).toList ++ more) :=
          hpieces.sublist (List.sublist_append_right last.toList (c :: more))
        have hhead : (page.path n, scope, some n) = (page.path c, scope, some c) ↔ n = c := by
          constructor
          · exact fun heq => Option.some.inj (Prod.mk.inj (Prod.mk.inj heq).2).2
          · rintro rfl
            rfl
        rw [if_pos hmatches, resolvedBy_resolved, List.mem_cons, hhead, ih hpiece hinward,
          emerges_cons_of_match hpieces hc hout hmatches]
      · rw [if_neg hmatches, resolvedBy_pause, hsame,
          emerges_cons_of_passed h (.inr (Bool.eq_false_iff.mpr hmatches))]

/-- **A `contains` link goes on from the outermost matches** among its candidates. -/
theorem mem_founds_contains_cons {page : Page N S} (h : page.Orderly) {styles : List Style}
    {expression : Option Regex} {rest : Chain} {before : String} {scope : N}
    (hinward : (Candidates.all page before scope).Pairwise fun a b => page.contains b a = false)
    {found : String × List N} :
    found ∈ founds (items ⟨page, styles, none⟩ (.contains expression :: rest) before scope) ↔
      ∃ c ∈ Candidates.all page before scope,
        matchesText expression (page.textContent c) = true ∧
        (∀ o ∈ Candidates.all page before scope, page.contains o c = true →
          matchesText expression (page.textContent o) = true → o = c) ∧
        ∃ inner ∈ founds (items ⟨page, styles, none⟩ rest (page.path c) scope),
          found = (inner.1, c :: inner.2) := by
  have hsteps : ∀ c, (page.path c, scope, some c) ∈ resolvedBy (containsSteps
      ⟨page, styles, none⟩ expression scope none (Candidates.all page before scope)) ↔ _ :=
    fun c => mem_containsSteps h (inPieces_all h before scope) hinward
  rw [mem_founds_cons]
  constructor
  · rintro ⟨step, hstep, inner, hinner, rfl⟩
    obtain ⟨c, -, rfl⟩ := mem_resolvedBy_containsSteps hstep
    obtain ⟨hc, -, hmatch, halone⟩ := (hsteps c).mp hstep
    exact ⟨c, hc, hmatch, halone, inner, hinner, rfl⟩
  · rintro ⟨c, hc, hmatch, halone, inner, hinner, rfl⟩
    exact ⟨_, (hsteps c).mpr ⟨hc, rfl, hmatch, halone⟩, inner, hinner, rfl⟩

/-- If nothing follows it finds them. -/
theorem mem_founds_contains {page : Page N S} (h : page.Orderly) {styles : List Style}
    {expression : Option Regex} {before : String} {scope : N}
    (hinward : (Candidates.all page before scope).Pairwise fun a b => page.contains b a = false)
    {found : String × List N} :
    found ∈ founds (items ⟨page, styles, none⟩ [.contains expression] before scope) ↔
      ∃ c ∈ Candidates.all page before scope,
        matchesText expression (page.textContent c) = true ∧
        (∀ o ∈ Candidates.all page before scope, page.contains o c = true →
          matchesText expression (page.textContent o) = true → o = c) ∧
        found = (page.path c, [c]) := by
  have hnone : ∀ c, founds (items ⟨page, styles, none⟩ [] (page.path c) scope) =
      [(page.path c, [])] := fun _ => rfl
  simp only [mem_founds_contains_cons h hinward, hnone, List.mem_singleton, exists_eq_left]

end Evaluation

/-! ### What is found by its text -/

namespace Document

/-- The node is found, its text matches, and so does no other one's around it. -/
@[mk_iff]
structure Outermost (doc : Document) (text : String) (expression : Option Regex) (n : Nat) :
    Prop where
  finds : doc.Finds text n
  holds : matchesText expression (doc.page.textContent n) = true
  alone : ∀ o, doc.Finds text o → doc.contains o n = true →
    matchesText expression (doc.page.textContent o) = true → o = n

/-- Candidates come in tree order. -/
theorem pairwise_all (doc : Document) (before : String) (scope : Nat) :
    (Candidates.all doc.page before scope).Pairwise fun a b => doc.page.contains b a = false := by
  unfold Candidates.all
  cases hquery : doc.page.queryAll scope (SelectorText.complete before) with
  | error e => exact List.Pairwise.nil
  | ok nodes =>
    simp only [Except.toOption, Option.getD_some]
    exact List.Pairwise.sublist (queryAll_sublist hquery) (pairwise_layersBelow doc.size scope)

/-- **What a selector with `contains` finds** are the outermost matches. -/
theorem WellFormed.findsBy_contains {doc : Document} (h : doc.WellFormed) {before : String}
    {expression : Option Regex} {anchors : List Nat} {n : Nat} :
    Chain.FindsBy doc [.plain before, .contains expression] anchors n ↔
      anchors = [n] ∧ doc.Outermost (SelectorText.complete before) expression n ∧
        doc.Finds (doc.page.path n) n := by
  unfold Chain.FindsBy
  simp only [Evaluation.mem_founds_plain, show "" ++ before = before by simp,
    Evaluation.mem_founds_contains doc.page_orderly (doc.pairwise_all before 0),
    Pattern.mem_candidates]
  constructor
  · rintro ⟨selector, ⟨c, hc, hholds, halone, heq⟩, nodes, hquery, hn⟩
    obtain ⟨rfl, rfl⟩ := Prod.mk.inj heq
    obtain ⟨helement, hconnected⟩ := hc.place
    obtain rfl := h.eq_of_mem_path helement hconnected hquery hn
    exact ⟨rfl, ⟨hc, hholds, halone⟩, nodes, hquery, hn⟩
  · rintro ⟨rfl, hn, hfinds⟩
    exact ⟨_, ⟨n, hn.finds, hn.holds, hn.alone, rfl⟩, hfinds⟩

end Document

end CosmeticFilter
