/-
Full runs of a selector with `contains` behind it.

The link keeps only its last match in mind, and passes over what lies inside of it.  As
candidates come in tree order, with all that lies inside of one right behind it, this is
enough: what is told of are the candidates whose text matches and around which there is no
other such candidate.  Their paths lead back to them, so that these elements are hidden.

The argument is an expression between slashes, or it is taken literally.  In the second case
the text of an element matches if the argument is a part of it.
-/
import CosmeticFilter.Proofs.Alternatives
import CosmeticFilter.Proofs.FullRuns
import CosmeticFilter.Proofs.Shadows

namespace CosmeticFilter

open CosmeticFilter.Text

/-- A selector with an argument for `contains` behind it, spelt in any way, is read as such. -/
theorem CanonicalList.parse_contains {before name argument : String} (h : CanonicalList before)
    (hname : PseudoClass.contains.IsName name.toList)
    (hclosed : closeArgument? .top (argument ++ ")").toList = some (argument.toList, [])) :
    Chain.parse (before ++ ":" ++ name ++ "(" ++ argument ++ ")") =
      .ok [.plain before, .contains (Regex.ofText? argument)] := by
  have htext : (before ++ ":" ++ name ++ "(" ++ argument ++ ")").toList =
      before.toList ++ ':' :: (name.toList ++ '(' :: (argument ++ ")").toList) := by simp
  have hfound := findPseudo?_named (isPlainText_iff.mpr h.not_extended) hname (by simp)
    (argument ++ ")").toList
  rw [← htext] at hfound
  have hread := Chain.parse_contains hfound h.filled hclosed
  rwa [String.ofList_toList, String.ofList_toList] at hread

/-! ### Outermost texts -/

namespace Document

variable {doc : Document} {list : SelectorList} {holds : String → Prop} {e : Nat}

/-- The element matches a member of the list, and its text is as asked for. -/
structure HasText (doc : Document) (list : SelectorList) (holds : String → Prop) (e : Nat) :
    Prop where
  element : doc.isElement e = true
  connected : doc.isConnected e = true
  selected : ∃ sel ∈ list, ∃ m, Complex.Spans doc.family.tree none sel.first sel.rest m e
  text : holds (doc.page.textContent e)

/-- The element has such a text, and no other one around it has. -/
structure OutermostText (doc : Document) (list : SelectorList) (holds : String → Prop) (e : Nat) :
    Prop where
  hasText : doc.HasText list holds e
  alone : ∀ o, doc.HasText list holds o → doc.contains o e = true → o = e

theorem OutermostText.congr {other : String → Prop} (hsame : ∀ text, holds text ↔ other text) :
    doc.OutermostText list holds e ↔ doc.OutermostText list other e := by
  rw [show holds = other from funext fun text => propext (hsame text)]

/-- **What a canonical list with `contains` finds** are the elements with an outermost text. -/
theorem WellFormed.findsOn_contains (h : doc.WellFormed) (hsize : doc.size ≤ maxWord)
    {before : String} (hbefore : CanonicalList before) {expression : Option Regex} :
    Chain.FindsOn doc [.plain before, .contains expression] e ↔
      doc.OutermostText (SelectorList.parse before)
        (fun text => matchesText expression text = true) e := by
  have hhas : ∀ n, doc.HasText (SelectorList.parse before)
      (fun text => matchesText expression text = true) n ↔
      doc.Finds before n ∧ matchesText expression (doc.page.textContent n) = true := by
    intro n
    rw [hbefore.finds_iff h]
    constructor
    · rintro ⟨hn, hconnected, hselected, htext⟩
      exact ⟨⟨hn, hconnected, hselected⟩, htext⟩
    · rintro ⟨⟨hn, hconnected, hselected⟩, htext⟩
      exact ⟨hn, hconnected, hselected, htext⟩
  simp only [Chain.findsOn_iff, h.findsBy_contains, hbefore.complete, exists_eq_left]
  constructor
  · rintro ⟨⟨hfinds, hholds, halone⟩, -⟩
    refine ⟨(hhas e).mpr ⟨hfinds, hholds⟩, fun o ho hinside => ?_⟩
    obtain ⟨hother, hmatch⟩ := (hhas o).mp ho
    exact halone o hother hinside hmatch
  · rintro ⟨htext, halone⟩
    obtain ⟨hfinds, hholds⟩ := (hhas e).mp htext
    refine ⟨⟨hfinds, hholds, fun o hother hinside hmatch => ?_⟩,
      (h.finds_path_iff hsize htext.element htext.connected).mpr rfl⟩
    exact halone o ((hhas o).mpr ⟨hother, hmatch⟩) hinside

end Document

namespace Engine

variable {κ : Type} [Clock κ]

/--
**A selector with `contains` hides just the outermost matches.**  An engine with any history
that does not report every pattern as selectors is given a canonical list with an argument for
`contains` behind it, in any spelling.  On a well-formed document, whose nodes are numbered by
machine words, a full run can be completed.  Whatever wake-ups complete it, just the elements
are hidden that match the list, whose text matches the argument and that lie inside of no
other such element.  If the argument is literal, and its expression keeps within the limits,
the texts that match are those of which it is a part.

In general, whatever text comes before the link, wherever its candidates are looked for and
whether or not its expression could be compiled: what it tells of are the candidates whose
text matches and that lie inside of no other candidate whose text matches.
-/
theorem full_run_hides_outermost_texts (doc : Document) (config : Config) (clock : κ)
    (events : List (Event Nat Nat κ)) {engine : Engine Nat Nat κ}
    (hreached : ((Engine.new config clock).meetAll events).engine = engine)
    (hshown : engine.config.selectorHiding ≠ .always) (hformed : doc.WellFormed)
    (hsize : doc.size ≤ maxWord) {before name argument : String} (hbefore : CanonicalList before)
    (hname : PseudoClass.contains.IsName name.toList)
    (hclosed : closeArgument? .top (argument ++ ")").toList = some (argument.toList, []))
    (source : PatternSource)
    (hsource : source.selector = before ++ ":" ++ name ++ "(" ++ argument ++ ")") :
    (∃ last, FullRun doc engine source last) ∧
    (∀ last, FullRun doc engine source last → ∀ e, e ∈ last.hiddenElements ↔
      doc.OutermostText (SelectorList.parse before)
        (fun text => matchesText (Regex.ofText? argument) text = true) e) ∧
    (Argument.slashed? argument.toList = none → (Regex.ofText? argument).isSome = true →
      ∀ last, FullRun doc engine source last → ∀ e, e ∈ last.hiddenElements ↔
        doc.OutermostText (SelectorList.parse before)
          (fun text => argument.toList <:+: text.toList) e) ∧
    ∀ (styles : List Style) (expression : Option Regex) (front : String) (scope : Nat)
      (selector : String) (anchors : List Nat),
      (∃ limit, .found selector anchors ∈ (Evaluation.pulls ⟨doc.page, styles, none⟩ limit
        (.start styles [.contains expression] front scope)).1) ↔
      ∃ c ∈ Candidates.all doc.page front scope,
        matchesText expression (doc.page.textContent c) = true ∧
        (∀ o ∈ Candidates.all doc.page front scope, doc.contains o c = true →
          matchesText expression (doc.page.textContent o) = true → o = c) ∧
        selector = doc.page.path c ∧ anchors = [c] := by
  obtain ⟨known, hconsistent⟩ := meetAll_consistent (S := Nat) (N := Nat) config clock events
  rw [hreached] at hconsistent
  have hparse : Chain.parse source.selector =
      .ok [.plain before, .contains (Regex.ofText? argument)] :=
    hsource ▸ hbefore.parse_contains hname hclosed
  have hhides : ∀ last, FullRun doc engine source last → ∀ e, e ∈ last.hiddenElements ↔
      doc.OutermostText (SelectorList.parse before)
        (fun text => matchesText (Regex.ofText? argument) text = true) e := by
    intro last hrun e
    rw [hrun.mem_hidden_iff hconsistent hparse (List.cons_ne_nil _ _) hshown rfl]
    exact hformed.findsOn_contains hsize hbefore
  refine ⟨exists_fullRun doc engine source, hhides, fun hliteral hcompiles last hrun e => ?_, ?_⟩
  · rw [hhides last hrun]
    exact Document.OutermostText.congr (Regex.any_isMatch_literal hliteral hcompiles)
  · intro styles expression front scope selector anchors
    have hfounds : (selector, anchors) ∈ founds
        (Evaluation.items ⟨doc.page, styles, none⟩ [.contains expression] front scope) ↔ _ :=
      Evaluation.mem_founds_contains doc.page_orderly (doc.pairwise_all front scope)
    simp only [Prod.mk.injEq] at hfounds
    exact Evaluation.exists_pulls_iff.trans hfounds

/-- There is a `b` in both boxes, and the outer one is hidden. -/
theorem full_run_hides_outermost_texts_letters :
    let source : PatternSource := ⟨"p, div:-abp-contains(b)", "letters"⟩
    let engine : Engine Nat Nat PausedClock := .new Config.default ⟨.zero⟩
    letterDocument.WellFormed ∧ CanonicalList "p, div" ∧
      PseudoClass.contains.IsName "-abp-contains".toList ∧
      closeArgument? .top ("b" ++ ")").toList = some ("b".toList, []) ∧
      source.selector = "p, div" ++ ":" ++ "-abp-contains" ++ "(" ++ "b" ++ ")" ∧
      Argument.slashed? "b".toList = none ∧ (Regex.ofText? "b").isSome = true ∧
      (∃ last, FullRun letterDocument engine source last) ∧
      ∀ last, FullRun letterDocument engine source last →
        2 ∈ last.hiddenElements ∧ 4 ∉ last.hiddenElements := by
  intro source engine
  have hdiv : Complex.parse "div" = ⟨[.type "div"], []⟩ := by cbv
  have hp : Complex.parse "p" = ⟨[.type "p"], []⟩ := by cbv
  have hlist : SelectorList.parse "p, div" = [⟨[.type "p"], []⟩, ⟨[.type "div"], []⟩] := by cbv
  have hbefore : CanonicalList "p, div" := by
    refine ⟨by rw [hlist]; decide, ?_⟩
    rw [hlist, List.forall_mem_cons, List.forall_mem_singleton]
    exact ⟨.of_type hp (by cbv), .of_type hdiv (by cbv)⟩
  have hname : PseudoClass.contains.IsName "-abp-contains".toList := by
    simp [PseudoClass.IsName, PseudoClass.names]
  have hclosed : closeArgument? .top ("b" ++ ")").toList = some ("b".toList, []) := by decide
  have hsource : source.selector = "p, div" ++ ":" ++ "-abp-contains" ++ "(" ++ "b" ++ ")" := by
    decide
  have hliteral : Argument.slashed? "b".toList = none := by decide
  have hcompiles : (Regex.ofText? "b").isSome = true := by decide +kernel
  obtain ⟨hexists, -, hhides, -⟩ := full_run_hides_outermost_texts letterDocument Config.default
    (⟨.zero⟩ : PausedClock) [] rfl (by decide) (by decide) (by decide) hbefore hname hclosed source
    hsource
  have hselected : ∀ e, Compound.matches letterDocument.family.tree none e [.type "div"] = true →
      ∃ sel ∈ SelectorList.parse "p, div", ∃ m,
        Complex.Spans letterDocument.family.tree none sel.first sel.rest m e := by
    intro e he
    rw [hlist]
    exact ⟨_, List.mem_cons_of_mem _ (List.mem_singleton_self _), e, he, rfl⟩
  have houter : letterDocument.HasText (SelectorList.parse "p, div")
      (fun text => "b".toList <:+: text.toList) 2 :=
    ⟨by decide, by decide, hselected 2 (by decide), by decide⟩
  refine ⟨by decide, hbefore, hname, hclosed, hsource, hliteral, hcompiles, hexists,
    fun last hrun => ⟨?_, ?_⟩⟩
  · rw [hhides hliteral hcompiles last hrun]
    refine ⟨houter, fun o ho hinside => ?_⟩
    have hplace : ∀ o < 6, letterDocument.contains o 2 = true → ∀ tag ∈ ["p", "div"],
        Compound.matches letterDocument.family.tree none o [.type tag] = true → o = 2 := by decide
    obtain ⟨sel, hsel, m, hspans⟩ := ho.selected
    have ho := hplace o (Document.lt_size_of_isElement ho.element) hinside
    rw [hlist, List.mem_cons, List.mem_singleton] at hsel
    rcases hsel with rfl | rfl
    · obtain ⟨hmatch, rfl⟩ := hspans
      exact ho "p" (by decide) hmatch
    · obtain ⟨hmatch, rfl⟩ := hspans
      exact ho "div" (by decide) hmatch
  · rw [hhides hliteral hcompiles last hrun]
    intro hinner
    have hsame : 2 = 4 := hinner.alone 2 houter (by decide)
    simp at hsame

end Engine

end CosmeticFilter
