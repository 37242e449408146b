/-
What a chain finds, and by way of which anchors.

The hits of a pattern are what its chain finds in the document, each with the anchors by way
of which it is found.  Where no record reaches, a chain finds after some changes what it found
before.  For a pattern that no record can affect this is so everywhere.
-/
import CosmeticFilter.Proofs.Grammar
import CosmeticFilter.Proofs.Hits
import CosmeticFilter.Proofs.Regions

namespace CosmeticFilter

/-! ### Chains that were read -/

namespace Chain

/-- In front of a chain that starts with a pseudo-class there may be plain text. -/
theorem apart_plainLinks (text : List Char) {link : Link} {tail : Chain} (hlink : link.apart = true)
    (htail : apart tail = true) (hplain : startsPlain [link] = false) :
    apart (Phrase.plainLinks text ++ link :: tail) = true := by
  have hpseudo : apart (link :: tail) = true := by simp [apart, hlink, htail, hplain]
  have hstarts : startsPlain (link :: tail) = startsPlain [link] := by cases link <;> rfl
  unfold Phrase.plainLinks
  split
  · exact hpseudo
  · simp only [List.cons_append, List.nil_append]
    rw [apart, hstarts, hplain, hpseudo]
    rfl

theorem apart_phrase (phrase : Phrase) : apart phrase.chain = true := by
  induction phrase with
  | plain text =>
    unfold Phrase.chain Phrase.plainLinks
    split <;> rfl
  | expression kind before name argument after ih =>
    cases kind with
    | properties => exact apart_plainLinks before rfl ih rfl
    | contains => exact apart_plainLinks before rfl ih rfl
  | has before name argument after ihargument ih => exact apart_plainLinks before ihargument ih rfl

/-- In a chain that was read, no plain text follows at once upon another one. -/
theorem apart_parse {selector : String} {chain : Chain} (h : Chain.parse selector = .ok chain) :
    apart chain = true := by
  obtain ⟨phrase, -, rfl⟩ := exists_derives h
  exact apart_phrase phrase

end Chain

/-! ### What is found -/

namespace Evaluation

variable {N S : Type} [DecidableEq N]

theorem mem_founds_plain {scene : Scene N S} {text before : String} {rest : Chain} {scope : N}
    {found : String × List N} :
    found ∈ founds (items scene (.plain text :: rest) before scope) ↔
      found ∈ founds (items scene rest (before ++ text) scope) := by
  rw [mem_founds_cons]
  simp only [linkSteps, resolvedBy_resolved, resolvedBy_nil, List.mem_singleton, exists_eq_left]
  constructor
  · rintro ⟨inner, hinner, rfl⟩
    exact hinner
  · exact fun h => ⟨found, h, rfl⟩

end Evaluation

/-- What a query from the top finds is a connected element. -/
theorem Document.Finds.place {doc : Document} {text : String} {n : Nat} (h : doc.Finds text n) :
    doc.isElement n = true ∧ doc.isConnected n = true := by
  obtain ⟨nodes, hquery, hn⟩ := h
  exact Document.isElement_of_mem_queryAll hquery hn

/-- The chain finds the element by way of these anchors. -/
def Chain.FindsBy (doc : Document) (chain : Chain) (anchors : List Nat) (n : Nat) : Prop :=
  ∃ selector, (selector, anchors) ∈
      founds (Evaluation.items ⟨doc.page, doc.page.styles doc.page.sheets, none⟩ chain "" 0) ∧
    doc.Finds selector n

/-- All that the chain finds, with the anchors. -/
def Chain.findings (doc : Document) (chain : Chain) : List (List Nat × Nat) :=
  (founds (Evaluation.items ⟨doc.page, doc.page.styles doc.page.sheets, none⟩ chain "" 0)).flatMap
    fun found => ((doc.page.queryAll 0 found.1).toOption.getD []).map (found.2, ·)

theorem Chain.mem_findings {doc : Document} {chain : Chain} {anchors : List Nat} {n : Nat} :
    (anchors, n) ∈ chain.findings doc ↔ chain.FindsBy doc anchors n := by
  unfold findings FindsBy
  rw [List.mem_flatMap]
  constructor
  · rintro ⟨⟨selector, others⟩, hfound, hmem⟩
    obtain ⟨m, hm, heq⟩ := List.mem_map.mp hmem
    obtain ⟨rfl, rfl⟩ := Prod.mk.inj heq
    cases hquery : doc.page.queryAll 0 selector with
    | error e => simp [hquery, Except.toOption] at hm
    | ok nodes =>
      simp only [hquery, Except.toOption, Option.getD_some] at hm
      exact ⟨selector, hfound, nodes, hquery, hm⟩
  · rintro ⟨selector, hfound, nodes, hquery, hn⟩
    refine ⟨(selector, anchors), hfound, List.mem_map.mpr ⟨n, ?_, rfl⟩⟩
    simpa [hquery, Except.toOption] using hn

/-- What is found is a connected element. -/
theorem Chain.FindsBy.place {doc : Document} {chain : Chain} {anchors : List Nat} {n : Nat}
    (h : chain.FindsBy doc anchors n) : doc.isElement n = true ∧ doc.isConnected n = true := by
  obtain ⟨selector, -, hfinds⟩ := h
  exact hfinds.place

/-- Plain text finds what a query for it finds. -/
theorem Chain.findsBy_plain {doc : Document} {text : String} {anchors : List Nat} {n : Nat} :
    Chain.FindsBy doc [.plain text] anchors n ↔ anchors = [] ∧ doc.Finds text n := by
  unfold FindsBy
  simp only [Evaluation.mem_founds_plain, show "" ++ text = text by simp]
  constructor
  · rintro ⟨selector, hfound, hfinds⟩
    obtain ⟨rfl, rfl⟩ := Prod.mk.inj (List.mem_singleton.mp hfound)
    exact ⟨rfl, hfinds⟩
  · rintro ⟨rfl, hfinds⟩
    exact ⟨text, List.mem_singleton_self _, hfinds⟩

namespace Pattern

variable {config : Config} {doc : Document} {pattern : Pattern} {hit : Hit Nat}

/-- The candidates of a link are what a query for the text before it finds. -/
theorem mem_candidates {before : String} {c : Nat} :
    c ∈ Candidates.all doc.page before 0 ↔ doc.Finds (SelectorText.complete before) c := by
  unfold Candidates.all Document.Finds
  cases doc.page.queryAll 0 (SelectorText.complete before) with
  | error e => simp [Except.toOption]
  | ok nodes => simp [Except.toOption]

/-- What a pattern hits is what its chain finds, if it is not reported as a selector. -/
theorem mem_hits_iff_of_shown (hshown : config.hidesBySelector pattern = false) :
    hit ∈ pattern.hits config doc.page ↔
      hit.pattern = pattern ∧ pattern.chain.FindsBy doc hit.anchors hit.node := by
  rw [hits, Hit.mem_ofCandidate]
  simp only [hshown, true_and, exists_and_left]
  exact Iff.rfl

/-- So it is for every pattern, if none is reported as a selector. -/
theorem mem_hits_iff (hnever : config.selectorHiding = .never) :
    hit ∈ pattern.hits config doc.page ↔
      hit.pattern = pattern ∧ pattern.chain.FindsBy doc hit.anchors hit.node :=
  mem_hits_iff_of_shown (by simp [Config.hidesBySelector, hnever])

end Pattern

/-- Patterns that were read from selectors and ask for no styles. -/
structure SearchingPatterns (patterns : List Pattern) : Prop where
  distinct : (patterns.map Pattern.serial).Nodup
  searches : ∀ p ∈ patterns, Chain.searches p.chain = true
  apart : ∀ p ∈ patterns, Chain.apart p.chain = true

/-! ### Where no record reaches -/

theorem Dependencies.Within.refl (deps : Dependencies) : deps.Within deps :=
  ⟨id, id, id⟩

theorem Mutation.mem_targets {N : Type} [DecidableEq N] {batch : List (Mutation N)} {n : N} :
    n ∈ targets batch ↔ ∃ record ∈ batch, n ∈ record.touched := by
  rw [show targets batch = addNew [] (batch.flatMap touched) from rfl, mem_addNew]
  simp

/-- Without patterns, or without changes, nothing is affected. -/
theorem Pattern.unaffected_of_isEmpty {N : Type} {patterns : List Pattern}
    {changes : List (Mutation N)} (h : (patterns.isEmpty || changes.isEmpty) = true) :
    ∀ p ∈ patterns, p.affectedByBatch changes = false := by
  intro p hp
  rcases Bool.or_eq_true _ _ ▸ h with hnone | hnone
  · simp [List.isEmpty_iff.mp hnone] at hp
  · simp [affectedByBatch, List.isEmpty_iff.mp hnone]

/-- A changed node lies inside of the node, or around it. -/
def Page.reaches {N S : Type} [DecidableEq N] (page : Page N S) (changes : List (Mutation N))
    (n : N) : Bool :=
  (Mutation.targets changes).any (page.related n)

namespace Document

/-- Changes between well-formed documents, recorded as the patterns need it. -/
structure Recorded (options : ObserveOptions) (patterns : List Pattern) (a b : Document) :
    Prop where
  documented : Documented options a b
  before : a.WellFormed
  after : b.WellFormed
  attributes : ∀ p ∈ patterns, p.dependencies.attributes = true → options.attributes = true
  text : ∀ p ∈ patterns, p.dependencies.text = true → options.characterData = true

namespace Recorded

variable {options : ObserveOptions} {patterns : List Pattern} {a b : Document} {pattern : Pattern}

/-- For a pattern that no record can affect the whole document is spared. -/
theorem spared_of_unaffected (h : Recorded options patterns a b) (hpattern : pattern ∈ patterns)
    (hunaffected : pattern.affectedByBatch b.records = false) :
    Spared options pattern.dependencies a b 0 where
  documented := h.documented
  filled := h.before.filled
  tags := h.before.tagged
  connected := contains_self 0
  quiet kind hkind n htold := by
    obtain ⟨record, hrecord, rfl, -⟩ := htold
    rw [pattern.heeds_dependencies] at hkind
    exact absurd (List.any_eq_true.mpr ⟨record, hrecord, hkind⟩) (by
      rw [← Pattern.affectedByBatch, hunaffected]
      exact Bool.false_ne_true)
  attributes := h.attributes pattern hpattern
  text := h.text pattern hpattern
  siblings _ := rfl

/-- A node that is not related to what the records touch is spared. -/
theorem spared_of_unreached (h : Recorded options patterns a b) (hpattern : pattern ∈ patterns)
    (hsiblings : pattern.dependencies.siblings = false) {c : Nat} (hc : b.isConnected c = true)
    (hunreached : b.page.reaches b.records c = false) :
    Spared options pattern.dependencies a b c where
  documented := h.documented
  filled := h.before.filled
  tags := h.before.tagged
  connected := hc
  quiet kind _ n htold := by
    obtain ⟨record, hrecord, -, hn⟩ := htold
    refine Bool.eq_false_iff.mpr fun hrelated => ?_
    have hreached : b.page.reaches b.records c = true :=
      List.any_eq_true.mpr ⟨n, Mutation.mem_targets.mpr ⟨record, hrecord, hn⟩, hrelated⟩
    simp [hunreached] at hreached
  attributes := h.attributes pattern hpattern
  text := h.text pattern hpattern
  siblings hasks := by simp [hsiblings] at hasks

end Recorded

open Evaluation

variable {options : ObserveOptions} {patterns : List Pattern} {a b : Document} {pattern : Pattern}
  {anchors : List Nat} {n : Nat}

/-- If the whole document is spared, every search finds what it found before. -/
theorem Spared.findsBy_iff_of_top (h : Spared options pattern.dependencies a b 0)
    (hsearches : Chain.searches pattern.chain = true)
    (hapart : Chain.apart pattern.chain = true) :
    pattern.chain.FindsBy b anchors n ↔ pattern.chain.FindsBy a anchors n := by
  have hwithin : (Chain.dependencies pattern.chain).Within pattern.dependencies := .refl _
  have hready : Ready pattern.dependencies pattern.chain "" := .nil
  have htop : b.contains 0 0 = true := contains_self 0
  have hfit := founds_fit h.page_alike (a.page.styles a.page.sheets) hsearches hapart hwithin
    hready htop
  unfold Chain.FindsBy
  rw [items_alike h.page_alike (b.page.styles b.page.sheets) (a.page.styles a.page.sheets) _
      hsearches hapart hwithin "" 0 hready htop]
  refine exists_congr fun selector => and_congr_right fun hfound => ?_
  rw [Finds, Finds, h.page_alike.query 0 _ htop (hfit _ hfound)]

namespace Recorded

/-- If no record can affect a pattern, what was connected is connected. -/
theorem connected_of_unaffected (h : Recorded options patterns a b) (hpattern : pattern ∈ patterns)
    (hunaffected : pattern.affectedByBatch b.records = false) (hn : a.isConnected n = true) :
    b.isConnected n = true :=
  (h.spared_of_unaffected hpattern hunaffected).inside_of_contains (contains_self 0) hn

/-- If no record can affect a pattern, it finds what it found before. -/
theorem findsBy_iff_of_unaffected (h : Recorded options patterns a b)
    (hsearching : SearchingPatterns patterns) (hpattern : pattern ∈ patterns)
    (hunaffected : pattern.affectedByBatch b.records = false) :
    pattern.chain.FindsBy b anchors n ↔ pattern.chain.FindsBy a anchors n :=
  (h.spared_of_unaffected hpattern hunaffected).findsBy_iff_of_top
    (hsearching.searches pattern hpattern) (hsearching.apart pattern hpattern)

end Recorded

end Document

end CosmeticFilter
