/-
Chains with several `has`, and the matches that a batch splits.

A run for changes passes over candidates one by one.  A change that an outer anchor of a match
is related to may decide on the match, although no changed node is related to its inner
anchor: such a match is split.  The run does not find it when it comes, nor see when it goes.

Everything else is as from scratch.  A match that is not split is either looked at as a whole,
or out of reach of the changes as a whole, and then it is there as before.  So an element is
hidden if and only if a fresh engine hides it, unless a split match of it has come or gone.
-/
import CosmeticFilter.Proofs.Revision

namespace CosmeticFilter

namespace Document

variable {doc : Document} {pattern : Pattern}

/-! ### Split matches -/

/-- The changes reach some of the anchors, and not the others. -/
def Splits (doc : Document) (changes : List (Mutation Nat)) (anchors : List Nat) : Prop :=
  (∃ c ∈ anchors, doc.page.reaches changes c = true) ∧
    ∃ c ∈ anchors, doc.page.reaches changes c = false

/-- Anchors that are not split are out of reach as soon as one of them is. -/
theorem unreached_of_not_splits {changes : List (Mutation Nat)} {anchors : List Nat}
    (hwhole : ¬ doc.Splits changes anchors)
    (hsome : ∃ c ∈ anchors, doc.page.reaches changes c = false) :
    ∀ c ∈ anchors, doc.page.reaches changes c = false := by
  intro c hc
  rw [Bool.eq_false_iff]
  intro hreached
  exact hwhole ⟨⟨c, hc, hreached⟩, hsome⟩

variable {options : ObserveOptions} {patterns : List Pattern} {a b : Document} {n : Nat}

/--
Some pattern that does not relate siblings has begun or ceased to find the node by way of
split anchors.
-/
def SplitChange (patterns : List Pattern) (a b : Document) (changes : List (Mutation Nat))
    (n : Nat) : Prop :=
  ∃ pattern ∈ patterns, pattern.dependencies.siblings = false ∧ ∃ anchors : List Nat,
    b.Splits changes anchors ∧
      ¬ (pattern.chain.FindsBy a anchors n ↔ pattern.chain.FindsBy b anchors n)

instance {doc : Document} {changes : List (Mutation Nat)} {anchors : List Nat} :
    Decidable (doc.Splits changes anchors) :=
  inferInstanceAs (Decidable (_ ∧ _))

/-- No split change comes about where no anchors are split, neither of old matches nor of new. -/
theorem not_splitChange {changes : List (Mutation Nat)}
    (h : ∀ pattern ∈ patterns, ∀ found ∈ pattern.chain.findings a ++ pattern.chain.findings b,
      ¬ b.Splits changes found.1) : ¬ SplitChange patterns a b changes n := by
  rintro ⟨pattern, hpattern, -, anchors, hsplits, hchange⟩
  refine hchange ⟨fun hfinds => absurd hsplits ?_, fun hfinds => absurd hsplits ?_⟩
  · exact h pattern hpattern _ (List.mem_append_left _ (Chain.mem_findings.mpr hfinds))
  · exact h pattern hpattern _ (List.mem_append_right _ (Chain.mem_findings.mpr hfinds))

/-- Without a split change an element is found as before out of reach. -/
theorem Recorded.keepsOutOfReach (h : Recorded options patterns a b)
    (hsearching : SearchingPatterns patterns) (hled : ∀ p ∈ patterns, p.chain.HasLed)
    (hwhole : ¬ SplitChange patterns a b b.records n) :
    Engine.KeepsOutOfReach patterns a b n := by
  intro pattern hpattern hsiblings anchors hsome
  by_cases hsplits : b.Splits b.records anchors
  · have hsame : pattern.chain.FindsBy a anchors n ↔ pattern.chain.FindsBy b anchors n := by
      by_contra hchange
      exact hwhole ⟨pattern, hpattern, hsiblings, anchors, hsplits, hchange⟩
    rw [hsame, iff_self_and]
    exact fun hfinds => hfinds.place.2
  · have hall := unreached_of_not_splits hsplits hsome
    match anchors, hsome with
    | [], hsome => simp at hsome
    | c :: more, _ =>
      exact h.findsBy_iff_of_unreached hsearching hpattern (hled pattern hpattern) hsiblings
        (hall c List.mem_cons_self)

end Document

namespace Engine

variable {κ : Type} [Clock κ]

/-- Records are nothing that a search looks at. -/
theorem splitChange_observe {patterns : List Pattern} {doc after : Document}
    {options : ObserveOptions} {changes : List (Mutation Nat)} {n : Nat} :
    Document.SplitChange patterns (doc.observe options) after changes n ↔
      Document.SplitChange patterns doc after.takeRecords.2 changes n := by
  rw [Document.observe_eq, Document.takeRecords_eq]
  simp only [Document.SplitChange, Document.Splits, Chain.FindsBy, Document.Finds,
    Document.page_telling]

/--
**One batch agrees with filtering from scratch, but for split matches.**  A reachable engine
whose patterns start with `has`, and may have more of them, has completed a full run on a
well-formed document.  After a batch of changes an element is hidden if and only if a fresh
engine hides it, unless a pattern has begun or ceased to find it by way of anchors of which the
changes reach some and not all.
-/
theorem batch_agrees_unless_split {κ' : Type} [Clock κ'] (doc : Document) (config : Config)
    (clock : κ) (events : List (Event Nat Nat κ)) (sources : List PatternSource) (serial : Nat)
    {first : Outcome Nat Nat κ}
    (hsources : ((Engine.new config clock).meetAll events).engine.patterns =
      (registration serial sources).1)
    (hled : ∀ p ∈ (registration serial sources).1, p.chain.HasLed)
    (hnever : ((Engine.new config clock).meetAll events).engine.config.selectorHiding = .never)
    (hformed : doc.WellFormed)
    (hfull : Execution doc.page
      (((Engine.new config clock).meetAll events).engine.startRun doc.page .full) first)
    {changes : List Change} {now : Document} {last : Engine Nat Nat κ}
    (hbatch : Batches (doc.observe first.engine.observeOptions) first.engine [changes] now last)
    {freshConfig : Config} (hfreshNever : freshConfig.selectorHiding = .never) {freshClock : κ'}
    {fresh : Outcome Nat Nat κ'}
    (hfresh : Rests now.page ((Engine.new freshConfig freshClock).apply now.page sources) fresh)
    (n : Nat) : (n ∈ last.hiddenElements ↔ n ∈ fresh.engine.hiddenElements) ∨
      Document.SplitChange (registration serial sources).1 doc now
        ((doc.observe first.engine.observeOptions).changeAll changes).takeRecords.1 n := by
  obtain ⟨engine, hregistered, hfirst, hrevised⟩ := exists_revised hsources
    (fun p hp => (hled p hp).searches) hnever hformed hfull hbatch
  obtain ⟨-, rfl, -⟩ := hbatch.exists_of_single
  refine (Classical.em _).symm.imp_left fun hwhole => ?_
  rw [← splitChange_observe, ← hregistered] at hwhole
  have hkeeps := hrevised.recorded.keepsOutOfReach hrevised.searching
    (fun p hp => hled p (hregistered ▸ hp)) hwhole
  rw [hrevised.mem_hidden_iff hkeeps, mem_hidden_fresh hregistered hfirst hfreshNever hfresh,
    Document.takeRecords_eq, Document.page_telling]

/-! ### A span in a box -/

/-- A pattern for the spans with italics, in boxes with paragraphs. -/
def spanSources : List PatternSource :=
  [⟨"div:-abp-has(p) span:-abp-has(i)", "spans"⟩]

/-- A box with a span, and italics in the span. -/
def spanDocument : Document :=
  ((((Document.empty "https://example.com/").appendElement 0 "html").appendElement 1 "div"
    ).appendElement 2 "span").appendElement 3 "i"

theorem registration_spanSources : (registration 0 spanSources).1 =
    [⟨0, [.plain "div", .has [.plain "p"], .plain " span", .has [.plain "i"]], "spans"⟩] := by
  with_unfolding_all rfl

theorem spanSources_hasLed : ∀ p ∈ (registration 0 spanSources).1, p.chain.HasLed := by
  rw [registration_spanSources]
  exact List.forall_mem_singleton.mpr
    (.led (some "div") [.plain "p"] [.plain " span", .has [.plain "i"]] rfl rfl (by simp))

/-- The options under which an engine for these spans observes a document. -/
theorem observeOptions_spanSources :
    ((Engine.new Config.default ⟨.zero⟩ : Engine Nat Nat PausedClock).given
      spanSources).observeOptions = ⟨true, false, false, true, false⟩ := by
  unfold observeOptions
  rw [show ((Engine.new Config.default ⟨.zero⟩ : Engine Nat Nat PausedClock).given
    spanSources).patterns = (registration 0 spanSources).1 from rfl, registration_spanSources]
  rfl

/-- Italics come into the span of a box with a paragraph, in reach of both anchors. -/
theorem batch_agrees_unless_split_span :
    ∃ (first fresh : Outcome Nat Nat PausedClock) (now : Document)
      (last : Engine Nat Nat PausedClock),
      Execution pairDocument.page
        ((supplied pairDocument spanSources).startRun pairDocument.page .full) first ∧
      Batches (pairDocument.observe first.engine.observeOptions) first.engine
        [[.appendElement 4 "i"]] now last ∧
      Rests now.page ((Engine.new Config.default ⟨.zero⟩).apply now.page spanSources) fresh ∧
      (∀ n, ¬ Document.SplitChange (registration 0 spanSources).1 pairDocument now
        ((pairDocument.observe first.engine.observeOptions).changeAll
          [.appendElement 4 "i"]).takeRecords.1 n) ∧
      (∀ n, n ∈ last.hiddenElements ↔ n ∈ fresh.engine.hiddenElements) ∧
      4 ∈ last.hiddenElements := by
  obtain ⟨first, fresh, last, hfull, hoptions, hbatch, hfresh⟩ :=
    exists_batch pairDocument [.appendElement 4 "i"] observeOptions_spanSources (by decide)
  have hspan : 4 ∈ fresh.engine.hiddenElements := by
    refine mem_hidden_of_findings hfresh ?_
    rw [registration_spanSources]
    exact ⟨_, List.mem_singleton_self _, by decide +kernel⟩
  have hwhole : ∀ n, ¬ Document.SplitChange (registration 0 spanSources).1 pairDocument
      ((pairDocument.observe ⟨true, false, false, true, false⟩).changeAll
        [.appendElement 4 "i"]).takeRecords.2
      ((pairDocument.observe ⟨true, false, false, true, false⟩).changeAll
        [.appendElement 4 "i"]).takeRecords.1 n := by
    refine fun n => Document.not_splitChange ?_
    rw [registration_spanSources]
    decide +kernel
  rw [← hoptions] at hbatch hfresh hwhole
  obtain ⟨hsources, hnever⟩ := supplied_registers pairDocument spanSources
  have hagree := fun n => (batch_agrees_unless_split pairDocument _ _ _ spanSources 0 hsources
    spanSources_hasLed hnever (by decide) hfull hbatch rfl hfresh n).resolve_right (hwhole n)
  exact ⟨first, fresh, _, last, hfull, hbatch, hfresh, hwhole, hagree, (hagree 4).mpr hspan⟩

/--
**A split match is missed.**  A paragraph comes into the box.  From scratch the span is hidden
now, for there are italics in it.  The run for the change takes the box anew, but not the span:
the new paragraph lies neither inside of it nor around it.
-/
theorem span_missed :
    spanDocument.WellFormed ∧ ∃ (first fresh : Outcome Nat Nat PausedClock) (now : Document)
      (last : Engine Nat Nat PausedClock),
      Execution spanDocument.page
        ((supplied spanDocument spanSources).startRun spanDocument.page .full) first ∧
      Batches (spanDocument.observe first.engine.observeOptions) first.engine
        [[.appendElement 2 "p"]] now last ∧
      Rests now.page ((Engine.new Config.default ⟨.zero⟩).apply now.page spanSources) fresh ∧
      3 ∉ last.hiddenElements ∧ 3 ∈ fresh.engine.hiddenElements := by
  have hformed : spanDocument.WellFormed := by decide
  refine ⟨hformed, exists_missed observeOptions_spanSources
    (fun p hp => (spanSources_hasLed p hp).searches) hformed (by decide) ?_ ?_ ?_⟩
  · rw [registration_spanSources]
    decide +kernel
  · rw [registration_spanSources]
    exact ⟨_, List.mem_singleton_self _, by decide +kernel⟩
  · rw [registration_spanSources]
    decide +kernel

end Engine

end CosmeticFilter
