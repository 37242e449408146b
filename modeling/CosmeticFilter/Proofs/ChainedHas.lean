/-
A `has` behind a `has`.

Two conditions in a row, with a selector in front and maybe more text between them, ask for
elements that are reached by way of an anchor: the anchor matches the selector and holds the
first level, and the element is reached from it through the text between, and holds the second.

The second link looks for its candidates inside of the anchor, whatever the text between is.
With a descendant or child combinator in front of the text this is where all elements lie that
it leads to, so that they are found.  Otherwise it leads to the anchor itself, or to what lies
beside it, and nothing is found at all.
-/
import CosmeticFilter.Proofs.Continuations
import CosmeticFilter.Proofs.FullRuns
import CosmeticFilter.Proofs.NestedHas

namespace CosmeticFilter

open CosmeticFilter.Text

/-! ### Reading -/

/-- A selector with a level, a continuation and one more level behind it. -/
def chainedText (front : String) (first : HasLevel) (between : Continuation) (second : HasLevel) :
    String :=
  front ++ ":" ++ first.name ++ "(" ++ first.front ++ ")" ++ between.text ++
    ":" ++ second.name ++ "(" ++ second.front ++ ")"

/-- The link of a level. -/
def HasLevel.link (level : HasLevel) : Link :=
  .has (nestedChain level.front [])

section Reading

variable {front : String} {first second : HasLevel} {between : Continuation}

/-- How such a text is put together. -/
def chainedPhrase (front : String) (first : HasLevel) (between : Continuation)
    (second : HasLevel) : Phrase :=
  .has front.toList first.name.toList (nestedPhrase first.front [])
    (.has between.text.toList second.name.toList (nestedPhrase second.front []) (.plain []))

/-- **Both levels are read**, and what stands between them. -/
theorem Chain.parse_chained (hfront : Opening front) (hfirst : first.WellSpelt)
    (hbetween : between.WellSpelt) (hsecond : second.WellSpelt) :
    Chain.parse (chainedText front first between second) =
      .ok (.plain front :: first.link ::
        (Phrase.plainLinks between.text.toList ++ [second.link])) := by
  obtain ⟨hspelt, hargument, -⟩ :=
    nestedPhrase_correct hfront (List.forall_mem_singleton.mpr hfirst)
  obtain ⟨⟨-, hname, hbalanced⟩, hother, hnone⟩ :=
    nestedPhrase_correct hfront (List.forall_mem_singleton.mpr hsecond)
  have hplain := isPlainText_iff.mpr hbetween.not_extended
  have htext : (chainedPhrase front first between second).text =
      (chainedText front first between second).toList := by
    simp [chainedPhrase, chainedText, Phrase.text, nestedPhrase]
  have hderives : (chainedPhrase front first between second).Derives
      (chainedText front first between second) :=
    ⟨htext, ⟨hspelt, hargument, ⟨hplain, hname, hbalanced⟩, hother, hnone⟩,
      by simp [chainedPhrase, Phrase.IsLonelyContains]⟩
  have hlinks : Phrase.plainLinks front.toList = [.plain front] := by
    rw [Phrase.plainLinks, if_neg (by simpa using hfront.filled), String.ofList_toList]
  rw [parse_of_derives hderives, chainedPhrase, Phrase.chain, Phrase.chain, hlinks,
    nestedPhrase_chain hfirst.opening (by simp), nestedPhrase_chain hsecond.opening (by simp)]
  rfl

end Reading

/-! ### Meaning -/

namespace Document

variable {doc : Document}

/--
The element is reached by way of an anchor, which matches the selector and holds the first
level, and it holds the second level.
-/
def HoldsChained (doc : Document) (front : String) (first : HasLevel) (between : Continuation)
    (second : HasLevel) (e : Nat) : Prop :=
  doc.isElement e = true ∧ ∃ a, (doc.isElement a = true ∧ doc.isConnected a = true ∧
      ∃ m, Complex.Spans doc.family.tree none (Complex.parse front).first
        (Complex.parse front).rest m a) ∧
    doc.HoldsNested [first] a ∧ between.Reaches doc a e ∧ doc.HoldsNested [second] e

/-- What the last link finds behind the path of an anchor. -/
theorem mem_founds_between {styles : List Style} {text : String} {link : Link} {before : String}
    {scope : Nat} {found : String × List Nat} :
    found ∈ founds (Evaluation.items ⟨doc.page, styles, none⟩
        (Phrase.plainLinks text.toList ++ [link]) before scope) ↔
      found ∈ founds (Evaluation.items ⟨doc.page, styles, none⟩ [link] (before ++ text) scope) := by
  unfold Phrase.plainLinks
  split
  · rename_i hempty
    obtain rfl : text = "" := by simpa using hempty
    rw [String.append_empty]
    rfl
  · rw [String.ofList_toList]
    exact Evaluation.mem_founds_plain

variable (h : doc.WellFormed) (hsize : doc.size ≤ maxWord)

include h hsize

/-- A match has two anchors, the one of the first level and the element itself. -/
theorem findsBy_chained {front : String} (hfront : Canonical front) {first second : HasLevel}
    (hfirst : first.WellSpelt) {between : Continuation} (hbetween : between.WellSpelt)
    (hsecond : second.WellSpelt) {anchors : List Nat} {e : Nat} :
    Chain.FindsBy doc
        (.plain front :: first.link :: (Phrase.plainLinks between.text.toList ++ [second.link]))
        anchors e ↔
      ∃ a, anchors = [a, e] ∧ doc.Finds front a ∧ doc.HoldsNested [first] a ∧
        (doc.isElement e = true ∧ doc.Inside a e) ∧ between.Reaches doc a e ∧
        doc.HoldsNested [second] e := by
  have hholds : ∀ {level : HasLevel}, level.WellSpelt → ∀ {n : Nat}, doc.isElement n = true →
      doc.isConnected n = true → (Evaluation.holdsAt doc.page (doc.page.styles doc.page.sheets)
        (nestedChain level.front []) n = true ↔ doc.HoldsNested [level] n) :=
    fun hlevel _ => holdsAt_nested h hsize _ (List.forall_mem_singleton.mpr hlevel)
  have hled : Chain.FindsBy doc (Chain.plains (some front) ++ .has (nestedChain first.front []) ::
      (Phrase.plainLinks between.text.toList ++ [second.link])) anchors e ↔ _ := findsBy_led
  simp only [Option.getD_some, hfront.complete, mem_founds_between, HasLevel.link,
    Evaluation.mem_founds_has_cons] at hled
  refine hled.trans ⟨?_, ?_⟩
  · rintro ⟨a, more, rfl, ha, hone, selector, ⟨d, hd, htwo, inner, hinner, heq⟩, he⟩
    obtain ⟨haelement, hconnected⟩ := ha.place
    obtain ⟨⟨hdelement, hinside⟩, hreaches⟩ :=
      (h.mem_candidates_continued hsize haelement hconnected hbetween).mp hd
    have hdconnected := contains_trans hconnected hinside.1
    obtain rfl := List.mem_singleton.mp hinner
    obtain ⟨rfl, rfl⟩ := Prod.mk.inj heq
    obtain rfl := (h.finds_path_iff hsize hdelement hdconnected).mp he
    exact ⟨a, rfl, ha, (hholds hfirst haelement hconnected).mp hone, ⟨hdelement, hinside⟩,
      hreaches, (hholds hsecond hdelement hdconnected).mp htwo⟩
  · rintro ⟨a, rfl, ha, hone, ⟨he, hinside⟩, hreaches, htwo⟩
    obtain ⟨haelement, hconnected⟩ := ha.place
    have heconnected := contains_trans hconnected hinside.1
    have hcandidate := (h.mem_candidates_continued hsize haelement hconnected hbetween).mpr
      ⟨⟨he, hinside⟩, hreaches⟩
    exact ⟨a, [e], rfl, ha, (hholds hfirst haelement hconnected).mpr hone, doc.page.path e,
      ⟨e, hcandidate, (hholds hsecond he heconnected).mpr htwo, _, List.mem_singleton_self _, rfl⟩,
      (h.finds_path_iff hsize he heconnected).mpr rfl⟩

/-- **What the chain finds**: what holds both levels, if the continuation goes down. -/
theorem findsOn_chained {front : String} (hfront : Canonical front) {first second : HasLevel}
    (hfirst : first.WellSpelt) {between : Continuation} (hbetween : between.WellSpelt)
    (hsecond : second.WellSpelt) (e : Nat) :
    Chain.FindsOn doc
        (.plain front :: first.link :: (Phrase.plainLinks between.text.toList ++ [second.link])) e ↔
      between.goesIn = true ∧ doc.HoldsChained front first between second e := by
  simp only [Chain.findsOn_iff, findsBy_chained h hsize hfront hfirst hbetween hsecond]
  unfold HoldsChained
  constructor
  · rintro ⟨anchors, a, -, ha, hone, ⟨he, hinside⟩, hreaches, htwo⟩
    exact ⟨hreaches.inside_iff.mp hinside, he, a, (hfront.finds_iff h a).mp ha, hone, hreaches,
      htwo⟩
  · rintro ⟨hgoes, he, a, ha, hone, hreaches, htwo⟩
    exact ⟨[a, e], a, rfl, (hfront.finds_iff h a).mpr ha, hone,
      ⟨he, hreaches.inside_iff.mpr hgoes⟩, hreaches, htwo⟩

end Document

namespace Engine

variable {κ : Type} [Clock κ]

/-- Such chains hide matched elements, unless all patterns are reported as selectors. -/
theorem FullRun.mem_hidden_chained {doc : Document} {engine last : Engine Nat Nat κ}
    {known : Pattern → Prop} (hconsistent : Consistent known engine)
    (hshown : engine.config.selectorHiding ≠ .always) (hformed : doc.WellFormed)
    (hsize : doc.size ≤ maxWord) {front : String} (hfront : Canonical front)
    {first second : HasLevel} (hfirst : first.WellSpelt) {between : Continuation}
    (hbetween : between.WellSpelt) (hsecond : second.WellSpelt) {source : PatternSource}
    (hsource : source.selector = chainedText front first between second)
    (hrun : FullRun doc engine source last) (e : Nat) :
    e ∈ last.hiddenElements ↔
      between.goesIn = true ∧ doc.HoldsChained front first between second e := by
  have hparse := hsource ▸ Chain.parse_chained hfront.opening hfirst hbetween hsecond
  rw [hrun.mem_hidden_iff hconsistent hparse (List.cons_ne_nil _ _) hshown
    (by simp [Chain.resolvesToSelectors, HasLevel.link, Link.judgesElements])]
  exact Document.findsOn_chained hformed hsize hfront hfirst hbetween hsecond e

/--
**A `has` behind a `has` looks inside of the anchor.**  An engine with any history that does
not report every pattern as selectors is given a canonical selector with a level behind it, a
continuation and a second level.  On a well-formed document, whose nodes are numbered by
machine words, a full run can be completed.  Whatever wake-ups complete it, if the continuation
opens with a descendant or child combinator, just the elements are hidden that hold the second
level and are reached through it from an element that matches the selector and holds the first.
If it is empty, adds conditions or goes on to siblings, nothing is hidden.
-/
theorem full_run_hides_chained_has (doc : Document) (config : Config) (clock : κ)
    (events : List (Event Nat Nat κ)) {engine : Engine Nat Nat κ}
    (hreached : ((Engine.new config clock).meetAll events).engine = engine)
    (hshown : engine.config.selectorHiding ≠ .always) (hformed : doc.WellFormed)
    (hsize : doc.size ≤ maxWord) {front : String} (hfront : Canonical front)
    {first second : HasLevel} (hfirst : first.WellSpelt) {between : Continuation}
    (hbetween : between.WellSpelt) (hsecond : second.WellSpelt) (source : PatternSource)
    (hsource : source.selector = chainedText front first between second) :
    (∃ last, FullRun doc engine source last) ∧
      ∀ last, FullRun doc engine source last → ∀ e, e ∈ last.hiddenElements ↔
        between.goesIn = true ∧ doc.HoldsChained front first between second e := by
  obtain ⟨known, hconsistent⟩ := meetAll_consistent (S := Nat) (N := Nat) config clock events
  rw [hreached] at hconsistent
  exact ⟨exists_fullRun doc engine source, fun last hrun => hrun.mem_hidden_chained hconsistent
    hshown hformed hsize hfront hfirst hbetween hsecond hsource⟩

/-! ### A box with two children -/

/-- Below the element there is one with the tag that the level asks for. -/
theorem holdsNested_type {doc : Document} {level : HasLevel} {tag : String} {e d : Nat}
    (hparse : Complex.parse level.text = ⟨[.type tag], []⟩) (hchild : level.child = false)
    (hd : doc.isElement d = true ∧ doc.contains e d = true ∧ d ≠ e)
    (htag : Compound.matches doc.family.tree (some e) d [.type tag] = true) :
    doc.HoldsNested [level] e := by
  refine ⟨d, hd, ⟨d, fun hyes => absurd (hchild.symm.trans hyes) Bool.false_ne_true, ?_⟩, trivial⟩
  rw [hparse]
  exact ⟨htag, rfl⟩

/-- The box is a child of the root, which has a paragraph in it. -/
theorem full_run_hides_chained_has_pair :
    let first : HasLevel := ⟨"has", false, "p"⟩
    let second : HasLevel := ⟨"-abp-has", false, "span"⟩
    let between : Continuation := .onward .child ">" "div"
    let source : PatternSource := ⟨"html:has(p)>div:-abp-has(span)", "pairs"⟩
    let engine : Engine Nat Nat PausedClock := .new Config.default ⟨.zero⟩
    pairDocument.WellFormed ∧ Canonical "html" ∧ first.WellSpelt ∧ between.WellSpelt ∧
      second.WellSpelt ∧ source.selector = chainedText "html" first between second ∧
      (∃ last, FullRun pairDocument engine source last) ∧
      ∀ last, FullRun pairDocument engine source last → 2 ∈ last.hiddenElements := by
  intro first second between source engine
  have hhtml : Complex.parse "html" = ⟨[.type "html"], []⟩ := by cbv
  have hdiv : Complex.parse "div" = ⟨[.type "div"], []⟩ := by cbv
  have hp : Complex.parse "p" = ⟨[.type "p"], []⟩ := by cbv
  have hspan : Complex.parse "span" = ⟨[.type "span"], []⟩ := by cbv
  have hfront : Canonical "html" := .of_type hhtml (by cbv)
  have hfirst : first.WellSpelt := ⟨.inl (by decide), .of_type hp (by cbv)⟩
  have hbetween : between.WellSpelt :=
    ⟨⟨by decide, [], [], by simp, by decide⟩, .of_type hdiv (by cbv)⟩
  have hsecond : second.WellSpelt := ⟨.inr (by decide), .of_type hspan (by cbv)⟩
  have hsource : source.selector = chainedText "html" first between second := by decide
  obtain ⟨hexists, hhides⟩ := full_run_hides_chained_has pairDocument Config.default
    (⟨.zero⟩ : PausedClock) [] rfl (by decide) (by decide) (by decide) hfront hfirst hbetween
    hsecond source hsource
  refine ⟨by decide, hfront, hfirst, hbetween, hsecond, hsource, hexists,
    fun last hrun => (hhides last hrun 2).mpr ⟨rfl, by decide, 1, ⟨by decide, by decide, 1, ?_⟩,
      holdsNested_type hp rfl (d := 3) (by decide) (by decide), ⟨2, by decide, ?_⟩,
      holdsNested_type hspan rfl (d := 4) (by decide) (by decide)⟩⟩
  · rw [hhtml]
    exact ⟨by decide, rfl⟩
  · rw [hdiv]
    exact ⟨by decide, rfl⟩

/--
**Two conditions on one element are never met.**  The box has a paragraph and a span in it, and
a full run for both of them does not hide it.
-/
theorem second_has_missed :
    let first : HasLevel := ⟨"has", false, "p"⟩
    let second : HasLevel := ⟨"has", false, "span"⟩
    let source : PatternSource := ⟨"div:has(p):has(span)", "pairs"⟩
    let engine : Engine Nat Nat PausedClock := .new Config.default ⟨.zero⟩
    pairDocument.WellFormed ∧ Canonical "div" ∧ first.WellSpelt ∧ second.WellSpelt ∧
      source.selector = chainedText "div" first .same second ∧
      pairDocument.HoldsChained "div" first .same second 2 ∧
      (∃ last, FullRun pairDocument engine source last) ∧
      ∀ last, FullRun pairDocument engine source last → 2 ∉ last.hiddenElements := by
  intro first second source engine
  have hdiv : Complex.parse "div" = ⟨[.type "div"], []⟩ := by cbv
  have hp : Complex.parse "p" = ⟨[.type "p"], []⟩ := by cbv
  have hspan : Complex.parse "span" = ⟨[.type "span"], []⟩ := by cbv
  have hfront : Canonical "div" := .of_type hdiv (by cbv)
  have hfirst : first.WellSpelt := ⟨.inl (by decide), .of_type hp (by cbv)⟩
  have hsecond : second.WellSpelt := ⟨.inl (by decide), .of_type hspan (by cbv)⟩
  have hsource : source.selector = chainedText "div" first .same second := by decide
  obtain ⟨known, hconsistent⟩ :=
    meetAll_consistent (S := Nat) (N := Nat) Config.default (⟨.zero⟩ : PausedClock) []
  refine ⟨by decide, hfront, hfirst, hsecond, hsource, ⟨by decide, 2, ⟨by decide, by decide, 2, ?_⟩,
    holdsNested_type hp rfl (d := 3) (by decide) (by decide), rfl,
    holdsNested_type hspan rfl (d := 4) (by decide) (by decide)⟩,
    exists_fullRun pairDocument engine source, fun last hrun hhidden => ?_⟩
  · rw [hdiv]
    exact ⟨by decide, rfl⟩
  · have hsame : Continuation.WellSpelt .same := trivial
    have hgoes := (hrun.mem_hidden_chained hconsistent (by decide) (by decide) (by decide) hfront
      hfirst hsame hsecond hsource 2).mp hhidden
    exact Bool.false_ne_true hgoes.1

end Engine

end CosmeticFilter
