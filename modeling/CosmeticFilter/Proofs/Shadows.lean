/-
Patterns with `contains`, and the elements that a batch leaves in the shadow.

A `contains` link tells of the outermost matches only.  So the verdict on an element rests on
the texts of the candidates around it, too.  A run for changes looks anew at the elements that
a changed text lies inside of or around.  When the text of an outer candidate begins or ceases
to match because of a text beside an inner one, the inner one is not looked at: it is in the
shadow of the outer one, and stays hidden or shown as it was.

A text that matches an expression without tests still matches it with more text around.  So
an outer candidate matches whenever an inner one does, and no element is in a shadow.  This
holds for all literal texts.  Everything that is not in a shadow is as from scratch.
-/
import CosmeticFilter.Proofs.Outermost
import CosmeticFilter.Proofs.Revision

namespace CosmeticFilter

/-- The chain is a selector with an argument for `contains` behind it. -/
inductive Chain.ByText : Chain → Prop
  | contains (before argument : String) :
      ByText [.plain before, .contains (Regex.ofText? argument)]

theorem Chain.ByText.searches {chain : Chain} (h : chain.ByText) :
    Chain.searches chain = true := by
  cases h
  rfl

/-- **A selector with `contains` behind it** is read as a selector and an expression. -/
theorem Chain.parse_contains {selector : String} {before name after argument : List Char}
    (hfound : findPseudo? selector.toList = some ⟨before, .contains, name, after⟩)
    (hbefore : before ≠ []) (hclose : closeArgument? .top after = some (argument, [])) :
    Chain.parse selector = .ok [.plain (String.ofList before),
      .contains (Regex.ofText? (String.ofList argument))] := by
  obtain ⟨hspelt, htext⟩ := (isIn_of_findPseudo? hfound).isSpelt (by simp) hclose
  have hderives : (Phrase.expression .contains before name argument (.plain [])).Derives
      selector :=
    ⟨htext.symm, ⟨hspelt, isPlainText_iff.mpr rfl⟩, by simp [Phrase.IsLonelyContains, hbefore]⟩
  rw [Chain.parse_of_derives hderives, Phrase.chain, Phrase.plainLinks,
    if_neg (by simpa using hbefore)]
  rfl

namespace Document

variable {options : ObserveOptions} {patterns : List Pattern} {pattern : Pattern}
  {a b : Document} {n : Nat}

/-! ### Shadows -/

/--
An element whose text matches is out of reach of the changes, and lies inside of another
candidate, whose text has begun or ceased to match.
-/
@[mk_iff]
structure Shadows (a b : Document) (changes : List (Mutation Nat)) (text : String)
    (expression : Option Regex) (outer n : Nat) : Prop where
  finds : b.Finds text n
  holds : matchesText expression (b.page.textContent n) = true
  unreached : b.page.reaches changes n = false
  around : b.contains outer n = true
  other : outer ≠ n
  candidate : b.Finds text outer
  turned : matchesText expression (a.page.textContent outer) ≠
    matchesText expression (b.page.textContent outer)

/--
A pattern that does not relate siblings leaves the node in a shadow, and there the node has
become an outermost match, or is none any more.  The argument is an expression between slashes
that asks about positions.
-/
def Shadowed (patterns : List Pattern) (a b : Document) (changes : List (Mutation Nat))
    (n : Nat) : Prop :=
  ∃ pattern ∈ patterns, pattern.dependencies.siblings = false ∧ ∃ before argument,
    pattern.chain = [.plain before, .contains (Regex.ofText? argument)] ∧
      Argument.slashed? argument.toList ≠ none ∧
      (Regex.ofText? argument).any (·.expr.hasTests) = true ∧
      (∃ outer,
        Shadows a b changes (SelectorText.complete before) (Regex.ofText? argument) outer n) ∧
      ¬ (a.Outermost (SelectorText.complete before) (Regex.ofText? argument) n ↔
        b.Outermost (SelectorText.complete before) (Regex.ofText? argument) n)

/-- Nothing is in a shadow if no candidate turns around another one. -/
theorem not_shadowed {changes : List (Mutation Nat)}
    (h : ∀ pattern ∈ patterns, ∀ before expression,
      pattern.chain = [.plain before, .contains expression] →
      ∃ nodes, b.page.queryAll 0 (SelectorText.complete before) = .ok nodes ∧
        ∀ outer ∈ nodes, ∀ n ∈ nodes, b.contains outer n = true → outer ≠ n →
          matchesText expression (a.page.textContent outer) =
            matchesText expression (b.page.textContent outer)) :
    ¬ Shadowed patterns a b changes n := by
  rintro ⟨pattern, hpattern, -, before, argument, hchain, -, -, ⟨outer, hshadow⟩, -⟩
  obtain ⟨nodes, hnodes, hkept⟩ := h pattern hpattern before _ hchain
  have hlisted : ∀ {m : Nat}, b.Finds (SelectorText.complete before) m → m ∈ nodes := by
    rintro m ⟨found, hfound, hm⟩
    exact Except.ok.inj (hfound.symm.trans hnodes) ▸ hm
  exact hshadow.turned (hkept outer (hlisted hshadow.candidate) n (hlisted hshadow.finds)
    hshadow.around hshadow.other)

/-! ### Out of the shadow -/

namespace Spared

variable {deps : Dependencies} (h : Spared options deps a b n) (htext : deps.text = true)
  {expression : Option Regex}

include h htext

/-- Only an expression with tests can turn around a spared match. -/
theorem hasTests_of_turned (hholds : matchesText expression (b.page.textContent n) = true)
    {outer : Nat} (haround : b.contains outer n = true)
    (hturned : matchesText expression (a.page.textContent outer) ≠
      matchesText expression (b.page.textContent outer)) :
    expression.any (·.expr.hasTests) = true := by
  have hn : b.page.related n n = true := related_of_contains (contains_self n)
  have hsame : b.page.textContent n = a.page.textContent n :=
    h.textContent_eq htext (contains_self n)
  by_contra htests
  rw [Bool.not_eq_true] at htests
  have hafter := matchesText_of_contains haround htests hholds
  rw [hsame] at hholds
  have haround := (h.documented.contains_iff (h.old hn) (h.isConnected hn)).mp haround
  exact hturned ((matchesText_of_contains haround htests hholds).trans hafter.symm)

/-- A spared element is an outermost match as before, if no candidate around it has turned. -/
theorem outermost_iff (htop : a.isElement 0 = false) {text : String} (hfits : Fits deps text.toList)
    (hsame : b.Finds text n → matchesText expression (b.page.textContent n) = true → ∀ outer,
      b.contains outer n = true → outer ≠ n → b.Finds text outer →
      matchesText expression (a.page.textContent outer) =
        matchesText expression (b.page.textContent outer)) :
    b.Outermost text expression n ↔ a.Outermost text expression n := by
  have hn : b.page.related n n = true := related_of_contains (contains_self n)
  have haround : ∀ outer, b.contains outer n = true ↔ a.contains outer n = true :=
    fun _ => h.documented.contains_iff (h.old hn) (h.isConnected hn)
  have hfinds : ∀ outer, b.contains outer n = true → (b.Finds text outer ↔ a.Finds text outer) :=
    fun _ houter => h.finds_iff htop hfits (related_iff.mpr (.inr houter))
  have htexts : b.page.textContent n = a.page.textContent n :=
    h.textContent_eq htext (contains_self n)
  have hself := hfinds n (contains_self n)
  constructor
  · rintro ⟨hfound, hholds, halone⟩
    refine ⟨hself.mp hfound, htexts ▸ hholds, fun outer hother houter hmatch => ?_⟩
    have houter := (haround outer).mpr houter
    have hother := (hfinds outer houter).mpr hother
    by_contra hne
    have hturned := hsame hfound hholds outer houter hne hother
    exact hne (halone outer hother houter (hturned.symm.trans hmatch))
  · rintro ⟨hfound, hholds, halone⟩
    have hfound := hself.mpr hfound
    have hholds : matchesText expression (b.page.textContent n) = true := htexts ▸ hholds
    refine ⟨hfound, hholds, fun outer hother houter hmatch => ?_⟩
    by_contra hne
    have hturned := hsame hfound hholds outer houter hne hother
    exact hne (halone outer ((hfinds outer houter).mp hother) ((haround outer).mp houter)
      (hturned.trans hmatch))

end Spared

/-- Out of reach, what is not in a shadow is found as before. -/
theorem Recorded.findsBy_iff_of_clear (h : Recorded options patterns a b)
    (hpattern : pattern ∈ patterns) (hsiblings : pattern.dependencies.siblings = false)
    {before argument : String}
    (hchain : pattern.chain = [.plain before, .contains (Regex.ofText? argument)])
    (hclear : ¬ Shadowed patterns a b b.records n) (hn : b.isConnected n = true)
    (hunreached : b.page.reaches b.records n = false) :
    Chain.FindsBy b pattern.chain [n] n ↔ Chain.FindsBy a pattern.chain [n] n := by
  have hwithin : (Chain.dependencies pattern.chain).Within pattern.dependencies := .refl _
  rw [hchain] at hwithin
  have hfits := (fits_of_within (within_link hwithin)).complete
  have htext : pattern.dependencies.text = true := by
    rw [Pattern.dependencies, hchain]
    rfl
  have hspared := h.spared_of_unreached hpattern hsiblings hn hunreached
  have hrelated : b.page.related n n = true := Spared.related_of_contains (contains_self n)
  have hpath : Fits pattern.dependencies (a.page.path n).toList := by
    rw [← List.append_nil (a.page.path n).toList]
    exact (h.before.tagged.path_inert n).fits .nil
  rw [hchain, h.after.findsBy_contains, h.before.findsBy_contains]
  refine and_congr_right fun _ => and_congr ?_ ?_
  · by_contra hchanged
    refine hchanged (hspared.outermost_iff htext h.before.not_isElement_top hfits ?_)
    intro hfound hholds outer haround hne hother
    by_contra hturned
    have htests := hspared.hasTests_of_turned htext hholds haround hturned
    refine hclear ⟨pattern, hpattern, hsiblings, before, argument, hchain, ?_, htests,
      ⟨outer, hfound, hholds, hunreached, haround, hne, hother, hturned⟩,
      fun hsame => hchanged hsame.symm⟩
    intro hliteral
    simp [Regex.hasTests_literal hliteral] at htests
  · rw [hspared.path_eq hrelated]
    exact hspared.finds_iff h.before.not_isElement_top hpath hrelated

/-- What such a chain finds is its only anchor. -/
theorem WellFormed.anchors_of_byText {doc : Document} (h : doc.WellFormed) {chain : Chain}
    (htext : chain.ByText) {anchors : List Nat} (hfinds : chain.FindsBy doc anchors n) :
    anchors = [n] := by
  cases htext
  exact (h.findsBy_contains.mp hfinds).1

/-- An element that is not in a shadow is found as before out of reach. -/
theorem Recorded.keepsOutOfReach_byText (h : Recorded options patterns a b)
    (htexts : ∀ p ∈ patterns, p.chain.ByText) (hclear : ¬ Shadowed patterns a b b.records n) :
    Engine.KeepsOutOfReach patterns a b n := by
  intro pattern hpattern hsiblings anchors hsome
  have hshape := htexts pattern hpattern
  have hiff : anchors = [n] → b.isConnected n = true →
      (pattern.chain.FindsBy b anchors n ↔ pattern.chain.FindsBy a anchors n) := by
    rintro rfl hn
    obtain ⟨c, hc, hunreached⟩ := hsome
    obtain rfl := List.mem_singleton.mp hc
    generalize hchain : pattern.chain = chain at hshape
    obtain ⟨before, argument⟩ := hshape
    rw [← hchain]
    exact h.findsBy_iff_of_clear hpattern hsiblings hchain hclear hn hunreached
  constructor
  · intro hfinds
    have hn := hfinds.place.2
    exact ⟨(hiff (h.after.anchors_of_byText hshape hfinds) hn).mp hfinds, hn⟩
  · rintro ⟨hfinds, hn⟩
    exact (hiff (h.before.anchors_of_byText hshape hfinds) hn).mpr hfinds

end Document

namespace Engine

variable {κ : Type} [Clock κ]

/-- Records are nothing that a search looks at. -/
theorem shadowed_observe {patterns : List Pattern} {doc after : Document}
    {options : ObserveOptions} {changes : List (Mutation Nat)} {n : Nat} :
    Document.Shadowed patterns (doc.observe options) after changes n ↔
      Document.Shadowed patterns doc after.takeRecords.2 changes n := by
  rw [Document.observe_eq, Document.takeRecords_eq]
  simp only [Document.Shadowed, Document.shadows_iff, Document.outermost_iff, Document.Finds,
    Document.page_telling, Document.contains_telling]

/--
**One batch agrees with filtering from scratch, but for shadows.**  A reachable engine whose
patterns are selectors with `contains` has completed a full run on a well-formed document.
After a batch of changes an element is hidden if and only if a fresh engine hides it, unless
it is in a shadow.  There is none where the argument is literal, or asks nothing about
positions.
-/
theorem batch_agrees_unless_shadowed {κ' : Type} [Clock κ'] (doc : Document) (config : Config)
    (clock : κ) (events : List (Event Nat Nat κ)) (sources : List PatternSource) (serial : Nat)
    {first : Outcome Nat Nat κ}
    (hsources : ((Engine.new config clock).meetAll events).engine.patterns =
      (registration serial sources).1)
    (htexts : ∀ p ∈ (registration serial sources).1, p.chain.ByText)
    (hnever : ((Engine.new config clock).meetAll events).engine.config.selectorHiding = .never)
    (hformed : doc.WellFormed)
    (hfull : Execution doc.page
      (((Engine.new config clock).meetAll events).engine.startRun doc.page .full) first)
    {changes : List Change} {now : Document} {last : Engine Nat Nat κ}
    (hbatch : Batches (doc.observe first.engine.observeOptions) first.engine [changes] now last)
    {freshConfig : Config} (hfreshNever : freshConfig.selectorHiding = .never) {freshClock : κ'}
    {fresh : Outcome Nat Nat κ'}
    (hfresh : Rests now.page ((Engine.new freshConfig freshClock).apply now.page sources) fresh)
    (n : Nat) : (n ∈ last.hiddenElements ↔ n ∈ fresh.engine.hiddenElements) ∨
      Document.Shadowed (registration serial sources).1 doc now
        ((doc.observe first.engine.observeOptions).changeAll changes).takeRecords.1 n := by
  obtain ⟨engine, hregistered, hfirst, hrevised⟩ := exists_revised hsources
    (fun p hp => (htexts p hp).searches) hnever hformed hfull hbatch
  obtain ⟨-, rfl, -⟩ := hbatch.exists_of_single
  refine (Classical.em _).symm.imp_left fun hclear => ?_
  rw [← shadowed_observe, ← hregistered] at hclear
  have hkeeps := hrevised.recorded.keepsOutOfReach_byText
    (fun p hp => htexts p (hregistered ▸ hp)) hclear
  rw [hrevised.mem_hidden_iff hkeeps, mem_hidden_fresh hregistered hfirst hfreshNever hfresh,
    Document.takeRecords_eq, Document.page_telling]

/-! ### A box in a box -/

/-- A pattern for the boxes whose whole text is a `b`, with an `a` in front of it or not. -/
def letterSources : List PatternSource :=
  [⟨"div:-abp-contains(/^a?b$/)", "letters"⟩]

/-- A box with an `a` in it, and a box with a `b`. -/
def letterDocument : Document :=
  (((((Document.empty "https://example.com/").appendElement 0 "html").appendElement 1 "div"
    ).appendText 2 "a").appendElement 2 "div").appendText 4 "b"

theorem registration_letterSources : (registration 0 letterSources).1 =
    [⟨0, [.plain "div", .contains (Regex.ofText? "/^a?b$/")], "letters"⟩] := by
  have hfound : findPseudo? "div:-abp-contains(/^a?b$/)".toList =
      some ⟨"div".toList, .contains, "-abp-contains".toList, "/^a?b$/)".toList⟩ := rfl
  have hclose : closeArgument? .top "/^a?b$/)".toList = some ("/^a?b$/".toList, []) := rfl
  have hread := Chain.parse_contains hfound (by decide) hclose
  rw [String.ofList_toList, String.ofList_toList, Chain.parse] at hread
  simp only [letterSources, registration, hread]

theorem letterSources_byText : ∀ p ∈ (registration 0 letterSources).1, p.chain.ByText := by
  rw [registration_letterSources]
  exact List.forall_mem_singleton.mpr (.contains "div" "/^a?b$/")

/-- The options under which an engine for these boxes observes a document. -/
theorem observeOptions_letterSources :
    ((Engine.new Config.default ⟨.zero⟩ : Engine Nat Nat PausedClock).given
      letterSources).observeOptions = ⟨true, false, true, true, false⟩ := by
  unfold observeOptions
  rw [show ((Engine.new Config.default ⟨.zero⟩ : Engine Nat Nat PausedClock).given
    letterSources).patterns = (registration 0 letterSources).1 from rfl,
    registration_letterSources]
  rfl

/-- Another box comes with a `b` in it, so that no candidate turns around one. -/
theorem batch_agrees_unless_shadowed_letters :
    ∃ (first fresh : Outcome Nat Nat PausedClock) (now : Document)
      (last : Engine Nat Nat PausedClock),
      Execution letterDocument.page
        ((supplied letterDocument letterSources).startRun letterDocument.page .full) first ∧
      Batches (letterDocument.observe first.engine.observeOptions) first.engine
        [[.appendElement 1 "div", .appendText 6 "b"]] now last ∧
      Rests now.page ((Engine.new Config.default ⟨.zero⟩).apply now.page letterSources) fresh ∧
      (∀ n, ¬ Document.Shadowed (registration 0 letterSources).1 letterDocument now
        ((letterDocument.observe first.engine.observeOptions).changeAll
          [.appendElement 1 "div", .appendText 6 "b"]).takeRecords.1 n) ∧
      (∀ n, n ∈ last.hiddenElements ↔ n ∈ fresh.engine.hiddenElements) ∧
      6 ∈ last.hiddenElements := by
  obtain ⟨first, fresh, last, hfull, hoptions, hbatch, hfresh⟩ :=
    exists_batch letterDocument [.appendElement 1 "div", .appendText 6 "b"]
      observeOptions_letterSources (by decide)
  have hbox : 6 ∈ fresh.engine.hiddenElements := by
    refine mem_hidden_of_findings hfresh ?_
    rw [registration_letterSources]
    exact ⟨_, List.mem_singleton_self _, by decide +kernel⟩
  have hclear : ∀ n, ¬ Document.Shadowed (registration 0 letterSources).1 letterDocument
      ((letterDocument.observe ⟨true, false, true, true, false⟩).changeAll
        [.appendElement 1 "div", .appendText 6 "b"]).takeRecords.2
      ((letterDocument.observe ⟨true, false, true, true, false⟩).changeAll
        [.appendElement 1 "div", .appendText 6 "b"]).takeRecords.1 n := by
    refine fun n => Document.not_shadowed fun pattern hpattern before expression hchain => ?_
    rw [registration_letterSources, List.mem_singleton] at hpattern
    subst hpattern
    cases hchain
    exact ⟨[2, 4, 6], by decide +kernel, by decide +kernel⟩
  rw [← hoptions] at hbatch hfresh hclear
  obtain ⟨hsources, hnever⟩ := supplied_registers letterDocument letterSources
  have hagree := fun n => (batch_agrees_unless_shadowed letterDocument _ _ _ letterSources 0
    hsources letterSources_byText hnever (by decide) hfull hbatch rfl hfresh n).resolve_right
      (hclear n)
  exact ⟨first, fresh, _, last, hfull, hbatch, hfresh, hclear, hagree, (hagree 6).mpr hbox⟩

/--
**A match in a shadow is missed.**  The outer box is hidden, for its text is `ab`.  The `a`
becomes a `c`, so that from scratch the inner box is hidden instead.  The run for the change
finds that the outer box does not match any more, but the changed text lies neither inside of
the inner box nor around it.
-/
theorem letters_missed :
    letterDocument.WellFormed ∧ ∃ (first fresh : Outcome Nat Nat PausedClock) (now : Document)
      (last : Engine Nat Nat PausedClock),
      Execution letterDocument.page
        ((supplied letterDocument letterSources).startRun letterDocument.page .full) first ∧
      Batches (letterDocument.observe first.engine.observeOptions) first.engine
        [[.setText 3 "c"]] now last ∧
      Rests now.page ((Engine.new Config.default ⟨.zero⟩).apply now.page letterSources) fresh ∧
      4 ∉ last.hiddenElements ∧ 4 ∈ fresh.engine.hiddenElements := by
  have hformed : letterDocument.WellFormed := by decide
  refine ⟨hformed, exists_missed observeOptions_letterSources
    (fun p hp => (letterSources_byText p hp).searches) hformed (by decide) ?_ ?_ ?_⟩
  · rw [registration_letterSources]
    decide +kernel
  · rw [registration_letterSources]
    exact ⟨_, List.mem_singleton_self _, by decide +kernel⟩
  · rw [registration_letterSources]
    decide +kernel

end Engine

end CosmeticFilter
