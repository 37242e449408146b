/-
The order in which news arrive does not matter.

Two partial requests name the same style sheets and tell of the same changes, in any order
and any number of times; so it is with two mergers of the same requests.  Each asks for all
that the other asks for, so their runs agree, and make the same of the hidden elements.

What they process on the way is the same, too, as long as the styles come in the same order.
For new sheets alone they need not: a trial of an argument stops at the first selector that
leads anywhere, and has looked by then at more or fewer candidates.  Arguments that are
settled are safe from that.
-/
import CosmeticFilter.Proofs.Agreement
import CosmeticFilter.Proofs.Lookup
import CosmeticFilter.Proofs.Modes
import CosmeticFilter.Proofs.Settled
import CosmeticFilter.Proofs.Stylesheets

namespace CosmeticFilter

open Classification (SameTargets Agree)

variable {N S κ : Type} [DecidableEq N]

/-! ### What is processed -/

omit [DecidableEq N] in
theorem Scene.prunes_congr {page : Page N S} {first second : Candidate N}
    (h : SameTargets first.targets second.targets) (styles others : List Style) :
    (⟨page, styles, first.targets⟩ : Scene N S).prunes =
      (⟨page, others, second.targets⟩ : Scene N S).prunes := by
  obtain ⟨_, targets⟩ := first
  obtain ⟨_, others⟩ := second
  funext candidate
  unfold Scene.prunes
  cases show SameTargets targets others from h with
  | none => rfl
  | some hsame => simp only [Option.any_some, any_eq_of_mem_iff hsame]

/-- The same patterns examine the same with the same styles, or if their arguments are settled. -/
theorem Run.examined_congr {page : Page N S} {first second : Candidate N}
    (hpattern : second.pattern = first.pattern)
    (htargets : SameTargets first.targets second.targets) {styles others : List Style}
    (hstyles : ∀ style, style ∈ styles ↔ style ∈ others)
    (hsteady : styles = others ∨ first.pattern.chain.steady = true) (sight : Sight N String) :
    sight ∈ Run.candidateSights page styles first ↔
      sight ∈ Run.candidateSights page others second := by
  unfold Run.candidateSights
  rw [hpattern]
  simp only [Scene.view, Scene.prunes_congr htargets styles others]
  rcases hsteady with rfl | hsteady
  · exact Iff.rfl
  · exact mem_sights_of_steady hstyles hsteady _ "" page.document sight

namespace Classification.Agree

variable {registered : List Pattern} {page : Page N S} {a b : Request S N}

/-- The styles come in the same order if all sheets are indexed, or if it is so by themselves. -/
theorem runStyles_eq (h : Agree registered page a b)
    (hsame : (ofRequest registered a).needsStyles = true →
      (ofRequest registered a).styleScope = .allSheets ∨
        page.styles a.sheets = page.styles b.sheets) :
    (Engine.runStyles page a (ofRequest registered a)).1 =
      (Engine.runStyles page b (ofRequest registered b)).1 := by
  have hneeds : (ofRequest registered a).needsStyles = (ofRequest registered b).needsStyles := by
    rw [needsStyles_eq, needsStyles_eq, h.patterns]
  show page.styles (indexed page a (ofRequest registered a)) =
    page.styles (indexed page b (ofRequest registered b))
  unfold indexed
  rw [← hneeds, ← h.scope]
  by_cases hstyled : (ofRequest registered a).needsStyles = true
  · rw [if_pos hstyled, if_pos hstyled]
    cases hscope : (ofRequest registered a).styleScope with
    | allSheets => rfl
    | namedSheets =>
      rcases hsame hstyled with hall | hequal
      · simp [hscope] at hall
      · exact hequal
  · rw [if_neg hstyled, if_neg hstyled]

/-- What one run processes the other one processes, too. -/
theorem processed_subset {engine : Engine S N κ} (h : Agree engine.patterns page a b)
    (hsteady : (Engine.runStyles page a (ofRequest engine.patterns a)).1 =
        (Engine.runStyles page b (ofRequest engine.patterns b)).1 ∨
      ∀ p ∈ engine.patterns, p.chain.steady = true) {n : N}
    (hn : n ∈ (engine.runOf page a).findings.processed) :
    n ∈ (engine.runOf page b).findings.processed := by
  unfold Engine.runOf at hn ⊢
  rw [Run.mem_completed_processed] at hn ⊢
  obtain ⟨htest, first, hfirst, hsight⟩ := hn
  obtain ⟨second, hsecond, hpattern, htargets⟩ := h.exists_candidate hfirst
  refine ⟨htest, second, hsecond, ?_⟩
  refine (Run.examined_congr hpattern htargets h.styles ?_ _).mp hsight
  exact hsteady.imp_right fun hall => hall _ (Engine.pattern_mem_of_candidate hfirst)

end Classification.Agree

/-! ### Following both requests -/

namespace Engine

/-- What is shown again in the end is what the run shows again. -/
theorem Reports.unhide_mem_iff {page : Page N S} {engine : Engine S N κ} {run : Run N}
    {outcome : Outcome S N κ} (h : Reports page engine run outcome) {nodes : List N} :
    .unhide nodes ∈ outcome.effects ↔
      run.shownAgain page engine.hidden ≠ [] ∧ nodes = run.shownAgain page engine.hidden := by
  have hdecision : (Effect.unhide nodes).isDecision = true := rfl
  rw [← mem_decisions hdecision, h.decisions, mem_decisions hdecision, Run.unhide_mem_effects]

section Following

variable {page : Page N S} {engine : Engine S N κ} {a b : Request S N}
  {last other : Outcome S N κ} {known : Pattern → Prop}

/-- Runs that agree leave tables that record the same, and show the same again. -/
theorem Consistent.sameRecords_of_agree (h : Consistent known engine) (hlawful : page.Lawful)
    (hagree : Agree engine.patterns page a b)
    (hlast : Reports page engine (engine.runOf page a) last)
    (hother : Reports page engine (engine.runOf page b) other) :
    last.engine.hidden.SameRecords other.engine.hidden ∧
      ∀ nodes, .unhide nodes ∈ last.effects ↔ .unhide nodes ∈ other.effects := by
  have hfound := sameRecords_runOf hlawful h.distinct hagree
  have hcovers := covers_eq_of_agree h.distinct hagree
  refine ⟨?_, fun nodes => ?_⟩
  · rw [hlast.hidden, hother.hidden]
    exact Run.sameRecords_hiddenAfter h.tidy (runOf_collects page engine a).tidy
      (runOf_collects page engine b).tidy hfound hcovers
  · rw [hlast.unhide_mem_iff, hother.unhide_mem_iff, Run.shownAgain_eq hfound hcovers]

/-- They have processed the same with the same styles, or if all arguments are settled. -/
theorem processed_of_agree (hagree : Agree engine.patterns page a b)
    (hsteady : (runStyles page a (Classification.ofRequest engine.patterns a)).1 =
        (runStyles page b (Classification.ofRequest engine.patterns b)).1 ∨
      ∀ p ∈ engine.patterns, p.chain.steady = true)
    (hlast : Reports page engine (engine.runOf page a) last)
    (hother : Reports page engine (engine.runOf page b) other) (n : N) :
    n ∈ last.engine.lastProcessed ↔ n ∈ other.engine.lastProcessed := by
  rw [hlast.processed, hother.processed]
  by_cases htest : engine.config.testMode = true
  · rw [if_pos htest, if_pos htest]
    exact ⟨hagree.processed_subset hsteady,
      hagree.symm.processed_subset (hsteady.imp_left Eq.symm)⟩
  · rw [if_neg htest, if_neg htest]

end Following

variable [Clock κ]

/-- An engine that has been given patterns comes to rest with them. -/
theorem exists_idle_given {page : Page N S} (h : page.Lawful) (config : Config) (clock : κ)
    {sources : List PatternSource} (hsome : (registration 0 sources).1 ≠ []) :
    ∃ events : List (Event S N κ), let engine := ((Engine.new config clock).meetAll events).engine
      engine.phase = .idle ∧ engine.patterns = (registration 0 sources).1 ∧
        engine.config = config := by
  let applied := ((Engine.new config clock : Engine S N κ).apply page sources).engine
  obtain ⟨known, hconsistent⟩ := meetAll_consistent (S := S) (N := N) config clock []
  have hconverges := converges_apply h hconsistent hsome
  obtain ⟨steps, hidle⟩ := exists_idle page (fun _ => clock) applied
  have hlast := hconverges.meetAll h (wakes_wakeUps page (fun _ => clock) steps applied)
  refine ⟨[.called page (.apply sources)] ++ wakeUps page (fun _ => clock) steps applied, ?_⟩
  rw [meetAll_append]
  exact ⟨hidle, hlast.patterns, hlast.config⟩

/-! ### A box with two styled elements -/

/-- A box with two elements in it that hold the same text; each is styled by a sheet of its own. -/
def twinDocument : Document :=
  { ((((((Document.empty "https://example.com/").appendElement 0 "html").appendElement 1
      "div").appendElement 2 "p").appendText 3 "x").appendElement 2 "i").appendText 5 "x" with
    sheets := #[⟨none, some [.style (redRule "p")]⟩, ⟨none, some [.style (redRule "i")]⟩] }

/-- Boxes with something red in them that has the text. -/
def twinSource : PatternSource :=
  ⟨"div:-abp-has(:-abp-properties(/(?-i)red/):-abp-contains(x))", "twins"⟩

/-- The chain of the source; its argument is not settled. -/
def twinChain : Chain :=
  [.plain "div", .has [.properties (Regex.ofStyle? "/(?-i)red/"), .contains (Regex.ofText? "x")]]

theorem parse_twinSource : Chain.parse twinSource.selector = .ok twinChain := by
  let argument := ":-abp-properties(/(?-i)red/):-abp-contains(x)".toList
  have hstyled : findPseudo? argument = some ⟨[], .properties, "-abp-properties".toList,
      "/(?-i)red/):-abp-contains(x)".toList⟩ := rfl
  have hstyledClose : closeArgument? .top "/(?-i)red/):-abp-contains(x)".toList =
      some ("/(?-i)red/".toList, ":-abp-contains(x)".toList) := rfl
  have htexts : findPseudo? ":-abp-contains(x)".toList = some ⟨[], .contains,
      "-abp-contains".toList, "x)".toList⟩ := rfl
  have htextsClose : closeArgument? .top "x)".toList = some (['x'], []) := rfl
  obtain ⟨hproperties, -⟩ := (isIn_of_findPseudo? hstyled).isSpelt (by simp) hstyledClose
  obtain ⟨hcontains, -⟩ := (isIn_of_findPseudo? htexts).isSpelt (by simp) htextsClose
  let phrase : Phrase := .expression .properties [] "-abp-properties".toList
    "/(?-i)red/".toList (.expression .contains [] "-abp-contains".toList ['x'] (.plain []))
  have hcorrect : phrase.IsCorrect := ⟨hproperties, hcontains, isPlainText_iff.mpr rfl⟩
  have hargument := Phrase.links_of_correct twinSource.selector hcorrect
    (show phrase.text = argument from rfl)
  have hfound : findPseudo? twinSource.selector.toList = some ⟨"div".toList, .has,
      "-abp-has".toList, ":-abp-properties(/(?-i)red/):-abp-contains(x))".toList⟩ := rfl
  have hclose : closeArgument? .top ":-abp-properties(/(?-i)red/):-abp-contains(x))".toList =
      some (argument, []) := rfl
  have hback := Phrase.links_of_correct twinSource.selector
    (show (Phrase.plain []).IsCorrect from isPlainText_iff.mpr rfl) rfl
  exact Chain.parse_of_links (readLinks_has hfound (by simp) hclose hargument (by simp) rfl hback)
    rfl

/-- A trial is over as soon as the first candidate of the first selector leads below. -/
theorem sights_of_first {page : Page N S} {styles : List Style} {expression text : Option Regex}
    {before tag : String} {more : List String} {scope box n : N}
    (hbox : Candidates.all page before scope = [box])
    (htags : resolveProperties styles expression "" = tag :: more)
    (hfirst : Candidates.all page tag box = [n])
    (htext : matchesText text (page.textContent n) = true)
    (hleads : Evaluation.findsBelow page box (page.path n) = true) :
    sights ⟨page, styles, fun _ => false⟩
        [.plain before, .has [.properties expression, .contains text]] "" scope =
      [.examined box, .examined n, .found (page.path box)] := by
  have hinner : ∃ others,
      sights ⟨page, styles, fun _ => false⟩ [.properties expression, .contains text] "" box =
        .examined n :: .found (page.path n) :: others := by
    simp only [sights, linkSights, htags, List.map_cons, List.flatMap_cons, Sight.refine, hfirst,
      containsSights, Option.any_none, Bool.false_or, Bool.false_eq_true, if_false, htext, if_true]
    exact ⟨_, rfl⟩
  obtain ⟨others, hinner⟩ := hinner
  have htrial : trialSights page box (.examined n :: .found (page.path n) :: others) =
      [.examined n, .found (page.path box, box)] := by
    rw [trialSights, trialSights_found, if_pos hleads]
  have hhas : linkSights ⟨page, styles, fun _ => false⟩
      (.has [.properties expression, .contains text]) before scope =
        [.examined box, .examined n, .found (page.path box, box)] := by
    simp only [linkSights, hbox, List.flatMap_cons, List.flatMap_nil, View.unconfined, hinner,
      htrial, Bool.false_eq_true, if_false, List.append_nil]
  rw [sights, linkSights, List.flatMap_singleton, Sight.refine, String.empty_append, sights, hhas]
  rfl

theorem registration_twinSource :
    (registration 0 [twinSource]).1 = [⟨0, twinChain, "twins"⟩] := by
  have hlinks : (Chain.read twinSource.selector).links = .ok twinChain := parse_twinSource
  simp only [registration, hlinks]
  rfl

/-- An engine that keeps what it processes has been given the pattern. -/
theorem exists_idle_twins :
    let config : Config := ⟨.zero, .ofMilliseconds 50, true, .never⟩
    ∃ events : List (Event Nat Nat PausedClock),
      let engine := ((Engine.new config ⟨.zero⟩).meetAll events).engine
      engine.phase = .idle ∧ engine.patterns = [⟨0, twinChain, "twins"⟩] ∧
        engine.config = config := by
  intro config
  have hsome : (registration 0 [twinSource]).1 ≠ [] := by
    rw [registration_twinSource]
    exact List.cons_ne_nil _ _
  obtain ⟨events, hidle, hpatterns, hconfig⟩ :=
    exists_idle_given twinDocument.page_lawful config (⟨.zero⟩ : PausedClock) hsome
  exact ⟨events, hidle, hpatterns.trans registration_twinSource, hconfig⟩

/-- What a run on the whole box has processed: the box, and what is looked at first in it. -/
theorem mem_lastProcessed_twins {engine : Engine Nat Nat PausedClock}
    (hidle : engine.phase = .idle) (hpatterns : engine.patterns = [⟨0, twinChain, "twins"⟩])
    (htest : engine.config.testMode = true) (request : Request Nat Nat) (sheets : List Nat)
    (hcandidates : (Classification.ofRequest [⟨0, twinChain, "twins"⟩] request).candidates =
      ([⟨⟨0, twinChain, "twins"⟩, none⟩] : List (Candidate Nat)))
    (hindexed : (Classification.ofRequest [⟨0, twinChain, "twins"⟩] request).indexed
      twinDocument.page request = sheets)
    {tag : String} {more : List String} {n : Nat} (hn : n = 3 ∨ n = 5)
    (htags : resolveProperties (twinDocument.page.styles sheets) (Regex.ofStyle? "/(?-i)red/") "" =
      tag :: more)
    (hfirst : Candidates.all twinDocument.page tag 2 = [n]) {last : Outcome Nat Nat PausedClock}
    (hlast : Rests twinDocument.page (engine.request twinDocument.page request) last) (m : Nat) :
    m ∈ last.engine.lastProcessed ↔ m = 2 ∨ m = n := by
  have hplace : twinDocument.isElement n = true ∧ twinDocument.isConnected n = true ∧
      twinDocument.contains 2 n = true ∧ n ≠ 2 := by
    rcases hn with rfl | rfl <;> decide
  have htext : matchesText (Regex.ofText? "x") (twinDocument.page.textContent n) = true := by
    rcases hn with rfl | rfl <;> decide +kernel
  have hleads : Evaluation.findsBelow twinDocument.page 2 (twinDocument.page.path n) = true := by
    have hformed : twinDocument.WellFormed := by decide
    rw [Evaluation.findsBelow, Page.queryFirst,
      hformed.queryAll_path_eq (by decide) hplace.1 hplace.2.1 2, if_pos hplace.2.2]
    rfl
  have hsights := sights_of_first (show Candidates.all twinDocument.page "div" 0 = [2] by cbv)
    htags hfirst htext hleads
  have hstyles : (runStyles twinDocument.page request
      (Classification.ofRequest [⟨0, twinChain, "twins"⟩] request)).1 =
        twinDocument.page.styles sheets := congrArg twinDocument.page.styles hindexed
  have hreports := hlast.reports (request_pursues twinDocument.page hidle _)
  rw [hreports.processed, if_pos htest]
  unfold runOf
  rw [Run.mem_completed_processed, and_iff_right htest, hpatterns, hstyles, hcandidates]
  simp only [List.mem_singleton, exists_eq_left]
  show .examined m ∈ sights ⟨twinDocument.page, twinDocument.page.styles sheets, fun _ => false⟩
    twinChain "" 0 ↔ _
  rw [twinChain, hsights]
  simp

/-- The first sheet styles the paragraph, so it is looked at first. -/
theorem twins_in_order :
    resolveProperties (twinDocument.page.styles [0, 1]) (Regex.ofStyle? "/(?-i)red/") "" =
        ["p", "i"] ∧
      Candidates.all twinDocument.page "p" 2 = [3] :=
  ⟨by decide +kernel, by cbv⟩

/-! ### The order of the news -/

/--
**Order and number of the news do not matter.**  A reachable engine is idle, and is asked for a
run by either of two partial requests that name the same style sheets and the same changes, in
any order and any number of times.  Both are followed to rest on a document that stays the same.
Then the same elements are hidden by the same patterns with the same anchors, and the same ones
are shown again.  The same candidates have been processed, if there are changes, if the sheets
have the same styles in the same order, or if the arguments of all patterns are settled.
-/
theorem partial_requests_agree (doc : Document) (config : Config) (clock : κ)
    (events : List (Event Nat Nat κ))
    (hidle : ((Engine.new config clock).meetAll events).engine.phase = .idle)
    {sheets moreSheets : List Nat} (hsheets : ∀ sheet, sheet ∈ sheets ↔ sheet ∈ moreSheets)
    {changes moreChanges : List (Mutation Nat)}
    (hchanges : ∀ change, change ∈ changes ↔ change ∈ moreChanges) :
    let engine := ((Engine.new config clock).meetAll events).engine
    (∃ last, Rests doc.page (engine.request doc.page (.partly sheets changes)) last) ∧
    (∃ other, Rests doc.page (engine.request doc.page (.partly moreSheets moreChanges)) other) ∧
    ∀ last, Rests doc.page (engine.request doc.page (.partly sheets changes)) last →
    ∀ other, Rests doc.page (engine.request doc.page (.partly moreSheets moreChanges)) other →
      last.engine.hidden.SameRecords other.engine.hidden ∧
      (∀ nodes, .unhide nodes ∈ last.effects ↔ .unhide nodes ∈ other.effects) ∧
      ((changes ≠ [] ∨ doc.page.styles sheets = doc.page.styles moreSheets ∨
          ∀ p ∈ engine.patterns, p.chain.steady = true) →
        ∀ n, n ∈ last.engine.lastProcessed ↔ n ∈ other.engine.lastProcessed) := by
  intro engine
  obtain ⟨known, hconsistent⟩ := meetAll_consistent config clock events
  -- Each of the requests asks for all that the other one asks for.
  have hagree : Agree engine.patterns doc.page (.partly sheets changes)
      (.partly moreSheets moreChanges) := Classification.agree_of_within
    (.partly (fun sheet => (hsheets sheet).mp) fun change => (hchanges change).mp)
    (.partly (fun sheet => (hsheets sheet).mpr) fun change => (hchanges change).mpr)
  refine ⟨exists_rests doc.page hidle _, exists_rests doc.page hidle _,
    fun last hlast other hother => ?_⟩
  have hreports := hlast.reports (request_pursues doc.page hidle _)
  have hagain := hother.reports (request_pursues doc.page hidle _)
  obtain ⟨hhidden, hshown⟩ :=
    hconsistent.sameRecords_of_agree doc.page_lawful hagree hreports hagain
  refine ⟨hhidden, hshown, fun hsteady => processed_of_agree hagree ?_ hreports hagain⟩
  rcases hsteady with hsome | hsame | hsteady
  · exact .inl (hagree.runStyles_eq fun hneeds =>
      .inl (Classification.styleScope_ofChanges.mpr ⟨hsome, hneeds⟩))
  · exact .inl (hagree.runStyles_eq fun _ => .inr hsame)
  · exact .inr hsteady

/--
Two requests are merged in either order.  Each names one of the two sheets, and both tell of the
element that has come first into the box.
-/
theorem partial_requests_agree_merged :
    let config : Config := ⟨.zero, .ofMilliseconds 50, true, .never⟩
    let first : Request Nat Nat := .partly [0] [.childList 2 [3] [], .childList 2 [5] []]
    let second : Request Nat Nat := .partly [1] [.childList 2 [3] []]
    ∃ (events : List (Event Nat Nat PausedClock)) (last other : Outcome Nat Nat PausedClock),
      let engine := ((Engine.new config ⟨.zero⟩).meetAll events).engine
      engine.phase = .idle ∧ engine.patterns = [⟨0, twinChain, "twins"⟩] ∧
      first.merge second ≠ second.merge first ∧
      Rests twinDocument.page (engine.request twinDocument.page (first.merge second)) last ∧
      Rests twinDocument.page (engine.request twinDocument.page (second.merge first)) other ∧
      last.engine.hidden.SameRecords other.engine.hidden ∧
      (∀ nodes, .unhide nodes ∈ last.effects ↔ .unhide nodes ∈ other.effects) ∧
      (∀ n, n ∈ last.engine.lastProcessed ↔ n ∈ other.engine.lastProcessed) ∧
      ∀ n, n ∈ last.engine.lastProcessed ↔ n = 2 ∨ n = 3 := by
  intro config first second
  obtain ⟨events, hidle, hpatterns, hconfig⟩ := exists_idle_twins
  obtain ⟨⟨last, hlast⟩, ⟨other, hother⟩, hagree⟩ := partial_requests_agree twinDocument
    config (⟨.zero⟩ : PausedClock) events hidle
    (show ∀ sheet, sheet ∈ [0, 1] ↔ sheet ∈ [1, 0] from fun sheet => by simp [or_comm])
    (show ∀ change : Mutation Nat,
        change ∈ [.childList 2 [3] [], .childList 2 [5] [], .childList 2 [3] []] ↔
          change ∈ [.childList 2 [3] [], .childList 2 [3] [], .childList 2 [5] []] from
      fun change => by simp [or_comm])
  obtain ⟨hhidden, hshown, hprocessed⟩ := hagree last hlast other hother
  obtain ⟨htags, hp⟩ := twins_in_order
  have hthere := mem_lastProcessed_twins hidle hpatterns (congrArg Config.testMode hconfig)
    (first.merge second) [0, 1] rfl rfl (.inl rfl) htags hp hlast
  exact ⟨events, last, other, hidle, hpatterns, by decide, hlast, hother, hhidden, hshown,
    hprocessed (.inl (List.cons_ne_nil _ _)), hthere⟩

/--
**The order of the sheets decides what is examined.**  Each sheet styles one of two elements
with the same text.  A run for both sheets looks at the one that the first sheet styles; it
has the text, and so the other one is not looked at.
-/
theorem first_sheet_decides :
    let config : Config := ⟨.zero, .ofMilliseconds 50, true, .never⟩
    ∃ (events : List (Event Nat Nat PausedClock)) (last other : Outcome Nat Nat PausedClock),
      let engine := ((Engine.new config ⟨.zero⟩).meetAll events).engine
      engine.phase = .idle ∧ (∀ sheet, sheet ∈ [0, 1] ↔ sheet ∈ [1, 0]) ∧
      Rests twinDocument.page (engine.request twinDocument.page (.partly [0, 1] [])) last ∧
      Rests twinDocument.page (engine.request twinDocument.page (.partly [1, 0] [])) other ∧
      3 ∈ last.engine.lastProcessed ∧ 3 ∉ other.engine.lastProcessed := by
  intro config
  obtain ⟨events, hidle, hpatterns, hconfig⟩ := exists_idle_twins
  have htest := congrArg Config.testMode hconfig
  obtain ⟨last, hlast⟩ := exists_rests twinDocument.page hidle (.partly [0, 1] [])
  obtain ⟨other, hother⟩ := exists_rests twinDocument.page hidle (.partly [1, 0] [])
  obtain ⟨htags, hp⟩ := twins_in_order
  have hagain : resolveProperties (twinDocument.page.styles [1, 0])
      (Regex.ofStyle? "/(?-i)red/") "" = ["i", "p"] := by decide +kernel
  have hi : Candidates.all twinDocument.page "i" 2 = [5] := by cbv
  have hfirst := mem_lastProcessed_twins hidle hpatterns htest (.partly [0, 1] []) [0, 1] rfl rfl
    (.inl rfl) htags hp hlast 3
  have hsecond := mem_lastProcessed_twins hidle hpatterns htest (.partly [1, 0] []) [1, 0] rfl rfl
    (.inr rfl) hagain hi hother 3
  refine ⟨events, last, other, hidle, fun sheet => ?_, hlast, hother, hfirst.mpr (.inr rfl),
    fun h => ?_⟩
  · simp [or_comm]
  · have hnot := hsecond.mp h
    omega

end Engine

end CosmeticFilter
