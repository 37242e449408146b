/-
What rules style is hidden for the sake of their declarations.

A pattern that is a single `:-abp-properties` finds what the rules select whose declarations
its expression matches: every selector of such a rule, without its pseudo-element, is a query
of its own.  The rules are those of the sheets that can be read and have the origin of the
document.  The settings decide whether a run hides the elements or reports the selectors; what
it reaches by the one way or by the other is the same.
-/
import CosmeticFilter.Proofs.Members
import CosmeticFilter.Proofs.Modes

namespace CosmeticFilter

open CosmeticFilter.Text

/-! ### Rules -/

namespace Css.StyleRule

/-- The members of the selector list: the stretches between its commas. -/
def members (rule : StyleRule) : List (List Char) :=
  rule.selectors.toList.splitOn ','

/-- All members are selectors or pseudo-elements, and they are cut where they should be. -/
structure Listed (rule : StyleRule) : Prop where
  members : ∀ cs ∈ rule.members, ∃ text?, Member cs text?
  /-- What a member opens it closes, if another one follows. -/
  closed : ∀ cs ∈ rule.members.dropLast, SelectorList.closes .top cs = true
  /-- No selector without a pseudo-element holds two colons in a row. -/
  colons : ∀ text : String, text.toList ∈ rule.members → IsSelector text →
    ¬ SelectorText.colons <:+: text.toList

/-- The selectors of a style are the members of the list, trimmed. -/
theorem Listed.selectors_eq {rule : StyleRule} (h : rule.Listed) :
    (Style.ofRule rule).selectors = rule.members.map fun cs => trimmed (String.ofList cs) := by
  have hsome : rule.members ≠ [] := List.splitOn_ne_nil _ _
  have hcomma : ∀ cs ∈ rule.members, ',' ∉ cs := fun cs hcs =>
    (h.members cs hcs).elim fun _ hmember => hmember.comma
  have hsplit : SelectorList.splitFrom .top rule.selectors.toList = rule.members := by
    have hjoined := SelectorList.splitFrom_intercalate hsome hcomma h.closed
    rwa [StyleRule.members, List.intercalate_splitOn] at hjoined
  rw [Style.ofRule, SelectorList.split, hsplit, List.map_map]
  rfl

end Css.StyleRule

namespace Document

variable (doc : Document)

/-- The rule is in a sheet of the document that has its origin and can be read. -/
def HasRule (rule : Css.StyleRule) : Prop :=
  ∃ sheet ∈ doc.page.sheets,
    Url.sameOrigin (doc.page.href? sheet) doc.page.location = true ∧
      ∃ rules, doc.page.rules? sheet = some rules ∧ .style rule ∈ rules

/-- The selector matches the node, which is an element of the document. -/
def Selects (text : String) (n : Nat) : Prop :=
  n ∈ doc.family.descendants 0 ∧
    (Complex.parse (trimmed text)).matches doc.family.tree none n = true

/-- A rule whose declarations the expression matches selects the node by one of its members. -/
def Styled (expression : Option Regex) (n : Nat) : Prop :=
  ∃ rule, doc.HasRule rule ∧ matchesText expression (Style.ofRule rule).text = true ∧
    ∃ cs ∈ rule.members, ∃ text, Member cs (some text) ∧ doc.Selects text n

variable {doc}

/-- The styles of a document are those of its rules. -/
theorem mem_styles {style : Style} :
    style ∈ doc.page.styles doc.page.sheets ↔
      ∃ rule, doc.HasRule rule ∧ style = Style.ofRule rule := by
  have hsheet : ∀ sheet : Nat, style ∈ ((doc.page.sheetStyles sheet).toOption).getD [] ↔
      ∃ rule, (Url.sameOrigin (doc.page.href? sheet) doc.page.location = true ∧
        ∃ rules, doc.page.rules? sheet = some rules ∧ .style rule ∈ rules) ∧
          style = Style.ofRule rule := by
    intro sheet
    unfold Page.sheetStyles
    simp only
    split
    · rename_i hsame
      split
      · rename_i rules hrules
        simp only [Except.toOption, Option.getD_some, List.mem_map, List.mem_filterMap, hsame,
          hrules, true_and, Option.some.injEq, exists_eq_left']
        constructor
        · rintro ⟨rule, ⟨item, hitem, hstyle⟩, rfl⟩
          cases item with
          | style other =>
            obtain rfl := Option.some.inj hstyle
            exact ⟨other, hitem, rfl⟩
          | other => cases hstyle
        · rintro ⟨rule, hrule, rfl⟩
          exact ⟨rule, ⟨_, hrule, rfl⟩, rfl⟩
      · rename_i hnone
        simp [Except.toOption, hnone]
    · rename_i hforeign
      simp [Except.toOption, hforeign]
  unfold Page.styles HasRule
  simp only [List.mem_flatMap, hsheet]
  constructor
  · rintro ⟨sheet, hmem, rule, hrule, rfl⟩
    exact ⟨rule, ⟨sheet, hmem, hrule⟩, rfl⟩
  · rintro ⟨rule, ⟨sheet, hmem, hrule⟩, rfl⟩
    exact ⟨sheet, hmem, rule, hrule, rfl⟩

/-- A query for a selector finds what it matches. -/
theorem finds_iff_selects {text : String} (h : IsSelector text) {n : Nat} :
    doc.Finds text n ↔ doc.Selects text n := by
  have hlist : SelectorList.parse text = [Complex.parse (trimmed text)] := by
    rw [SelectorList.parse, SelectorList.split, splitFrom_single .top h.comma, List.map_singleton,
      List.map_singleton, String.ofList_toList]
  rw [finds_iff_mem (doc.queryAll_of_supported h.supported), hlist, ElementTree.query,
    List.mem_filter]
  refine and_congr Iff.rfl ?_
  simp [SelectorList.matches]

/-- Only what is left of a text without its white space matters to a query. -/
theorem finds_congr {text other : String} (h : trimmed text = trimmed other) {n : Nat} :
    doc.Finds text n ↔ doc.Finds other n := by
  rw [Finds, Finds, queryAll_eq, queryAll_eq, h]

/-- What a `properties` link finds on its own. -/
theorem findsOn_properties_iff {expression : Option Regex} {n : Nat} :
    Chain.FindsOn doc [.properties expression] n ↔
      ∃ rule, doc.HasRule rule ∧ matchesText expression (Style.ofRule rule).text = true ∧
        ∃ selector ∈ (Style.ofRule rule).selectors, ∃ resolved,
          resolveProperty? "" selector = some resolved ∧ doc.Finds resolved n := by
  rw [Chain.findsOn_iff]
  constructor
  · rintro ⟨anchors, found, hfound, hfinds⟩
    obtain ⟨step, hstep, inner, hinner, heq⟩ := Evaluation.mem_founds_cons.mp hfound
    obtain ⟨style, hstyle, hmatches, member, hmember, resolved, hresolved, rfl⟩ :=
      Evaluation.mem_resolvedBy_properties.mp hstep
    obtain ⟨rule, hrule, rfl⟩ := mem_styles.mp hstyle
    obtain rfl := List.mem_singleton.mp hinner
    obtain ⟨rfl, -⟩ := Prod.mk.inj heq
    exact ⟨rule, hrule, hmatches, member, hmember, _, hresolved, hfinds⟩
  · rintro ⟨rule, hrule, hmatches, member, hmember, resolved, hresolved, hfinds⟩
    have hstep : (resolved, 0, none) ∈ resolvedBy (Evaluation.linkSteps
        ⟨doc.page, doc.page.styles doc.page.sheets, none⟩ (.properties expression) "" 0) :=
      Evaluation.mem_resolvedBy_properties.mpr
        ⟨_, mem_styles.mpr ⟨rule, hrule, rfl⟩, hmatches, member, hmember, resolved, hresolved, rfl⟩
    exact ⟨[], resolved, Evaluation.mem_founds_cons.mpr
      ⟨_, hstep, (resolved, []), List.mem_singleton_self _, rfl⟩, hfinds⟩

/-- **A `properties` link finds what the matching rules select.** -/
theorem findsOn_properties {expression : Option Regex}
    (hrules : ∀ rule, doc.HasRule rule → rule.Listed) {n : Nat} :
    Chain.FindsOn doc [.properties expression] n ↔ doc.Styled expression n := by
  rw [findsOn_properties_iff]
  refine exists_congr fun rule => and_congr_right fun hrule => and_congr_right fun _ => ?_
  have hlisted := hrules rule hrule
  simp only [hlisted.selectors_eq, List.mem_map, exists_exists_and_eq_and]
  refine exists_congr fun cs => and_congr_right fun hcs => ?_
  have hresolve : ∀ {text?}, Member cs text? →
      (resolveProperty? "" (trimmed (String.ofList cs))).map trimmed = text?.map trimmed :=
    fun hmember => hmember.resolve fun text heq htext =>
      heq ▸ hlisted.colons text (heq ▸ hcs) htext
  constructor
  · rintro ⟨resolved, hresolved, hfinds⟩
    obtain ⟨text?, hmember⟩ := hlisted.members cs hcs
    have hsame := hresolve hmember
    rw [hresolved] at hsame
    cases text? with
    | none => cases hsame
    | some text =>
      refine ⟨text, hmember, (finds_iff_selects hmember.isSelector).mp ?_⟩
      exact (finds_congr (Option.some.inj hsame)).mp hfinds
  · rintro ⟨text, hmember, hselects⟩
    obtain ⟨resolved, hresolved, hsame⟩ := Option.map_eq_some_iff.mp (hresolve hmember)
    refine ⟨resolved, hresolved, (finds_congr hsame).mpr ?_⟩
    exact (finds_iff_selects hmember.isSelector).mpr hselects

end Document

/-! ### Full runs -/

/-- **A single `:-abp-properties`** is read as its expression. -/
theorem Chain.parse_properties {selector : String} {name after argument : List Char}
    (hfound : findPseudo? selector.toList = some ⟨[], .properties, name, after⟩)
    (hclose : closeArgument? .top after = some (argument, [])) :
    Chain.parse selector = .ok [.properties (Regex.ofStyle? (String.ofList argument))] := by
  obtain ⟨hspelt, htext⟩ := (isIn_of_findPseudo? hfound).isSpelt (by simp) hclose
  have hderives : (Phrase.expression .properties [] name argument (.plain [])).Derives selector :=
    ⟨htext.symm, ⟨hspelt, isPlainText_iff.mpr rfl⟩, by simp [Phrase.IsLonelyContains]⟩
  rw [Chain.parse_of_derives hderives, Phrase.chain, Phrase.plainLinks, if_pos (by rfl)]
  rfl

namespace Engine

variable {κ : Type} [Clock κ]

/--
**A single `:-abp-properties` hides what its rules style.**  Let the readable rules of the
origin of a document be listed: their members are selectors without commas, pseudo-elements, or
one behind the other, what a member opens it closes if another one follows, and no selector
without a pseudo-element holds two colons in a row.  An engine with any history that hides
elements is given the pattern.  A full run can be completed, and whatever wake-ups complete it,
just the elements are hidden that are selected by a member of a rule whose text the expression
matches.  And whatever the settings are, a new engine reaches just these elements, be it by
selectors that it reports or one by one.
-/
theorem full_run_hides_styled (doc : Document) (config : Config) (clock : κ)
    (events : List (Event Nat Nat κ)) {engine : Engine Nat Nat κ}
    (hreached : ((Engine.new config clock).meetAll events).engine = engine)
    (source : PatternSource) {expression : Option Regex}
    (hparse : Chain.parse source.selector = .ok [.properties expression])
    (hrules : ∀ rule, doc.HasRule rule → rule.Listed) :
    (∃ last, FullRun doc engine source last) ∧
    (engine.config.selectorHiding = .never → ∀ last, FullRun doc engine source last →
      ∀ n, n ∈ last.hiddenElements ↔ doc.Styled expression n) ∧
    (∃ last, Rests doc.page ((Engine.new config clock).apply doc.page [source]) last) ∧
    ∀ last, Rests doc.page ((Engine.new config clock).apply doc.page [source]) last →
      ∀ n, (∃ effect ∈ last.effects, Hides doc n effect) ↔ doc.Styled expression n := by
  obtain ⟨known, hconsistent⟩ := meetAll_consistent (S := Nat) (N := Nat) config clock events
  rw [hreached] at hconsistent
  refine ⟨exists_fullRun doc engine source, fun hnever last hrun n => ?_,
    exists_rests_apply doc.page rfl [source], fun last hlast n => ?_⟩
  · have hshown : ∀ pattern : Pattern, pattern.chain = [.properties expression] →
        engine.config.hidesBySelector pattern = false := by
      intro pattern _
      simp [Config.hidesBySelector, hnever]
    rw [hrun.mem_hidden_iff_of_shown hconsistent hparse (List.cons_ne_nil _ _) hshown,
      Document.findsOn_properties hrules]
  · rw [(firstRun_of_rests hlast).reached, ← Document.findsOn_properties hrules]
    constructor
    · rintro ⟨pattern, hpattern, hfinds⟩
      rwa [chain_of_mem_registration hparse hpattern] at hfinds
    · intro hfinds
      have hmem : [.properties expression] ∈ (registration 0 [source]).1.map Pattern.chain :=
        mem_chains_registration.mpr
          ⟨List.cons_ne_nil _ _, source, List.mem_singleton_self source, hparse⟩
      obtain ⟨pattern, hpattern, hchain⟩ := List.mem_map.mp hmem
      exact ⟨pattern, hpattern, hchain ▸ hfinds⟩

/-- A pattern for what is red. -/
def redSource : PatternSource :=
  ⟨":-abp-properties(/(?-i)red/)", "red"⟩

/-- A rule that makes something red. -/
def redRule (selectors : String) : Css.StyleRule :=
  ⟨selectors, [⟨"color", "red", none⟩]⟩

/-- The document with a style sheet that holds nothing but the rule. -/
def ruled (doc : Document) (rule : Css.StyleRule) : Document :=
  { doc with sheets := #[⟨none, some [.style rule]⟩] }

theorem parse_redSource :
    Chain.parse redSource.selector = .ok [.properties (Regex.ofStyle? "/(?-i)red/")] := by
  have hfound : findPseudo? ":-abp-properties(/(?-i)red/)".toList =
      some ⟨[], .properties, "-abp-properties".toList, "/(?-i)red/)".toList⟩ := rfl
  have hclose : closeArgument? .top "/(?-i)red/)".toList = some ("/(?-i)red/".toList, []) := rfl
  have hread := Chain.parse_properties hfound hclose
  rwa [String.ofList_toList] at hread

theorem matches_redRule (selectors : String) :
    matchesText (Regex.ofStyle? "/(?-i)red/") (Style.ofRule (redRule selectors)).text = true := by
  have htext : (Style.ofRule (redRule selectors)).text = "color: red;" := by
    have hsorted : Style.sortedTexts [⟨"color", "red", none⟩] = ["color: red;"] := by
      decide +kernel
    rw [Style.ofRule, redRule, hsorted]
    rfl
  rw [htext]
  decide +kernel

/-- The sheet is of the origin of the document, as it is a part of it. -/
theorem hasRule_ruled {doc : Document} {rule other : Css.StyleRule} :
    (ruled doc rule).HasRule other ↔ other = rule := by
  have hsheets : (ruled doc rule).page.sheets = [0] := rfl
  have hrules : (ruled doc rule).page.rules? 0 = some [.style rule] := rfl
  have hhref : (ruled doc rule).page.href? 0 = none := rfl
  unfold Document.HasRule
  simp only [hsheets, List.mem_singleton, exists_eq_left, hhref, hrules]
  simp [Url.sameOrigin]

/-- A rule for paragraphs, for what comes before boxes, and for what comes behind anything. -/
theorem full_run_hides_styled_boxes :
    let doc := ruled boxDocument (redRule "p, div::before , ::after")
    let engine : Engine Nat Nat PausedClock := .new Config.default ⟨.zero⟩
    (∃ last, FullRun doc engine redSource last) ∧
      ∀ last, FullRun doc engine redSource last →
        2 ∈ last.hiddenElements ∧ 3 ∈ last.hiddenElements := by
  intro doc engine
  have hmembers : (redRule "p, div::before , ::after").members =
      ["p".toList, " div::before ".toList, " ::after".toList] := by decide +kernel
  have hp : IsSelector "p" := ⟨by cbv, by decide⟩
  have hdiv : IsSelector " div" := ⟨by cbv, by decide⟩
  have hblank : ∀ c ∈ [' '], isWhite c = true :=
    List.forall_mem_singleton.mpr (isWhite_of_isBlank rfl)
  have hnames : Token.IsName "before" ∧ Token.IsName "after" :=
    ⟨⟨by simp, by simp [Token.isNameChar]⟩, ⟨by simp, by simp [Token.isNameChar]⟩⟩
  have hbefore : Member " div::before ".toList (some " div") := .styled hdiv hnames.1 hblank
  have hafter : Member " ::after".toList none :=
    .bare hblank hnames.2 (List.forall_mem_nil _)
  have hlisted : (redRule "p, div::before , ::after").Listed := by
    constructor
    · rw [hmembers]
      simp only [List.forall_mem_cons]
      exact ⟨⟨_, .selector hp⟩, ⟨_, hbefore⟩, ⟨_, hafter⟩, by simp⟩
    · rw [hmembers]
      decide
    · intro text hmem hselector
      have hunsupported : ∀ other : String, (SelectorList.parse other).isSupported = false →
          text.toList ≠ other.toList := by
        intro other hfalse heq
        rw [String.toList_inj.mp heq] at hselector
        exact Bool.false_ne_true (hfalse.symm.trans hselector.supported)
      rw [hmembers] at hmem
      simp only [List.mem_cons, List.not_mem_nil, or_false] at hmem
      rcases hmem with htext | htext | htext
      · rw [htext]
        decide
      · exact absurd htext (hunsupported _ (by cbv))
      · exact absurd htext (hunsupported _ (by cbv))
  have hreached : ((Engine.new Config.default (⟨.zero⟩ : PausedClock)).meetAll []).engine =
      engine := rfl
  obtain ⟨hruns, hhidden, -⟩ := full_run_hides_styled doc Config.default (⟨.zero⟩ : PausedClock) []
    hreached redSource parse_redSource fun rule hrule => hasRule_ruled.mp hrule ▸ hlisted
  refine ⟨hruns, fun last hrun => ?_⟩
  have hstyled : ∀ {cs : List Char} {text : String} {n : Nat},
      cs ∈ (redRule "p, div::before , ::after").members → Member cs (some text) →
      doc.Selects text n → n ∈ last.hiddenElements := by
    intro cs text n hcs hmember hselects
    exact (hhidden rfl last hrun n).mpr
      ⟨_, hasRule_ruled.mpr rfl, matches_redRule _, cs, hcs, text, hmember, hselects⟩
  rw [hmembers] at hstyled
  constructor
  · refine hstyled (by simp) hbefore ⟨by decide, ?_⟩
    decide +kernel
  · refine hstyled (by simp) (.selector hp) ⟨by decide, ?_⟩
    decide +kernel

/-- A box with two colons in a row in its title. -/
def colonDocument : Document :=
  (((Document.empty "https://example.com/").appendElement 0 "html").appendElement 1 "div"
    ).change (.setAttribute 2 "title" "a::b")

/--
**What a selector for such a title styles is missed.**  The only rule has the box selected by
its title.  The two colons in the title are taken for the start of a pseudo-element, and what
stands in front of them is no selector.
-/
theorem colon_title_missed :
    let expression := Regex.ofStyle? "/(?-i)red/"
    let doc := ruled colonDocument (redRule "[title=\"a::b\"]")
    let engine : Engine Nat Nat PausedClock := .new Config.default ⟨.zero⟩
    Chain.parse redSource.selector = .ok [.properties expression] ∧
      (∀ rule, doc.HasRule rule → ∀ cs ∈ rule.members, ∃ text?, Member cs text?) ∧
      doc.Styled expression 2 ∧ (∃ last, FullRun doc engine redSource last) ∧
      ∀ last, FullRun doc engine redSource last → last.hiddenElements = [] := by
  intro expression doc engine
  have hlist : SelectorList.parse "[title=\"a::b\"]" = [⟨[.attributeIs "title" "a::b"], []⟩] := by
    cbv
  have hselector : IsSelector "[title=\"a::b\"]" := ⟨by rw [hlist]; rfl, by decide⟩
  have hmembers : (redRule "[title=\"a::b\"]").members = ["[title=\"a::b\"]".toList] := by
    decide +kernel
  have hmember : Member "[title=\"a::b\"]".toList (some "[title=\"a::b\"]") := .selector hselector
  refine ⟨parse_redSource, fun rule hrule cs hcs => ?_, ?_, exists_fullRun _ _ _,
    fun last hrun => ?_⟩
  · rw [hasRule_ruled.mp hrule, hmembers, List.mem_singleton] at hcs
    exact ⟨_, hcs ▸ hmember⟩
  · refine ⟨_, hasRule_ruled.mpr rfl, matches_redRule _, _, ?_, _, hmember, by decide, ?_⟩
    · rw [hmembers]
      exact List.mem_singleton_self _
    · have hcomplex : Complex.parse (trimmed "[title=\"a::b\"]") =
          ⟨[.attributeIs "title" "a::b"], []⟩ := by cbv
      rw [hcomplex]
      decide +kernel
  obtain ⟨known, hconsistent⟩ :=
    meetAll_consistent (S := Nat) (N := Nat) Config.default (⟨.zero⟩ : PausedClock) []
  rw [List.eq_nil_iff_forall_not_mem]
  intro n hn
  have hshown : ∀ pattern : Pattern, pattern.chain = [.properties expression] →
      engine.config.hidesBySelector pattern = false := by
    intro pattern _
    simp [Config.hidesBySelector, engine, Engine.new, Config.default]
  rw [hrun.mem_hidden_iff_of_shown hconsistent parse_redSource (List.cons_ne_nil _ _) hshown,
    Document.findsOn_properties_iff] at hn
  obtain ⟨rule, hrule, -, selector, hselectors, resolved, hresolved, hfinds⟩ := hn
  have hstyle : (Style.ofRule (redRule "[title=\"a::b\"]")).selectors = ["[title=\"a::b\"]"] := by
    rw [Style.ofRule, redRule]
    cbv
  rw [hasRule_ruled.mp hrule, hstyle, List.mem_singleton] at hselectors
  have hcut : resolveProperty? "" selector = some "[title=\"a" := by
    rw [hselectors]
    decide +kernel
  obtain rfl := Option.some.inj (hresolved.symm.trans hcut)
  obtain ⟨nodes, hquery, -⟩ := hfinds
  have htrimmed : trimmed "[title=\"a" = "[title=\"a" := by cbv
  have hfirst : Document.Family.queryList "[title=\"a" = [⟨[.unsupported "[title=\"a"], []⟩] := by
    rw [Document.Family.queryList, if_neg (by simp)]
    cbv
  rw [Document.queryAll_eq, htrimmed, hfirst, if_neg (by decide)] at hquery
  cases hquery

end Engine

end CosmeticFilter
