/-
Nested `has` means what it says, at every depth.

A chain of nested `has` is decided through texts.  Each argument is cut out of the text by its
parentheses, its candidates are queried for below the candidate outside of it, and what it finds
is told as the path of an element, which is queried for once more.  The meaning has nothing of
this: an element holds a row of levels if something below it matches the selector of the first
level, seen from the element, and holds the others.

The two are tied together level by level.  Canonical texts are sealed and free of colons, so that
each level is read as a link of its own; a query for its selector finds what matches from the
candidate on; and the path of what it finds leads back to it.
-/
import CosmeticFilter.Proofs.Led
import CosmeticFilter.Proofs.Relative

namespace CosmeticFilter

open CosmeticFilter.Text

/-! ### Levels -/

/-- One level: the pseudo-class as it is spelt, and the selector at the start of its argument. -/
structure HasLevel where
  name : String
  /-- The selector is relative to the element outside: it starts with `>`. -/
  child : Bool
  text : String
  deriving DecidableEq, Repr

namespace HasLevel

/-- The argument up to the next level. -/
def front (level : HasLevel) : String :=
  if level.child then "> " ++ level.text else level.text

/-- One of the two spellings, in any letter case, and a canonical selector. -/
structure WellSpelt (level : HasLevel) : Prop where
  name : lower level.name = "has" ∨ lower level.name = "-abp-has"
  text : Canonical level.text

end HasLevel

/-- A selector with nested levels behind it. -/
def nestedText (front : String) : List HasLevel → String
  | [] => front
  | level :: more =>
    front ++ ":" ++ level.name ++ "(" ++ nestedText level.front more ++ ")"

/-- The chain that such a text stands for. -/
def nestedChain (front : String) : List HasLevel → Chain
  | [] => [.plain front]
  | level :: more => [.plain front, .has (nestedChain level.front more)]

/-! ### Reading -/

/-- A text that levels can follow. -/
structure Opening (front : String) : Prop where
  filled : front.toList ≠ []
  isSealed : Sealed front.toList
  plain : isExtended front.toList = false

theorem Canonical.opening {text : String} (h : Canonical text) : Opening text where
  filled := by
    obtain ⟨c, more, hhead, -⟩ := h.written.exists_head
    simp [hhead]
  isSealed := h.written.isSealed
  plain := h.not_extended

namespace HasLevel.WellSpelt

variable {level : HasLevel} (h : level.WellSpelt)

include h

theorem opening : Opening level.front := by
  unfold HasLevel.front
  split
  · have hsigns : Sealed "> ".toList := .of_all (by decide)
    have hcolon : ':' ∉ "> ".toList := by decide
    refine ⟨?_, ?_, ?_⟩
    · rw [String.toList_append]
      exact List.append_ne_nil_of_left_ne_nil (by decide) _
    · rw [String.toList_append]
      exact hsigns.append h.text.written.isSealed
    · rw [String.toList_append, isExtended_append hcolon, h.text.not_extended]
  · exact h.text.opening

theorem isName : PseudoClass.has.IsName level.name.toList := by
  have hname : level.name.toList.map Char.toLower = "has".toList ∨
      level.name.toList.map Char.toLower = "-abp-has".toList := by
    rw [← String.toList_ofList (l := level.name.toList.map Char.toLower)]
    exact h.name.imp (congrArg String.toList) (congrArg String.toList)
  unfold PseudoClass.IsName
  rcases hname with hname | hname <;> simp [hname, PseudoClass.names]

end HasLevel.WellSpelt

section Reading

variable {front : String} {levels : List HasLevel}

theorem nestedText_toList (level : HasLevel) (more : List HasLevel) :
    (nestedText front (level :: more)).toList = front.toList ++ ':' :: (level.name.toList ++
      '(' :: ((nestedText level.front more).toList ++ [')'])) := by
  simp [nestedText]

theorem nestedText_isSealed (hfront : Opening front) (hlevels : ∀ level ∈ levels, level.WellSpelt) :
    Sealed (nestedText front levels).toList := by
  induction levels generalizing front with
  | nil => exact hfront.isSealed
  | cons level more ih =>
    obtain ⟨hlevel, hmore⟩ := List.forall_mem_cons.mp hlevels
    have hname : Sealed level.name.toList := .of_letters fun c hc =>
      Token.isScanSign_of_isNameChar (Token.isNameChar_of_isPseudoChar (hlevel.isName.letters c hc))
    rw [nestedText_toList]
    exact hfront.isSealed.append
      (.letter rfl (hname.append (.group (ih hlevel.opening hmore) .nil)))

/-- How such a text is put together. -/
def nestedPhrase (front : String) : List HasLevel → Phrase
  | [] => .plain front.toList
  | level :: more => .has front.toList level.name.toList (nestedPhrase level.front more) (.plain [])

theorem nestedPhrase_text : (nestedPhrase front levels).text = (nestedText front levels).toList := by
  induction levels generalizing front with
  | nil => rfl
  | cons level more ih => simp [nestedPhrase, Phrase.text, nestedText_toList, ih]

theorem nestedPhrase_anchored : ¬ (nestedPhrase front levels).IsLonelyContains := by
  cases levels <;> simp [nestedPhrase, Phrase.IsLonelyContains]

theorem nestedPhrase_chain (hfront : Opening front)
    (hlevels : ∀ level ∈ levels, level.WellSpelt) :
    (nestedPhrase front levels).chain = nestedChain front levels := by
  have hplain : ∀ front : String, Opening front →
      Phrase.plainLinks front.toList = [.plain front] := fun front hfront => by
    rw [Phrase.plainLinks, if_neg (by simpa using hfront.filled), String.ofList_toList]
  induction levels generalizing front with
  | nil => exact hplain front hfront
  | cons level more ih =>
    obtain ⟨hlevel, hmore⟩ := List.forall_mem_cons.mp hlevels
    rw [nestedPhrase, Phrase.chain, hplain front hfront, ih hlevel.opening hmore]
    rfl

theorem nestedPhrase_correct (hfront : Opening front)
    (hlevels : ∀ level ∈ levels, level.WellSpelt) : (nestedPhrase front levels).IsCorrect := by
  induction levels generalizing front with
  | nil => exact isPlainText_iff.mpr hfront.plain
  | cons level more ih =>
    obtain ⟨hlevel, hmore⟩ := List.forall_mem_cons.mp hlevels
    have hinner := ih hlevel.opening hmore
    have hbalanced : IsBalanced (nestedPhrase level.front more).text := by
      rw [nestedPhrase_text]
      exact (nestedText_isSealed hlevel.opening hmore).isBalanced
    have hfilled : (nestedPhrase level.front more).text ≠ [] := by
      refine mt Phrase.chain_eq_nil_iff.mpr ?_
      rw [nestedPhrase_chain hlevel.opening hmore]
      cases more <;> simp [nestedChain]
    exact ⟨⟨isPlainText_iff.mpr hfront.plain, hlevel.isName, hbalanced⟩,
      ⟨hinner, hfilled, nestedPhrase_anchored⟩, isPlainText_iff.mpr rfl⟩

/-- **Levels are read one by one.** -/
theorem Chain.parse_nested (hfront : Opening front)
    (hlevels : ∀ level ∈ levels, level.WellSpelt) :
    Chain.parse (nestedText front levels) = .ok (nestedChain front levels) := by
  rw [← nestedPhrase_chain hfront hlevels]
  exact parse_of_derives
    ⟨nestedPhrase_text, nestedPhrase_correct hfront hlevels, nestedPhrase_anchored⟩

end Reading

/-! ### Meaning -/

namespace Document

variable {doc : Document}

/--
The element `d` matches the selector of the level, seen from `e`: a row of elements that the
selector asks for ends in `d`.  If the selector is relative the row starts at a child of `e`;
otherwise it may start anywhere in the document.
-/
def MatchesFrom (doc : Document) (level : HasLevel) (e d : Nat) : Prop :=
  ∃ m, (level.child = true → doc.page.parent? m = some e) ∧
    Complex.Spans doc.family.tree (some e) (Complex.parse level.text).first
      (Complex.parse level.text).rest m d

/-- Below the element there is one that matches from it, and holds the levels inside. -/
def HoldsNested (doc : Document) : List HasLevel → Nat → Prop
  | [], _ => True
  | level :: more, e => ∃ d, (doc.isElement d = true ∧ doc.contains e d = true ∧ d ≠ e) ∧
    doc.MatchesFrom level e d ∧ HoldsNested doc more d

/-! ### Candidates -/

/-- A query for the selector of a level finds what matches from the scope on. -/
theorem mem_query_level (doc : Document) {level : HasLevel} (h : level.WellSpelt) {e : Nat}
    (he : e ≠ 0) :
    ∃ nodes, doc.page.queryAll e level.front = .ok nodes ∧ ∀ d, d ∈ nodes ↔
      (doc.isElement d = true ∧ doc.contains e d = true ∧ d ≠ e) ∧ doc.MatchesFrom level e d := by
  have hscope : scopeOf e = some e := if_pos (by simpa using he)
  let member : QueryMember := ⟨level.child, level.text⟩
  obtain ⟨nodes, hquery, hnodes⟩ := doc.mem_query_member e (show Written member.selector from
    h.text.written)
  refine ⟨nodes, hquery, fun d => (hnodes d).trans (and_congr_right fun _ => ?_)⟩
  rw [hscope, QueryMember.complex]
  cases hchild : level.child with
  | false => simp [member, hchild, MatchesFrom, Complex.matches_iff_spans]
  | true =>
    rw [if_pos hchild, Complex.matches_join]
    constructor
    · rintro ⟨left, hleft, m, hm, hspans⟩
      obtain rfl : e = left := by
        simpa [Complex.matches_first, Compound.matches, Simple.matches] using hleft
      exact ⟨m, fun _ => Option.mem_toList.mp hm, hspans⟩
    · rintro ⟨m, hm, hspans⟩
      refine ⟨e, by simp [Complex.matches_first, Compound.matches, Simple.matches], m, ?_, hspans⟩
      exact Option.mem_toList.mpr (hm hchild)

/-- The text of a level is complete, so that its candidates are what a query for it finds. -/
theorem candidates_level {level : HasLevel} (h : level.WellSpelt) {e : Nat} {nodes : List Nat}
    (hquery : doc.page.queryAll e level.front = .ok nodes) :
    Candidates.all doc.page level.front e = nodes := by
  have hcomplete : SelectorText.complete level.front = level.front := by
    unfold HasLevel.front
    split
    · exact h.text.written.complete_append "> "
    · exact h.text.complete
  rw [Candidates.all, hcomplete, hquery]
  rfl

/-! ### Evaluation -/

theorem findsBelow_iff {e : Nat} {text : String} {nodes : List Nat}
    (hquery : doc.page.queryAll e text = .ok nodes) :
    Evaluation.findsBelow doc.page e text = true ↔ ∃ d, d ∈ nodes := by
  rw [Evaluation.findsBelow, Page.queryFirst, hquery]
  cases nodes with
  | nil => simp [Except.map]
  | cons d more => simp [Except.map]

variable (h : doc.WellFormed) (hsize : doc.size ≤ maxWord)

include h hsize

/-- **An argument finds something below an element if the element holds its levels.** -/
theorem holdsAt_nested (styles : List Style) {level : HasLevel} {more : List HasLevel}
    (hlevels : ∀ other ∈ level :: more, other.WellSpelt) {e : Nat} (he : doc.isElement e = true)
    (hconnected : doc.isConnected e = true) :
    Evaluation.holdsAt doc.page styles (nestedChain level.front more) e = true ↔
      doc.HoldsNested (level :: more) e := by
  induction more generalizing level e with
  | nil =>
    obtain ⟨hlevel, -⟩ := List.forall_mem_cons.mp hlevels
    obtain ⟨nodes, hquery, hnodes⟩ := mem_query_level doc hlevel (h.ne_top he)
    have hfounds : founds (Evaluation.items ⟨doc.page, styles, none⟩ [.plain level.front] "" e) =
        [(level.front, [])] := by
      simp [Evaluation.items, Evaluation.linkSteps, Evaluation.refine, founds, Item.found?,
        Item.anchoredAt]
    rw [Evaluation.holdsAt, nestedChain, hfounds, List.any_cons, List.any_nil, Bool.or_false,
      findsBelow_iff hquery]
    simp [hnodes, HoldsNested]
  | cons next more ih =>
    obtain ⟨hlevel, hmore⟩ := List.forall_mem_cons.mp hlevels
    obtain ⟨nodes, hquery, hnodes⟩ := mem_query_level doc hlevel (h.ne_top he)
    have hcandidates := candidates_level hlevel hquery
    rw [Evaluation.holdsAt, nestedChain, List.any_eq_true]
    simp only [Evaluation.mem_founds_plain, Evaluation.mem_founds_has_cons,
      show "" ++ level.front = level.front by simp, hcandidates]
    rw [HoldsNested]
    constructor
    · rintro ⟨found, ⟨d, hd, hholds, -⟩, -⟩
      obtain ⟨hbelow, hmatches⟩ := (hnodes d).mp hd
      have hd := (ih hmore hbelow.1 (contains_trans hconnected hbelow.2.1)).mp hholds
      exact ⟨d, hbelow, hmatches, hd⟩
    · rintro ⟨d, hbelow, hmatches, hd⟩
      have hdconnected := contains_trans hconnected hbelow.2.1
      have hholds := (ih hmore hbelow.1 hdconnected).mpr hd
      -- The argument tells of the path of the candidate, which is found where the candidate is.
      obtain ⟨others, hpath, hmem⟩ :=
        h.queryAll_path hsize hbelow.1 hdconnected hbelow.2.1 hbelow.2.2
      exact ⟨(doc.page.path d, [d]), ⟨d, (hnodes d).mpr ⟨hbelow, hmatches⟩, hholds,
        (doc.page.path d, []), List.mem_singleton_self _, rfl⟩,
        (findsBelow_iff hpath).mpr ⟨d, hmem⟩⟩

/-- What nested levels find: the elements that match the selector in front and hold the levels. -/
theorem findsOn_nested {front : String} (hfront : Canonical front) {level : HasLevel}
    {more : List HasLevel} (hlevels : ∀ other ∈ level :: more, other.WellSpelt) (e : Nat) :
    (nestedChain front (level :: more)).FindsOn doc e ↔
      (doc.isElement e = true ∧ doc.isConnected e = true ∧
        ∃ m, Complex.Spans doc.family.tree none (Complex.parse front).first
          (Complex.parse front).rest m e) ∧ doc.HoldsNested (level :: more) e := by
  have hled : ∀ anchors, (nestedChain front (level :: more)).FindsBy doc anchors e ↔
      ∃ c inner, anchors = c :: inner ∧ doc.Finds (SelectorText.complete front) c ∧
        Evaluation.holdsAt doc.page (doc.page.styles doc.page.sheets)
          (nestedChain level.front more) c = true ∧
        ∃ selector, (selector, inner) ∈ founds (Evaluation.items
            ⟨doc.page, doc.page.styles doc.page.sheets, none⟩ [] (doc.page.path c) c) ∧
          doc.Finds selector e := by
    intro anchors
    rw [show nestedChain front (level :: more) =
      Chain.plains (some front) ++ .has (nestedChain level.front more) :: [] from rfl]
    exact findsBy_led
  rw [Chain.findsOn_iff, ← hfront.finds_iff h]
  simp only [hled, hfront.complete]
  constructor
  · rintro ⟨anchors, c, inner, -, hc, hholds, selector, hfound, he⟩
    obtain ⟨rfl, rfl⟩ := Prod.mk.inj (List.mem_singleton.mp hfound)
    obtain rfl := (h.finds_path_iff hsize hc.place.1 hc.place.2).mp he
    exact ⟨hc, (holdsAt_nested h hsize _ hlevels hc.place.1 hc.place.2).mp hholds⟩
  · rintro ⟨he, hholds⟩
    exact ⟨[e], e, [], rfl, he, (holdsAt_nested h hsize _ hlevels he.place.1 he.place.2).mpr hholds,
      doc.page.path e, List.mem_singleton_self _,
      (h.finds_path_iff hsize he.place.1 he.place.2).mpr rfl⟩

end Document

namespace Engine

variable {κ : Type} [Clock κ]

/--
**Nested `has` has its relational meaning at every depth.**  An engine with any history that
does not report every pattern as selectors is given a canonical selector with any number of
nested levels behind it, in either spelling and any letter case.  On a well-formed document,
whose nodes are numbered by machine words, a full run can be completed, and whatever wake-ups
complete it, just the elements are hidden that match the selector and hold the levels.
-/
theorem full_run_hides_nested_has (doc : Document) (config : Config) (clock : κ)
    (events : List (Event Nat Nat κ)) {engine : Engine Nat Nat κ}
    (hreached : ((Engine.new config clock).meetAll events).engine = engine)
    (hshown : engine.config.selectorHiding ≠ .always) (hformed : doc.WellFormed)
    (hsize : doc.size ≤ maxWord) {front : String} (hfront : Canonical front)
    {levels : List HasLevel} (hsome : levels ≠ []) (hlevels : ∀ level ∈ levels, level.WellSpelt)
    (source : PatternSource) (hsource : source.selector = nestedText front levels) :
    (∃ last, FullRun doc engine source last) ∧
      ∀ last, FullRun doc engine source last → ∀ e, e ∈ last.hiddenElements ↔
        (doc.isElement e = true ∧ doc.isConnected e = true ∧
          ∃ m, Complex.Spans doc.family.tree none (Complex.parse front).first
            (Complex.parse front).rest m e) ∧ doc.HoldsNested levels e := by
  obtain ⟨known, hconsistent⟩ := meetAll_consistent (S := Nat) (N := Nat) config clock events
  rw [hreached] at hconsistent
  obtain ⟨level, more, rfl⟩ := List.exists_cons_of_ne_nil hsome
  have hparse : Chain.parse source.selector = .ok (nestedChain front (level :: more)) :=
    hsource ▸ Chain.parse_nested hfront.opening hlevels
  refine ⟨exists_fullRun doc engine source, fun last hrun e => ?_⟩
  rw [hrun.mem_hidden_iff hconsistent hparse (List.cons_ne_nil _ _) hshown rfl]
  exact Document.findsOn_nested hformed hsize hfront hlevels e

/-- The root has a box as its child, in which there is a paragraph. -/
theorem full_run_hides_nested_has_boxes :
    let levels : List HasLevel := [⟨"has", true, "div"⟩, ⟨"-ABP-Has", false, "p"⟩]
    let source : PatternSource := ⟨"html:has(> div:-ABP-Has(p))", "boxes"⟩
    let engine : Engine Nat Nat PausedClock := .new Config.default ⟨.zero⟩
    boxDocument.WellFormed ∧ Canonical "html" ∧ (∀ level ∈ levels, level.WellSpelt) ∧
      source.selector = nestedText "html" levels ∧
      (∃ last, FullRun boxDocument engine source last) ∧
      ∀ last, FullRun boxDocument engine source last → 1 ∈ last.hiddenElements := by
  intro levels source engine
  have hhtml : Complex.parse "html" = ⟨[.type "html"], []⟩ := by cbv
  have hdiv : Complex.parse "div" = ⟨[.type "div"], []⟩ := by cbv
  have hp : Complex.parse "p" = ⟨[.type "p"], []⟩ := by cbv
  have hfront : Canonical "html" := .of_type hhtml (by cbv)
  have hlevels : ∀ level ∈ levels, level.WellSpelt := by
    refine List.forall_mem_cons.mpr ⟨⟨.inl (by decide), .of_type hdiv (by cbv)⟩, ?_⟩
    exact List.forall_mem_singleton.mpr ⟨.inr (by decide), .of_type hp (by cbv)⟩
  have hformed : boxDocument.WellFormed := by decide
  have hsource : source.selector = nestedText "html" levels := by decide
  obtain ⟨hexists, hhides⟩ := full_run_hides_nested_has boxDocument Config.default
    (⟨.zero⟩ : PausedClock) [] rfl (by decide) hformed (by decide) hfront (List.cons_ne_nil _ _)
    hlevels source hsource
  refine ⟨hformed, hfront, hlevels, hsource, hexists, fun last hrun => (hhides last hrun 1).mpr ?_⟩
  refine ⟨⟨by decide, by decide, 1, ?_⟩, 2, ⟨by decide, by decide, by decide⟩, ⟨2, ?_, ?_⟩,
    3, ⟨by decide, by decide, by decide⟩, ⟨3, ?_, ?_⟩, trivial⟩
  · rw [hhtml]
    exact ⟨by decide, rfl⟩
  · exact fun _ => by decide
  · rw [hdiv]
    exact ⟨by decide, rfl⟩
  · exact fun hchild => absurd hchild Bool.false_ne_true
  · rw [hp]
    exact ⟨by decide, rfl⟩

end Engine

end CosmeticFilter
