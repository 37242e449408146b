/-
Chains that a `has` leads, and where their matches lie.

Such a chain finds elements by way of an outermost anchor: a candidate of the `has` at its
start.  The candidates of each later link are looked for inside of the anchor before, so that
the anchors of a match lie inside of the outermost one, and what is found lies inside of it
too, unless the selectors go on to siblings.

So whether there is a match is decided in the region of the outermost anchor: what stands
above it and what stands below.  When changes spare this region, the match is there afterwards
if and only if it was there before.
-/
import CosmeticFilter.Proofs.Findings

namespace CosmeticFilter

/-! ### Chains with plain text in front -/

/-- Plain text, if there is any. -/
def Chain.plains (text : Option String) : Chain :=
  text.toList.map .plain

section Links

variable {deps : Dependencies} {text : Option String} {rest : Chain}

theorem within_plains (h : (Chain.dependencies (Chain.plains text ++ rest)).Within deps) :
    (Chain.dependencies rest).Within deps := by
  cases text with
  | none => exact h
  | some text => exact within_rest h

theorem fits_plains (h : (Chain.dependencies (Chain.plains text ++ rest)).Within deps) :
    Fits deps (text.getD "").toList := by
  cases text with
  | none => exact .nil
  | some text => exact fits_of_within (within_link h)

theorem apart_plains (h : Chain.apart (Chain.plains text ++ rest) = true) :
    Chain.apart rest = true := by
  cases text with
  | none => exact h
  | some text => exact (Evaluation.apart_rest h).2

end Links

/-! ### What the chains find -/

/-- The chain has a `has` link at its start, but for plain text, and no `properties` anywhere. -/
inductive Chain.HasLed : Chain → Prop
  | led (before : Option String) (argument rest : Chain)
      (hargument : Chain.searches argument = true) (hrest : Chain.searches rest = true)
      (hcomma : ∀ text, .plain text ∈ rest → ',' ∉ text.toList) :
      HasLed (plains before ++ .has argument :: rest)

theorem Chain.HasLed.searches {chain : Chain} (h : chain.HasLed) :
    Chain.searches chain = true := by
  obtain ⟨before, argument, rest, hargument, hrest, -⟩ := h
  cases before with
  | none => simp [plains, Chain.searches, Link.searches, hargument, hrest]
  | some text => simp [plains, Chain.searches, Link.searches, hargument, hrest]

namespace Evaluation

variable {N S : Type} [DecidableEq N]

/-- The argument of a `has` finds something below the candidate. -/
def holdsAt (page : Page N S) (styles : List Style) (argument : Chain) (candidate : N) : Bool :=
  (founds (items ⟨page, styles, none⟩ argument "" candidate)).any
    (findsBelow page candidate ·.1)

/-- On pages that are alike it finds something there, or finds nothing, on both. -/
theorem holdsAt_course {deps : Dependencies} {W : N → Prop} {a b : Page N S}
    {others styles : List Style} {ready : Chain → String → Prop} (h : Page.Alike deps W a b)
    (hcourse : Course deps others styles ready) {argument : Chain} (hready : ready argument "")
    {c : N} (hc : W c) : holdsAt b others argument c = holdsAt a styles argument c := by
  unfold holdsAt
  rw [items_course h hcourse argument "" c hready hc, Bool.eq_iff_iff, List.any_eq_true,
    List.any_eq_true]
  refine exists_congr fun found => and_congr_right fun hfound => ?_
  rw [findsBelow, findsBelow, Page.queryFirst, Page.queryFirst,
    h.query c _ hc (founds_ready h hcourse hready hc found hfound)]

theorem mem_founds_has_cons {page : Page N S} {styles : List Style} {argument rest : Chain}
    {before : String} {scope : N} {found : String × List N} :
    found ∈ founds (items ⟨page, styles, none⟩ (.has argument :: rest) before scope) ↔
      ∃ c ∈ Candidates.all page before scope, holdsAt page styles argument c = true ∧
        ∃ inner ∈ founds (items ⟨page, styles, none⟩ rest (page.path c) c),
          found = (inner.1, c :: inner.2) := by
  rw [mem_founds_cons]
  simp only [mem_resolvedBy_has]
  constructor
  · rintro ⟨step, ⟨c, hc, -, hholds, rfl⟩, inner, hinner, rfl⟩
    exact ⟨c, hc, hholds, inner, hinner, rfl⟩
  · rintro ⟨c, hc, hholds, inner, hinner, rfl⟩
    exact ⟨_, ⟨c, hc, rfl, hholds, rfl⟩, inner, hinner, rfl⟩

theorem mem_founds_led {page : Page N S} {styles : List Style} {argument rest : Chain}
    {before : Option String} {scope : N} {found : String × List N} :
    found ∈ founds (items ⟨page, styles, none⟩ (Chain.plains before ++ .has argument :: rest) ""
        scope) ↔
      ∃ c ∈ Candidates.all page (before.getD "") scope, holdsAt page styles argument c = true ∧
        ∃ inner ∈ founds (items ⟨page, styles, none⟩ rest (page.path c) c),
          found = (inner.1, c :: inner.2) := by
  cases before with
  | none => exact mem_founds_has_cons
  | some before =>
    refine mem_founds_plain.trans ?_
    rw [show "" ++ before = before by simp]
    exact mem_founds_has_cons

end Evaluation

namespace Document

open Evaluation

variable {doc : Document} {pattern : Pattern}

/-- What such a chain finds is found by way of an outermost anchor. -/
theorem findsBy_led {before : Option String} {argument rest : Chain} {anchors : List Nat}
    {n : Nat} :
    Chain.FindsBy doc (Chain.plains before ++ .has argument :: rest) anchors n ↔
      ∃ c more, anchors = c :: more ∧ doc.Finds (SelectorText.complete (before.getD "")) c ∧
        holdsAt doc.page (doc.page.styles doc.page.sheets) argument c = true ∧
        ∃ selector, (selector, more) ∈ founds (items
            ⟨doc.page, doc.page.styles doc.page.sheets, none⟩ rest (doc.page.path c) c) ∧
          doc.Finds selector n := by
  unfold Chain.FindsBy
  constructor
  · rintro ⟨selector, hfound, hfinds⟩
    obtain ⟨c, hc, hholds, inner, hinner, heq⟩ := mem_founds_led.mp hfound
    obtain ⟨rfl, rfl⟩ := Prod.mk.inj heq
    exact ⟨c, inner.2, rfl, Pattern.mem_candidates.mp hc, hholds, inner.1, hinner, hfinds⟩
  · rintro ⟨c, more, rfl, hc, hholds, selector, hfound, hfinds⟩
    exact ⟨selector, mem_founds_led.mpr
      ⟨c, Pattern.mem_candidates.mpr hc, hholds, (selector, more), hfound, rfl⟩, hfinds⟩

/-! ### Where it lies -/

/-- The text is the path of an element inside of the node, and maybe plain text behind it. -/
inductive Leads (doc : Document) (c : Nat) : String → Prop
  | path {m : Nat} (hm : doc.isElement m = true) (hinside : doc.contains c m = true)
      {after : String} (hcomma : ',' ∉ after.toList) (hsiblings : asksSiblings after.toList = false) :
      Leads doc c (doc.page.path m ++ after)

/-- What such a text finds lies inside of the node. -/
theorem Leads.contains {c : Nat} {text : String} (h : doc.Leads c text) (hformed : doc.WellFormed)
    (hc : doc.isConnected c = true) {n : Nat} (hfinds : doc.Finds text n) :
    doc.contains c n = true := by
  obtain ⟨hm, hinside, hcomma, hsiblings⟩ := h
  obtain ⟨nodes, hquery, hn⟩ := hfinds
  exact contains_trans hinside
    (hformed.contains_of_mem_path hm (contains_trans hc hinside) hcomma hsiblings hquery hn)

/-- A text that a chain may follow: the path of an element, if plain text comes next. -/
structure LeadsTo (doc : Document) (c : Nat) (rest : Chain) (text : String) : Prop where
  leads : doc.Leads c text
  path : Chain.startsPlain rest = true →
    ∃ m, doc.isElement m = true ∧ doc.contains c m = true ∧ text = doc.page.path m

theorem LeadsTo.of_path {c m : Nat} (rest : Chain) (hm : doc.isElement m = true)
    (hinside : doc.contains c m = true) : doc.LeadsTo c rest (doc.page.path m) := by
  refine ⟨?_, fun _ => ⟨m, hm, hinside, rfl⟩⟩
  have hleads : doc.Leads c (doc.page.path m ++ "") := .path hm hinside (by simp) rfl
  rwa [String.append_empty] at hleads

/-- Candidates are elements inside of the scope. -/
theorem place_of_candidate {before : String} {scope m : Nat}
    (hm : m ∈ Candidates.all doc.page before scope) :
    doc.isElement m = true ∧ doc.contains scope m = true := by
  unfold Candidates.all at hm
  cases hquery : doc.page.queryAll scope (SelectorText.complete before) with
  | error e => simp [hquery, Except.toOption] at hm
  | ok nodes =>
    rw [hquery] at hm
    exact isElement_of_mem_queryAll hquery hm

/-- Every step of a link stays inside of the node. -/
theorem leadsTo_of_step {styles : List Style} {c : Nat} {link : Link} {rest : Chain}
    (hsearches : link.searches = true) (hapart : Chain.apart (link :: rest) = true)
    (hcomma : ∀ text, link = .plain text → ',' ∉ text.toList)
    (hsiblings : link.dependencies.siblings = false) {before : String} {scope : Nat}
    (hscope : doc.contains c scope = true) (hbefore : doc.LeadsTo c (link :: rest) before) :
    ∀ step ∈ resolvedBy (linkSteps ⟨doc.page, styles, none⟩ link before scope),
      doc.contains c step.2.1 = true ∧ doc.LeadsTo c rest step.1 := by
  intro step hstep
  cases link with
  | plain text =>
    obtain rfl : step = (before ++ text, scope, none) := by
      simpa [linkSteps, resolvedBy, LinkStep.resolved?] using hstep
    obtain ⟨m, hm, hinside, rfl⟩ := hbefore.path rfl
    refine ⟨hscope, .path hm hinside (hcomma text rfl) hsiblings, fun hstarts => ?_⟩
    simp only [Chain.apart, hstarts, Bool.and_true, Bool.and_eq_true] at hapart
    simp [Chain.startsPlain] at hapart
  | contains expression =>
    obtain ⟨m, hm, rfl⟩ := mem_resolvedBy_containsSteps hstep
    obtain ⟨helement, hinside⟩ := place_of_candidate hm
    exact ⟨hscope, .of_path rest helement (contains_trans hscope hinside)⟩
  | has argument =>
    obtain ⟨m, hm, -, -, rfl⟩ := mem_resolvedBy_has.mp hstep
    obtain ⟨helement, hinside⟩ := place_of_candidate hm
    have hm := contains_trans hscope hinside
    exact ⟨hm, .of_path rest helement hm⟩
  | properties expression => simp [Link.searches] at hsearches

/-- What a search inside of a node finds leads into the node. -/
theorem leads_of_mem_founds {styles : List Style} {c : Nat} {chain : Chain}
    (hsearches : Chain.searches chain = true) (hapart : Chain.apart chain = true)
    (hcomma : ∀ text, .plain text ∈ chain → ',' ∉ text.toList)
    (hsiblings : (Chain.dependencies chain).siblings = false) {before : String} {scope : Nat}
    (hscope : doc.contains c scope = true) (hbefore : doc.LeadsTo c chain before) :
    ∀ found ∈ founds (items ⟨doc.page, styles, none⟩ chain before scope),
      doc.Leads c found.1 := by
  induction chain generalizing before scope with
  | nil =>
    intro found hfound
    obtain rfl := List.mem_singleton.mp hfound
    exact hbefore.leads
  | cons link rest ih =>
    intro found hfound
    obtain ⟨hlink, hmore⟩ : link.searches = true ∧ Chain.searches rest = true := by
      simpa [Chain.searches] using hsearches
    obtain ⟨hnone, hnext⟩ : link.dependencies.siblings = false ∧
        (Chain.dependencies rest).siblings = false := by
      simpa [Chain.dependencies, Dependencies.union] using hsiblings
    obtain ⟨step, hstep, inner, hinner, rfl⟩ := mem_founds_cons.mp hfound
    obtain ⟨hinside, hleads⟩ := leadsTo_of_step hlink hapart
      (fun text htext => hcomma text (htext ▸ List.mem_cons_self)) hnone hscope hbefore step hstep
    exact ih hmore (apart_rest hapart).2
      (fun text htext => hcomma text (List.mem_cons_of_mem _ htext)) hnext hinside hleads inner
      hinner

/-- **Such a chain finds what lies inside of its outermost anchor**, if siblings do not matter. -/
theorem contains_of_findsBy (h : doc.WellFormed) {chain : Chain} (hled : chain.HasLed)
    (hapart : Chain.apart chain = true) (hsiblings : (Chain.dependencies chain).siblings = false)
    {c n : Nat} {more : List Nat} (hfinds : chain.FindsBy doc (c :: more) n) :
    doc.contains c n = true := by
  obtain ⟨before, argument, rest, -, hrest, hcomma⟩ := hled
  obtain ⟨outer, inner, heq, hc, -, selector, hfound, hn⟩ := findsBy_led.mp hfinds
  obtain ⟨rfl, rfl⟩ := List.cons.inj heq
  have hnone : (Chain.dependencies rest).siblings = false := by
    have hwithin := within_rest (within_plains (.refl (Chain.dependencies
      (Chain.plains before ++ .has argument :: rest))))
    rw [Bool.eq_false_iff]
    intro hasks
    simp [hwithin.siblings hasks] at hsiblings
  have hleads := leads_of_mem_founds hrest (apart_rest (apart_plains hapart)).2 hcomma hnone
    (contains_self c) (.of_path rest hc.place.1 (contains_self c)) _ hfound
  exact hleads.contains h hc.place.2 hn

/-! ### The region of the outermost anchor -/

/-- The argument of a `has` finds something below the candidate as before. -/
theorem Spared.holdsAt_eq {options : ObserveOptions} {a b : Document} {r : Nat}
    (h : Spared options pattern.dependencies a b r) {argument : Chain}
    (hsearches : Chain.searches argument = true) (hapart : Chain.apart argument = true)
    (hwithin : (Chain.dependencies argument).Within pattern.dependencies)
    (others styles : List Style) {c : Nat} (hc : b.contains r c = true) :
    holdsAt b.page others argument c = holdsAt a.page styles argument c :=
  holdsAt_course h.page_alike (course_searching _ others styles)
    ⟨hsearches, hapart, hwithin, .nil⟩ hc

/-- If the region of the outermost anchor is spared, the chain finds what it found before. -/
theorem Spared.findsBy_iff {options : ObserveOptions} {a b : Document} {c n : Nat}
    {more : List Nat} (h : Spared options pattern.dependencies a b c)
    (htop : a.isElement 0 = false) (hled : pattern.chain.HasLed)
    (hapart : Chain.apart pattern.chain = true) (hn : b.contains c n = true) :
    pattern.chain.FindsBy b (c :: more) n ↔ pattern.chain.FindsBy a (c :: more) n := by
  have hwithin : (Chain.dependencies pattern.chain).Within pattern.dependencies := .refl _
  generalize pattern.chain = chain at hled hapart hwithin
  obtain ⟨before, argument, rest, hargument, hrest, -⟩ := hled
  have hhas := within_plains hwithin
  have hinner := apart_rest (apart_plains hapart)
  have hc : b.contains c c = true := contains_self c
  have hrelated := related_of_contains hc
  have hready : Ready pattern.dependencies rest (a.page.path c) :=
    .of_inert (h.tags.path_inert c)
  have hitems := items_alike h.page_alike (b.page.styles b.page.sheets)
    (a.page.styles a.page.sheets) rest hrest hinner.2 (within_rest hhas) _ c hready hc
  have hfit := founds_fit h.page_alike (a.page.styles a.page.sheets) hrest hinner.2
    (within_rest hhas) hready hc
  rw [findsBy_led, findsBy_led]
  refine exists_congr fun outer => exists_congr fun inner => and_congr_right fun heq => ?_
  obtain ⟨rfl, rfl⟩ := List.cons.inj heq
  rw [h.finds_iff htop (fits_plains hwithin).complete hrelated,
    h.holdsAt_eq hargument hinner.1 (within_argument (within_link hhas)) _ _ hc,
    h.path_eq hrelated, hitems]
  refine and_congr_right fun _ => and_congr_right fun _ => ?_
  refine exists_congr fun selector => and_congr_right fun hfound => ?_
  exact h.finds_iff htop (hfit _ hfound) (related_of_contains hn)

/-- A match is as before, if its outermost anchor is out of reach. -/
theorem Recorded.findsBy_iff_of_unreached {options : ObserveOptions} {patterns : List Pattern}
    {a b : Document} {n : Nat} (h : Recorded options patterns a b)
    (hsearching : SearchingPatterns patterns)
    (hpattern : pattern ∈ patterns) (hled : pattern.chain.HasLed)
    (hsiblings : pattern.dependencies.siblings = false)
    {c : Nat} {more : List Nat} (hunreached : b.page.reaches b.records c = false) :
    pattern.chain.FindsBy b (c :: more) n ↔
      pattern.chain.FindsBy a (c :: more) n ∧ b.isConnected n = true := by
  have hapart := hsearching.apart pattern hpattern
  have hiff : b.contains c n = true → b.isConnected n = true →
      (pattern.chain.FindsBy b (c :: more) n ↔ pattern.chain.FindsBy a (c :: more) n) := by
    intro hinside hn
    have hspared := h.spared_of_unreached hpattern hsiblings (connected_of_contains hn hinside)
      hunreached
    exact hspared.findsBy_iff h.before.not_isElement_top hled hapart hinside
  constructor
  · intro hfinds
    have hn := hfinds.place.2
    exact ⟨(hiff (contains_of_findsBy h.after hled hapart hsiblings hfinds) hn).mp hfinds, hn⟩
  · rintro ⟨hfinds, hn⟩
    -- What was around the node is still around it.
    have hinside := h.documented.contains (lt_size_of_isElement hfinds.place.1) hn
      (contains_of_findsBy h.before hled hapart hsiblings hfinds)
    exact (hiff hinside hn).mpr hfinds

end Document

end CosmeticFilter
