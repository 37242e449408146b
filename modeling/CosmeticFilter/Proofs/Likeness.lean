/-
Selectors and chains look only at what they depend on.

Two trees are alike on a set of elements if they agree there about parents, names and
positions, and, as far as the dependencies tell, about attributes and siblings.  The set
has to hold with an element all that a selector can reach from it: the elements above, and
the siblings before if they matter.  Then every selector that fits the dependencies matches
the same elements of the set.

From there it goes on to chains.  Two pages are alike inside of a set if queries with
fitting selectors answer the same there, and paths, containment and, if it matters, text
are the same.  The searches of a chain through the set then take the same steps.
-/
import CosmeticFilter.Proofs.Reading
import CosmeticFilter.Proofs.Styles

namespace CosmeticFilter

/-! ### Trees -/

section Trees

variable {N : Type}

/-- The trees agree about the elements of a set, as far as the dependencies tell. -/
structure ElementTree.Alike (deps : Dependencies) (V : N → Prop) (a b : ElementTree N) : Prop where
  parent : ∀ n, V n → b.parent? n = a.parent? n
  above : ∀ n p, V n → a.parent? n = some p → V p
  tag : ∀ n, V n → b.tag n = a.tag n
  position : ∀ n, V n → b.position n = a.position n
  isRoot : ∀ n, V n → b.isRoot n = a.isRoot n
  id? : deps.attributes = true → ∀ n, V n → b.id? n = a.id? n
  hasClass : deps.attributes = true → ∀ n, V n → b.hasClass n = a.hasClass n
  attribute? : deps.attributes = true → ∀ n, V n → b.attribute? n = a.attribute? n
  previous : deps.siblings = true → ∀ n, V n → b.previous? n = a.previous? n
  before : deps.siblings = true → ∀ n m, V n → a.previous? n = some m → V m

namespace ElementTree.Alike

variable {deps : Dependencies} {V : N → Prop} {a b : ElementTree N}

theorem ancestors (h : Alike deps V a b) {n : N} (hn : V n) :
    b.ancestors n = a.ancestors n ∧ ∀ m ∈ a.ancestors n, V m := by
  induction hdepth : a.depth n using Nat.strongRecOn generalizing n with
  | ind depth ih =>
    rw [b.ancestors_eq, a.ancestors_eq, h.parent n hn]
    cases hparent : a.parent? n with
    | none => simp
    | some p =>
      obtain ⟨heq, hall⟩ := ih _ (hdepth ▸ a.depth_parent hparent) (h.above n p hn hparent) rfl
      simp only [heq]
      exact ⟨trivial, List.forall_mem_cons.mpr ⟨h.above n p hn hparent, hall⟩⟩

theorem preceding (h : Alike deps V a b) (hsiblings : deps.siblings = true) {n : N} (hn : V n) :
    b.preceding n = a.preceding n ∧ ∀ m ∈ a.preceding n, V m := by
  induction hplace : a.place n using Nat.strongRecOn generalizing n with
  | ind place ih =>
    rw [b.preceding_eq, a.preceding_eq, h.previous hsiblings n hn]
    cases hprevious : a.previous? n with
    | none => simp
    | some m =>
      have hm := h.before hsiblings n m hn hprevious
      obtain ⟨heq, hall⟩ := ih _ (hplace ▸ a.place_previous hprevious) hm rfl
      simp only [heq]
      exact ⟨trivial, List.forall_mem_cons.mpr ⟨hm, hall⟩⟩

/-- What stands on the left of an element is the same. -/
theorem leftOf (h : Alike deps V a b) {comb : Combinator}
    (hcomb : comb.asksSiblings = true → deps.siblings = true) {n : N} (hn : V n) :
    comb.leftOf b n = comb.leftOf a n ∧ ∀ m ∈ comb.leftOf a n, V m := by
  cases comb with
  | descendant => exact h.ancestors hn
  | child =>
    simp only [Combinator.leftOf, h.parent n hn, Option.mem_toList]
    exact ⟨trivial, fun m hm => h.above n m hn hm⟩
  | adjacent =>
    simp only [Combinator.leftOf, h.previous (hcomb rfl) n hn, Option.mem_toList]
    exact ⟨trivial, fun m hm => h.before (hcomb rfl) n m hn hm⟩
  | sibling => exact h.preceding (hcomb rfl) hn

variable [DecidableEq N]

theorem simple_matches (h : Alike deps V a b) {cond : Simple}
    (hcond : cond.asksAttributes = true → deps.attributes = true) (scope : Option N) {n : N}
    (hn : V n) : cond.matches b scope n = cond.matches a scope n := by
  match cond, hcond with
  | .universal, _ | .unsupported _, _ => rfl
  | .type _, _ => simp only [Simple.matches, h.tag n hn]
  | .class _, hcond => simp only [Simple.matches, h.hasClass (hcond rfl) n hn]
  | .id _, hcond => simp only [Simple.matches, h.id? (hcond rfl) n hn]
  | .attribute _, hcond => simp only [Simple.matches, h.attribute? (hcond rfl) n hn]
  | .attributeIs _ _, hcond => simp only [Simple.matches, h.attribute? (hcond rfl) n hn]
  | .root, _ => simp only [Simple.matches, h.isRoot n hn]
  | .scope, _ => cases scope <;> simp only [Simple.matches, h.isRoot n hn]
  | .nthChild _, _ => simp only [Simple.matches, h.position n hn]

theorem compound_matches (h : Alike deps V a b) {compound : Compound}
    (hcompound : ∀ cond ∈ compound, cond.asksAttributes = true → deps.attributes = true)
    (scope : Option N) {n : N} (hn : V n) :
    compound.matches b scope n = compound.matches a scope n := by
  have hall : compound.all (Simple.matches b scope n) =
      compound.all (Simple.matches a scope n) := by
    induction compound with
    | nil => rfl
    | cons cond more ih =>
      obtain ⟨hcond, hmore⟩ := List.forall_mem_cons.mp hcompound
      rw [List.all_cons, List.all_cons, h.simple_matches hcond scope hn, ih hmore]
  rw [Compound.matches, Compound.matches, hall]

/-- Compounds, from right to left, that ask for nothing beyond the dependencies. -/
def LeftFits (deps : Dependencies) (left : List (Combinator × Compound)) : Prop :=
  ∀ pair ∈ left, (pair.1.asksSiblings = true → deps.siblings = true) ∧
    ∀ cond ∈ pair.2, cond.asksAttributes = true → deps.attributes = true

theorem matchesLeft (h : Alike deps V a b) (scope : Option N)
    {left : List (Combinator × Compound)} (hleft : LeftFits deps left) {n : N} (hn : V n) :
    Complex.matchesLeft b scope left n = Complex.matchesLeft a scope left n := by
  induction left generalizing n with
  | nil => rfl
  | cons pair more ih =>
    obtain ⟨⟨hcomb, hcompound⟩, hmore⟩ := List.forall_mem_cons.mp hleft
    obtain ⟨heq, hall⟩ := h.leftOf hcomb hn
    simp only [Complex.matchesLeft, heq]
    rw [Bool.eq_iff_iff, List.any_eq_true, List.any_eq_true]
    refine exists_congr fun m => and_congr_right fun hm => ?_
    rw [h.compound_matches hcompound scope (hall m hm), ih hmore (hall m hm)]

omit [DecidableEq N] in
theorem fromRight_fits {left : Compound} {seen rest : List (Combinator × Compound)}
    (hfirst : ∀ cond ∈ left, cond.asksAttributes = true → deps.attributes = true)
    (hseen : LeftFits deps seen) (hrest : LeftFits deps rest) :
    (∀ cond ∈ (Complex.fromRight left seen rest).1,
      cond.asksAttributes = true → deps.attributes = true) ∧
    LeftFits deps (Complex.fromRight left seen rest).2 := by
  induction rest generalizing left seen with
  | nil => exact ⟨hfirst, hseen⟩
  | cons pair more ih =>
    obtain ⟨hpair, hmore⟩ := List.forall_mem_cons.mp hrest
    exact ih hpair.2 (List.forall_mem_cons.mpr ⟨⟨hpair.1, hfirst⟩, hseen⟩) hmore

theorem complex_matches (h : Alike deps V a b) (scope : Option N) {sel : Complex}
    (hsel : sel.Fits deps) {n : N} (hn : V n) :
    sel.matches b scope n = sel.matches a scope n := by
  have hnone : LeftFits deps [] := by simp [LeftFits]
  obtain ⟨hlast, hleft⟩ := fromRight_fits hsel.first hnone
    fun pair hpair => ⟨hsel.combinators pair hpair, hsel.compounds pair hpair⟩
  simp only [Complex.matches]
  rw [h.compound_matches hlast scope hn, h.matchesLeft scope hleft hn]

/-- **Selectors that fit the dependencies** match the same elements of the set. -/
theorem list_matches (h : Alike deps V a b) (scope : Option N) {list : SelectorList}
    (hlist : ∀ sel ∈ list, sel.Fits deps) {n : N} (hn : V n) :
    list.matches b scope n = list.matches a scope n := by
  unfold SelectorList.matches
  rw [Bool.eq_iff_iff, List.any_eq_true, List.any_eq_true]
  refine exists_congr fun sel => and_congr_right fun hsel => ?_
  rw [h.complex_matches scope (hlist sel hsel) hn]

end ElementTree.Alike

end Trees

/-! ### Chains that search -/

theorem Fits.complete {deps : Dependencies} {text : String} (h : Fits deps text.toList) :
    Fits deps (SelectorText.complete text).toList := by
  unfold SelectorText.complete
  split
  · rw [String.toList_append]
    exact h.star
  · exact h

mutual

/-- The link searches the tree and its text, and asks for no styles. -/
def Link.searches : Link → Bool
  | .plain _ | .contains _ => true
  | .has argument => Chain.searches argument
  | .properties _ => false

/-- All links of the chain do so. -/
def Chain.searches : List Link → Bool
  | [] => true
  | link :: rest => link.searches && Chain.searches rest

end

mutual

theorem Link.searches_eq : (link : Link) → link.searches = !link.dependencies.style
  | .plain _ | .contains _ | .properties _ => rfl
  | .has argument => Chain.searches_eq argument

theorem Chain.searches_eq : (chain : Chain) →
    Chain.searches chain = !(Chain.dependencies chain).style
  | [] => rfl
  | link :: rest => by
    rw [Chain.searches, Link.searches_eq link, Chain.searches_eq rest, ← Bool.not_or]
    rfl

end

theorem Chain.searches_iff {chain : Chain} :
    Chain.searches chain = true ↔ (Chain.dependencies chain).style = false := by
  rw [Chain.searches_eq, Bool.not_eq_true']

/-- The chain starts with plain text. -/
def Chain.startsPlain : Chain → Bool
  | .plain _ :: _ => true
  | _ => false

mutual

/-- The argument of the link, if it has one, keeps plain texts apart. -/
def Link.apart : Link → Bool
  | .has argument => Chain.apart argument
  | _ => true

/-- No plain text follows at once upon another one. -/
def Chain.apart : List Link → Bool
  | [] => true
  | link :: rest =>
    link.apart && Chain.apart rest &&
      !(Chain.startsPlain [link] && Chain.startsPlain rest)

end

/-- Whatever matters for the first matters for the second; styles are left out. -/
structure Dependencies.Within (deps more : Dependencies) : Prop where
  text : deps.text = true → more.text = true
  attributes : deps.attributes = true → more.attributes = true
  siblings : deps.siblings = true → more.siblings = true

section Chains

variable {deps : Dependencies} {link : Link} {rest : Chain}

theorem within_link (h : (Chain.dependencies (link :: rest)).Within deps) :
    link.dependencies.Within deps :=
  ⟨fun ht => h.text (by simp [Chain.dependencies, Dependencies.union, ht]),
    fun ha => h.attributes (by simp [Chain.dependencies, Dependencies.union, ha]),
    fun hs => h.siblings (by simp [Chain.dependencies, Dependencies.union, hs])⟩

theorem within_rest (h : (Chain.dependencies (link :: rest)).Within deps) :
    (Chain.dependencies rest).Within deps :=
  ⟨fun ht => h.text (by simp [Chain.dependencies, Dependencies.union, ht]),
    fun ha => h.attributes (by simp [Chain.dependencies, Dependencies.union, ha]),
    fun hs => h.siblings (by simp [Chain.dependencies, Dependencies.union, hs])⟩

theorem within_argument {argument : Chain} (h : (Link.has argument).dependencies.Within deps) :
    (Chain.dependencies argument).Within deps :=
  ⟨fun ht => h.text (by simp [Link.dependencies, Dependencies.ofArgument, ht]),
    fun ha => h.attributes (by simp [Link.dependencies, Dependencies.ofArgument, ha]),
    fun hs => h.siblings (by simp [Link.dependencies, Dependencies.ofArgument, hs])⟩

theorem text_of_link (h : link.dependencies.text = true) :
    (Chain.dependencies (link :: rest)).text = true := by
  simp [Chain.dependencies, Dependencies.union, h]

theorem text_of_rest (h : (Chain.dependencies rest).text = true) :
    (Chain.dependencies (link :: rest)).text = true := by
  simp [Chain.dependencies, Dependencies.union, h]

theorem fits_of_within {text : String} (h : (Link.plain text).dependencies.Within deps) :
    Fits deps text.toList :=
  ⟨h.attributes, h.siblings⟩

end Chains

/-- The text can stand before the chain: plain text goes on with what asks for nothing. -/
structure Ready (deps : Dependencies) (chain : Chain) (before : String) : Prop where
  fits : Fits deps before.toList
  inert : chain.startsPlain = true → Inert before.toList

theorem Ready.of_inert {deps : Dependencies} {chain : Chain} {before : String}
    (h : Inert before.toList) : Ready deps chain before :=
  ⟨Fits.of_inert h, fun _ => h⟩

theorem Ready.nil {deps : Dependencies} {chain : Chain} : Ready deps chain "" :=
  .of_inert fun _ hc => absurd hc (by simp)

/-- A plain text behind what it may follow is ready for what follows it. -/
theorem Ready.plain {deps : Dependencies} {text : String} {rest : Chain} {before : String}
    (h : Ready deps (.plain text :: rest) before)
    (hwithin : (Chain.dependencies (.plain text :: rest)).Within deps)
    (hapart : Chain.apart (.plain text :: rest) = true) : Ready deps rest (before ++ text) := by
  refine ⟨?_, fun hstarts => ?_⟩
  · rw [String.toList_append]
    exact (h.inert rfl).fits (fits_of_within (within_link hwithin))
  · simp only [Chain.apart, hstarts, Bool.and_true, Bool.and_eq_true] at hapart
    simp [Chain.startsPlain] at hapart

/-! ### Pages -/

section Pages

variable {N S : Type} [DecidableEq N]

/-- The pages agree about what lies inside of a set, as far as the dependencies tell. -/
structure Page.Alike (deps : Dependencies) (W : N → Prop) (a b : Page N S) : Prop where
  query : ∀ scope text, W scope → Fits deps text.toList →
    b.queryAll scope text = a.queryAll scope text
  inside : ∀ scope text nodes, W scope → a.queryAll scope text = .ok nodes → ∀ n ∈ nodes, W n
  path : ∀ n, W n → b.path n = a.path n
  inert : ∀ n, W n → Inert (a.path n).toList
  contains : ∀ m n, W m → W n → b.contains m n = a.contains m n
  text : deps.text = true → ∀ n, W n → b.textContent n = a.textContent n

namespace Page.Alike

variable {deps : Dependencies} {W : N → Prop} {a b : Page N S}

theorem all (h : Alike deps W a b) {before : String} (hbefore : Fits deps before.toList) {scope : N}
    (hscope : W scope) :
    Candidates.all b before scope = Candidates.all a before scope ∧
      ∀ n ∈ Candidates.all a before scope, W n := by
  unfold Candidates.all
  rw [h.query scope _ hscope hbefore.complete]
  refine ⟨rfl, fun n hn => ?_⟩
  cases hquery : a.queryAll scope (SelectorText.complete before) with
  | error e => simp [hquery, Except.toOption] at hn
  | ok nodes =>
    simp only [hquery, Except.toOption, Option.getD_some] at hn
    exact h.inside scope _ nodes hscope hquery n hn

end Page.Alike

namespace Evaluation

variable {deps : Dependencies} {W : N → Prop} {a b : Page N S}

/-- A `contains` link resolves to paths of candidates. -/
theorem mem_resolvedBy_containsSteps {scene : Scene N S} {expression : Option Regex} {scope : N}
    {last : Option N} {candidates : List N} {step : String × N × Option N}
    (h : step ∈ resolvedBy (containsSteps scene expression scope last candidates)) :
    ∃ n ∈ candidates, step = (scene.page.path n, scope, some n) := by
  induction candidates generalizing last with
  | nil => simp [containsSteps] at h
  | cons n more ih =>
    have hmore : ∀ {last}, step ∈ resolvedBy (containsSteps scene expression scope last more) →
        ∃ m ∈ n :: more, step = (scene.page.path m, scope, some m) := fun h =>
      (ih h).imp fun m hm => ⟨List.mem_cons_of_mem _ hm.1, hm.2⟩
    simp only [containsSteps] at h
    split at h
    · exact hmore h
    · split at h
      · rw [resolvedBy_resolved] at h
        rcases List.mem_cons.mp h with rfl | h
        · exact ⟨n, List.mem_cons_self, rfl⟩
        · exact hmore h
      · exact hmore h

theorem apart_rest {link : Link} {rest : Chain} (h : Chain.apart (link :: rest) = true) :
    link.apart = true ∧ Chain.apart rest = true := by
  simp only [Chain.apart, Bool.and_eq_true] at h
  exact h.1

/-! ### Searches -/

/--
What is known of a chain and the text before it, from link to link of a search.  In the end
and on the way nothing is asked for beyond the dependencies.
-/
structure Course (deps : Dependencies) (others styles : List Style)
    (ready : Chain → String → Prop) : Prop where
  fits : ∀ {chain before}, ready chain before → Fits deps before.toList
  plain : ∀ {text rest before}, ready (.plain text :: rest) before → ready rest (before ++ text)
  argument : ∀ {argument rest before}, ready (.has argument :: rest) before → ready argument ""
  has : ∀ {argument rest before path}, ready (.has argument :: rest) before →
    Inert path.toList → ready rest path
  contains : ∀ {expression rest before path}, ready (.contains expression :: rest) before →
    Inert path.toList → ready rest path
  text : ∀ {expression rest before}, ready (.contains expression :: rest) before →
    deps.text = true
  /-- The styles matter only where they are the same. -/
  properties : ∀ {expression rest before}, ready (.properties expression :: rest) before →
    others = styles ∧ ∀ style ∈ styles, ∀ selector ∈ style.selectors, ∀ resolved,
      resolveProperty? before selector = some resolved → ready rest resolved

variable {others styles : List Style} {ready : Chain → String → Prop}

/-- Every step of a link leads on to a text that is ready for the links behind it. -/
theorem steps_ready (h : Page.Alike deps W a b) (hcourse : Course deps others styles ready)
    {link : Link} {rest : Chain} {before : String} {scope : N}
    (hready : ready (link :: rest) before) (hscope : W scope) :
    ∀ step ∈ resolvedBy (linkSteps ⟨a, styles, none⟩ link before scope),
      ready rest step.1 ∧ W step.2.1 := by
  intro step hstep
  have hcandidates := (h.all (hcourse.fits hready) hscope).2
  cases link with
  | plain text =>
    obtain rfl : step = (before ++ text, scope, none) := by
      simpa [linkSteps, resolvedBy, LinkStep.resolved?] using hstep
    exact ⟨hcourse.plain hready, hscope⟩
  | contains expression =>
    obtain ⟨n, hn, rfl⟩ := mem_resolvedBy_containsSteps hstep
    exact ⟨hcourse.contains hready (h.inert n (hcandidates n hn)), hscope⟩
  | has argument =>
    obtain ⟨n, hn, -, -, rfl⟩ := mem_resolvedBy_has.mp hstep
    exact ⟨hcourse.has hready (h.inert n (hcandidates n hn)), hcandidates n hn⟩
  | properties expression =>
    obtain ⟨style, hstyle, -, selector, hselector, resolved, hresolved, rfl⟩ :=
      mem_resolvedBy_properties.mp hstep
    exact ⟨(hcourse.properties hready).2 style hstyle selector hselector resolved hresolved, hscope⟩

/-- What is found asks for nothing beyond the dependencies. -/
theorem founds_ready (h : Page.Alike deps W a b) (hcourse : Course deps others styles ready)
    {chain : Chain} {before : String} {scope : N} (hready : ready chain before) (hscope : W scope) :
    ∀ found ∈ founds (items ⟨a, styles, none⟩ chain before scope), Fits deps found.1.toList := by
  induction chain generalizing before scope with
  | nil =>
    intro found hfound
    obtain rfl := List.mem_singleton.mp hfound
    exact hcourse.fits hready
  | cons link rest ih =>
    intro found hfound
    obtain ⟨step, hstep, inner, hinner, rfl⟩ := mem_founds_cons.mp hfound
    obtain ⟨hnext, hin⟩ := steps_ready h hcourse hready hscope step hstep
    exact ih hnext hin inner hinner

theorem trialSteps_congr {candidate : N} {items : List (Item N)}
    (hpath : b.path candidate = a.path candidate)
    (hquery : ∀ found ∈ founds items, b.queryFirst candidate found.1 =
      a.queryFirst candidate found.1) :
    trialSteps b candidate items = trialSteps a candidate items := by
  induction items with
  | nil => rfl
  | cons item more ih =>
    cases item with
    | pause =>
      simp only [trialSteps]
      rw [ih hquery]
    | found selector anchors =>
      rw [founds, List.filterMap_cons] at hquery
      obtain ⟨hfirst, hmore⟩ := List.forall_mem_cons.mp hquery
      simp only [trialSteps, hfirst, hpath, ih hmore]

/-- **Searches through pages that are alike** take the same steps and find the same. -/
theorem items_course (h : Page.Alike deps W a b) (hcourse : Course deps others styles ready) :
    (chain : Chain) → ∀ (before : String) (scope : N), ready chain before → W scope →
    items ⟨b, others, none⟩ chain before scope = items ⟨a, styles, none⟩ chain before scope
  | [], _, _, _, _ => rfl
  | link :: rest, before, scope, hready, hscope => by
    have hrest := items_course h hcourse rest
    obtain ⟨hall, hcandidates⟩ := h.all (hcourse.fits hready) hscope
    have hsteps : linkSteps ⟨b, others, none⟩ link before scope =
        linkSteps ⟨a, styles, none⟩ link before scope := by
      match link, hready with
      | .plain text, _ => rfl
      | .properties expression, hready =>
        obtain ⟨rfl, -⟩ := hcourse.properties hready
        rfl
      | .contains expression, hready =>
        simp only [linkSteps, hall]
        exact containsSteps_congr ⟨b, others, none⟩ ⟨a, styles, none⟩
          (fun n (_ : n ∈ Candidates.all a before scope) => rfl)
          (fun n hn => h.text (hcourse.text hready) n (hcandidates n hn))
          (fun n hn => h.path n (hcandidates n hn))
          (fun m hm n hn => h.contains m n (hcandidates m hm) (hcandidates n hn))
          expression scope none _ (by simp) fun _ hn => hn
      | .has argument, hready =>
        simp only [linkSteps, hall]
        refine List.flatMap_congr fun n hn => ?_
        have hn := hcandidates n hn
        have hargument := hcourse.argument hready
        have hitems := items_course h hcourse argument "" n hargument hn
        have hfit := founds_ready h hcourse hargument hn
        refine if_congr Iff.rfl rfl (congrArg (LinkStep.pause :: ·) ?_)
        rw [show (⟨b, others, none⟩ : Scene N S).unpruned = ⟨b, others, none⟩ from rfl, hitems]
        refine trialSteps_congr (h.path n hn) fun found hfound => ?_
        rw [Page.queryFirst, Page.queryFirst, h.query n _ hn (hfit found hfound)]
    -- Each step is refined to the same items.
    have hrefine : ∀ step ∈ linkSteps ⟨a, styles, none⟩ link before scope,
        refine (items ⟨b, others, none⟩ rest) step =
          refine (items ⟨a, styles, none⟩ rest) step := by
      intro step hstep
      cases step with
      | pause => rfl
      | resolved selector inner anchor =>
        have hmem : (selector, inner, anchor) ∈
            resolvedBy (linkSteps ⟨a, styles, none⟩ link before scope) :=
          List.mem_filterMap.mpr ⟨_, hstep, rfl⟩
        obtain ⟨hnext, hin⟩ := steps_ready h hcourse hready hscope _ hmem
        simp only [refine, hrest _ _ hnext hin]
    simp only [items, hsteps]
    rw [List.flatMap_congr hrefine]

/-! ### Courses of searches -/

/-- A chain that searches, with plain texts apart, and a text that may stand before it. -/
structure Searching (deps : Dependencies) (chain : Chain) (before : String) : Prop where
  searches : Chain.searches chain = true
  apart : Chain.apart chain = true
  within : (Chain.dependencies chain).Within deps
  ready : Ready deps chain before

theorem Searching.rest {link : Link} {rest : Chain} {before next : String}
    (h : Searching deps (link :: rest) before) (hnext : Ready deps rest next) :
    Searching deps rest next where
  searches := by
    have hsearches := h.searches
    simp only [Chain.searches, Bool.and_eq_true] at hsearches
    exact hsearches.2
  apart := (apart_rest h.apart).2
  within := within_rest h.within
  ready := hnext

/-- Whatever the styles are, such a search keeps to its dependencies. -/
theorem course_searching (deps : Dependencies) (others styles : List Style) :
    Course deps others styles (Searching deps) where
  fits h := h.ready.fits
  plain h := h.rest (h.ready.plain h.within h.apart)
  argument h :=
    { searches := by
        have hsearches := h.searches
        simp only [Chain.searches, Link.searches, Bool.and_eq_true] at hsearches
        exact hsearches.1
      apart := (apart_rest h.apart).1
      within := within_argument (within_link h.within)
      ready := .nil }
  has h hpath := h.rest (.of_inert hpath)
  contains h hpath := h.rest (.of_inert hpath)
  text h := (within_link h.within).text rfl
  properties h := absurd h.searches (by simp [Chain.searches, Link.searches])

/-- A chain that searches, where attributes matter anyway, so that texts may be joined at will. -/
structure Joining (deps : Dependencies) (chain : Chain) (before : String) : Prop where
  searches : Chain.searches chain = true
  within : (Chain.dependencies chain).Within deps
  fits : Fits deps before.toList

theorem Joining.rest {link : Link} {rest : Chain} {before next : String}
    (h : Joining deps (link :: rest) before) (hnext : Fits deps next.toList) :
    Joining deps rest next where
  searches := by
    have hsearches := h.searches
    simp only [Chain.searches, Bool.and_eq_true] at hsearches
    exact hsearches.2
  within := within_rest h.within
  fits := hnext

theorem course_joining (hattributes : deps.attributes = true) (others styles : List Style) :
    Course deps others styles (Joining deps) where
  fits h := h.fits
  plain h := h.rest <| by
    rw [String.toList_append]
    exact h.fits.append hattributes (fits_of_within (within_link h.within))
  argument h :=
    { searches := by
        have hsearches := h.searches
        simp only [Chain.searches, Link.searches, Bool.and_eq_true] at hsearches
        exact hsearches.1
      within := within_argument (within_link h.within)
      fits := Fits.nil }
  has h hpath := h.rest (Fits.of_inert hpath)
  contains h hpath := h.rest (Fits.of_inert hpath)
  text h := (within_link h.within).text rfl
  properties h := absurd h.searches (by simp [Chain.searches, Link.searches])

/-- A chain of any kind may ask for anything, if attributes and siblings matter anyway. -/
theorem course_asking (hattributes : deps.attributes = true) (hsiblings : deps.siblings = true)
    (styles : List Style) :
    Course deps styles styles fun chain _ =>
      (Chain.dependencies chain).text = true → deps.text = true where
  fits _ := ⟨fun _ => hattributes, fun _ => hsiblings⟩
  plain h htext := h (text_of_rest htext)
  argument h htext := h (text_of_link htext)
  has h _ htext := h (text_of_rest htext)
  contains h _ htext := h (text_of_rest htext)
  text h := h (text_of_link rfl)
  properties h := ⟨rfl, fun _ _ _ _ _ _ htext => h (text_of_rest htext)⟩

/-- What is found asks for nothing beyond the dependencies. -/
theorem founds_fit (h : Page.Alike deps W a b) (styles : List Style) {chain : Chain}
    (hsearches : Chain.searches chain = true) (hapart : Chain.apart chain = true)
    (hwithin : (Chain.dependencies chain).Within deps) {before : String} {scope : N}
    (hready : Ready deps chain before) (hscope : W scope) :
    ∀ found ∈ founds (items ⟨a, styles, none⟩ chain before scope), Fits deps found.1.toList :=
  founds_ready h (course_searching deps styles styles) ⟨hsearches, hapart, hwithin, hready⟩ hscope

/-- So searches take the same steps whatever the styles are. -/
theorem items_alike (h : Page.Alike deps W a b) (others styles : List Style) (chain : Chain)
    (hsearches : Chain.searches chain = true) (hapart : Chain.apart chain = true)
    (hwithin : (Chain.dependencies chain).Within deps) (before : String) (scope : N)
    (hready : Ready deps chain before) (hscope : W scope) :
    items ⟨b, others, none⟩ chain before scope = items ⟨a, styles, none⟩ chain before scope :=
  items_course h (course_searching deps others styles) chain before scope
    ⟨hsearches, hapart, hwithin, hready⟩ hscope

end Evaluation

end Pages

end CosmeticFilter
