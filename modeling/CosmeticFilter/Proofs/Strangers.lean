/-
A run hides candidates, and no strangers.

A chain that ends in `has` or `contains` resolves to paths.  A path is made for the
candidate that was judged last, and it is resolved within the same pull.  So it does not
matter what is changed between two pulls, as long as the candidate itself is still
connected: then its path leads to no other element, and the element that is hidden is a
candidate that was looked at, and an anchor of its match.

It does matter if the candidate is detached while its argument is being evaluated.  The
element still has what is found below it, but its path is that of a root.

What an evaluation remembers is described by `Judges`: the candidates in its queues are
elements, and its anchors are elements that were looked at.  A change of the document
keeps both, for a detached element stays an element.

`Course` lists what may happen to a run from its start.  All runs of an engine take such a
course, since each of its moves is a step of it or leaves the run alone.
-/
import Mathlib
import CosmeticFilter.Proofs.Incremental
import CosmeticFilter.Proofs.Slices

namespace CosmeticFilter

/-! ### Chains that end with a judgement -/

/-- The last link judges elements one by one. -/
def Chain.endsJudging (chain : Chain) : Bool :=
  chain.getLast?.any Link.judgesElements

theorem Chain.endsJudging_cons {link : Link} {rest : Chain}
    (h : Chain.endsJudging (link :: rest) = true) :
    rest = [] ∧ link.judgesElements = true ∨ Chain.endsJudging rest = true := by
  cases rest with
  | nil => exact Or.inl ⟨rfl, by simpa [endsJudging] using h⟩
  | cons next more => exact Or.inr (by simpa [endsJudging] using h)

theorem Chain.ne_nil_of_endsJudging {chain : Chain} (h : chain.endsJudging = true) :
    chain ≠ [] := by
  rintro rfl
  simp [endsJudging] at h

section Evaluations

variable {N S : Type} {page : Page N S} {element seen : N → Prop}

/-! ### What an evaluation remembers -/

/-- The candidates that wait are elements. -/
def Candidates.Queued (element : N → Prop) (candidates : Candidates N) : Prop :=
  ∀ queue, candidates.queue = some queue → ∀ n ∈ queue, element n

/-- The chain ends with a judgement, here or later, and what was judged before was seen. -/
structure Position.Judges (seen : N → Prop) (pos : Position N) : Prop where
  rest : pos.rest = [] ∨ Chain.endsJudging pos.rest = true
  anchors : ∀ a ∈ pos.anchors, seen a

/-- The evaluation of a chain that ends with a judgement. -/
def Evaluation.Judges (element seen : N → Prop) : Evaluation N → Prop
  | .finished => True
  | .single _ => False
  | .plain pos _ _ below | .properties pos _ _ below =>
    pos.rest ≠ [] ∧ pos.Judges seen ∧ below.Judges element seen
  | .contains pos _ candidates _ _ below | .has pos _ candidates below =>
    pos.Judges seen ∧ candidates.Queued element ∧ below.Judges element seen
  | .trying pos _ candidates candidate _ below =>
    pos.Judges seen ∧ candidates.Queued element ∧ seen candidate ∧ below.Judges element seen

theorem Position.Judges.mono {pos : Position N} (h : pos.Judges seen) {more : N → Prop}
    (hseen : ∀ n, seen n → more n) : pos.Judges more :=
  ⟨h.rest, fun a ha => hseen a (h.anchors a ha)⟩

theorem Candidates.Queued.mono {candidates : Candidates N} (h : candidates.Queued element)
    {wide : N → Prop} (helement : ∀ n, element n → wide n) : candidates.Queued wide :=
  fun queue hqueue n hn => helement n (h queue hqueue n hn)

theorem Evaluation.Judges.mono {wide more : N → Prop} (helement : ∀ n, element n → wide n)
    (hseen : ∀ n, seen n → more n) {e : Evaluation N} (h : e.Judges element seen) :
    e.Judges wide more := by
  induction e with
  | finished => trivial
  | single => exact h
  | plain pos pending scope below ih | properties pos search scope below ih =>
    obtain ⟨hrest, hpos, hbelow⟩ := h
    exact ⟨hrest, hpos.mono hseen, ih hbelow⟩
  | contains pos expression candidates scope last below ih =>
    obtain ⟨hpos, hqueued, hbelow⟩ := h
    exact ⟨hpos.mono hseen, hqueued.mono helement, ih hbelow⟩
  | has pos argument candidates below ih =>
    obtain ⟨hpos, hqueued, hbelow⟩ := h
    exact ⟨hpos.mono hseen, hqueued.mono helement, ih hbelow⟩
  | trying pos argument candidates candidate inner below _ ih =>
    obtain ⟨hpos, hqueued, hcandidate, hbelow⟩ := h
    exact ⟨hpos.mono hseen, hqueued.mono helement, hseen candidate hcandidate, ih hbelow⟩

/-- A query gives elements. -/
def Page.Gives (page : Page N S) (element : N → Prop) : Prop :=
  ∀ scope selector nodes, page.queryAll scope selector = .ok nodes → ∀ n ∈ nodes, element n

theorem Candidates.Queued.fetch (hgives : page.Gives element) {candidates : Candidates N}
    (h : candidates.Queued element) : ∀ n ∈ (candidates.fetch page).1, element n := by
  unfold Candidates.fetch
  split
  · rename_i queue hqueue
    exact h queue hqueue
  · split
    · rename_i queue hquery
      exact hgives _ _ _ hquery
    · simp

theorem Candidates.queued_remaining {candidates : Candidates N} {more : List N}
    (h : ∀ n ∈ more, element n) : (candidates.remaining more).Queued element := by
  rintro queue hqueue
  obtain rfl := Option.some.inj hqueue
  exact h

theorem Candidates.queued_ofText (text : String) (scope : N) :
    (Candidates.ofText text scope).Queued element := by
  intro queue hqueue
  simp [Candidates.ofText] at hqueue

/-- What was seen before, and the elements that the reports tell of. -/
def seenWith (element seen : N → Prop) (reports : List (Report N)) (n : N) : Prop :=
  seen n ∨ (element n ∧ .examined n ∈ reports)

variable [DecidableEq N]

/-- A pull gives nothing but the path of the candidate that it ends with, among its anchors. -/
structure Pulled.Judges (page : Page N S) (element seen : N → Prop) (pulled : Pulled N) :
    Prop where
  next : pulled.next.Judges element (seenWith element seen pulled.reports)
  anchors : ∀ selector anchors, pulled.item = some (.found selector anchors) →
    ∀ a ∈ anchors, seenWith element seen pulled.reports a
  path : ∀ selector anchors, pulled.item = some (.found selector anchors) →
    ∃ c ∈ anchors, selector = page.path c

theorem Pulled.Judges.pause {next : Evaluation N} (h : next.Judges element seen) :
    (Pulled.pause next).Judges page element seen where
  next := h.mono (fun _ hn => hn) (fun _ hn => Or.inl hn)
  anchors selector anchors hitem := by simp [Pulled.pause] at hitem
  path selector anchors hitem := by simp [Pulled.pause] at hitem

theorem Pulled.Judges.after {pulled : Pulled N} {reports : List (Report N)}
    (h : pulled.Judges page element (seenWith element seen reports)) :
    (Pulled.after reports pulled).Judges page element seen := by
  have hseen : ∀ n, seenWith element (seenWith element seen reports) pulled.reports n →
      seenWith element seen (reports ++ pulled.reports) n := by
    rintro n ((hn | ⟨hn, hreport⟩) | ⟨hn, hreport⟩)
    · exact Or.inl hn
    · exact Or.inr ⟨hn, List.mem_append_left _ hreport⟩
    · exact Or.inr ⟨hn, List.mem_append_right _ hreport⟩
  exact ⟨h.next.mono (fun _ hn => hn) hseen,
    fun selector anchors hitem a ha => hseen a (h.anchors selector anchors hitem a ha), h.path⟩

/-! ### One pull -/

/-- To go on with a selector is to judge; where nothing follows it has to be a path. -/
def Judging (page : Page N S) (element : N → Prop) (rest : Chain) (descend : Evaluation.Descent N) :
    Prop :=
  ∀ (seen : N → Prop) selector scope anchors below, (∀ a ∈ anchors, seen a) →
    (rest = [] → ∃ c ∈ anchors, selector = page.path c) → below.Judges element seen →
    (descend selector scope anchors below).Judges page element seen

namespace Evaluation

variable {scene : Scene N S} {pos : Position N} {descent : Descent N} {below : Evaluation N}

theorem judges_plain (hdescent : Judging scene.page element pos.rest descent)
    (hrest : pos.rest ≠ []) (hpos : pos.Judges seen) (hbelow : below.Judges element seen)
    (pending : Option String) (scope : N) :
    (pullPlain descent pos pending scope below).Judges scene.page element seen := by
  unfold pullPlain
  split
  · exact .pause hbelow
  · exact hdescent seen _ scope pos.anchors _ hpos.anchors (fun hnil => absurd hnil hrest)
      ⟨hrest, hpos, hbelow⟩

theorem judges_properties (hdescent : Judging scene.page element pos.rest descent)
    (hrest : pos.rest ≠ []) (hpos : pos.Judges seen) (hbelow : below.Judges element seen)
    (search : StyleSearch) (scope : N) :
    (pullProperties descent pos search scope below).Judges scene.page element seen := by
  unfold pullProperties
  split
  · exact .pause hbelow
  · exact hdescent seen _ scope pos.anchors _ hpos.anchors (fun hnil => absurd hnil hrest)
      ⟨hrest, hpos, hbelow⟩

theorem judges_contains (hgives : scene.page.Gives element)
    (hdescent : Judging scene.page element pos.rest descent) (hpos : pos.Judges seen)
    {candidates : Candidates N} (hqueued : candidates.Queued element)
    (hbelow : below.Judges element seen) (expression : Option Regex) (scope : N)
    (last : Option N) :
    (pullContains scene descent pos expression candidates scope last below).Judges scene.page
      element seen := by
  have hfetch := hqueued.fetch hgives
  unfold pullContains
  simp only
  refine .after ?_
  generalize (candidates.fetch scene.page).2 = failures
  have hold : ∀ n, seen n → seenWith element seen failures n := fun n hn => Or.inl hn
  have hpos := hpos.mono hold
  have hbelow := hbelow.mono (fun _ hn => hn) hold
  split
  · exact .pause hbelow
  · rename_i candidate more hqueue
    rw [hqueue] at hfetch
    obtain ⟨hcandidate, hmore⟩ := List.forall_mem_cons.mp hfetch
    have hleft : (candidates.remaining more).Queued element := Candidates.queued_remaining hmore
    split
    · exact .pause ⟨hpos, hleft, hbelow⟩
    · -- The candidate has been looked at from here on.
      refine .after ?_
      have hnow : ∀ n, seenWith element seen failures n →
          seenWith element (seenWith element seen failures) [.examined candidate] n :=
        fun n hn => Or.inl hn
      have hpos := hpos.mono hnow
      have hbelow := hbelow.mono (fun _ hn => hn) hnow
      split
      · refine hdescent _ _ scope _ _ ?_ (fun _ => ?_) ⟨hpos, hleft, hbelow⟩
        · intro a ha
          rcases List.mem_append.mp ha with ha | ha
          · exact hpos.anchors a ha
          · obtain rfl := List.mem_singleton.mp ha
            exact Or.inr ⟨hcandidate, List.mem_singleton.mpr rfl⟩
        · exact ⟨candidate, List.mem_append_right _ (List.mem_singleton.mpr rfl), rfl⟩
      · exact .pause ⟨hpos, hleft, hbelow⟩

theorem judges_has (hgives : scene.page.Gives element) (hpos : pos.Judges seen)
    {candidates : Candidates N} (hqueued : candidates.Queued element)
    (hbelow : below.Judges element seen) (argument : Chain) :
    (pullHas scene pos argument candidates below).Judges scene.page element seen := by
  have hfetch := hqueued.fetch hgives
  unfold pullHas
  simp only
  refine .after ?_
  generalize (candidates.fetch scene.page).2 = failures
  have hold : ∀ n, seen n → seenWith element seen failures n := fun n hn => Or.inl hn
  have hpos := hpos.mono hold
  have hbelow := hbelow.mono (fun _ hn => hn) hold
  split
  · exact .pause hbelow
  · rename_i candidate more hqueue
    rw [hqueue] at hfetch
    obtain ⟨hcandidate, hmore⟩ := List.forall_mem_cons.mp hfetch
    have hleft : (candidates.remaining more).Queued element := Candidates.queued_remaining hmore
    split
    · exact .pause ⟨hpos, hleft, hbelow⟩
    · refine .after (.pause ?_)
      have hnow : ∀ n, seenWith element seen failures n →
          seenWith element (seenWith element seen failures) [.examined candidate] n :=
        fun n hn => Or.inl hn
      exact ⟨hpos.mono hnow, hleft, Or.inr ⟨hcandidate, List.mem_singleton.mpr rfl⟩,
        hbelow.mono (fun _ hn => hn) hnow⟩

theorem judges_trying (hdescent : Judging scene.page element pos.rest descent)
    (hpos : pos.Judges seen) {candidates : Candidates N} (hqueued : candidates.Queued element)
    {candidate : N} (hcandidate : seen candidate) (hbelow : below.Judges element seen)
    (argument : Chain) (inner : Pulled N) :
    (pullTrying scene descent pos argument candidates candidate inner below).Judges scene.page
      element seen := by
  unfold pullTrying
  refine .after ?_
  generalize inner.reports = reports
  have hold : ∀ n, seen n → seenWith element seen reports n := fun n hn => Or.inl hn
  have hpos := hpos.mono hold
  have hbelow := hbelow.mono (fun _ hn => hn) hold
  have hcandidate := hold candidate hcandidate
  have hgoing : (Evaluation.trying pos argument candidates candidate inner.next below).Judges
      element (seenWith element seen reports) := ⟨hpos, hqueued, hcandidate, hbelow⟩
  split
  · exact .pause ⟨hpos, hqueued, hbelow⟩
  · exact .pause hgoing
  · split
    · refine hdescent _ _ candidate _ _ ?_ (fun _ => ?_) ⟨hpos, hqueued, hbelow⟩
      · intro a ha
        rcases List.mem_append.mp ha with ha | ha
        · exact hpos.anchors a ha
        · rw [List.mem_singleton.mp ha]
          exact hcandidate
      · exact ⟨candidate, List.mem_append_right _ (List.mem_singleton.mpr rfl), rfl⟩
    · exact .pause hgoing
    · exact .after (.pause (hgoing.mono (fun _ hn => hn) fun _ hn => Or.inl hn))

/-- The descent through the links of a chain judges, if they end with a judgement. -/
theorem judging_descend (scene : Scene N S) (hgives : scene.page.Gives element) (rest : Chain)
    (hrest : rest = [] ∨ Chain.endsJudging rest = true) :
    Judging scene.page element rest (descend scene rest) := by
  induction rest with
  | nil =>
    intro seen selector scope anchors below hanchors hpath hbelow
    refine ⟨hbelow.mono (fun _ hn => hn) (fun _ hn => Or.inl hn), ?_, ?_⟩
    · intro other more hitem a ha
      obtain ⟨rfl, rfl⟩ := Item.found.inj (Option.some.inj hitem)
      exact Or.inl (hanchors a ha)
    · intro other more hitem
      obtain ⟨rfl, rfl⟩ := Item.found.inj (Option.some.inj hitem)
      exact hpath rfl
  | cons link rest ih =>
    intro seen selector scope anchors below hanchors _ hbelow
    have hends := Chain.endsJudging_cons (hrest.resolve_left (List.cons_ne_nil link rest))
    have hlater := hends.imp_left And.left
    have hpos : (⟨rest, anchors⟩ : Position N).Judges seen := ⟨hlater, hanchors⟩
    cases link with
    | plain text =>
      have hmore := Chain.ne_nil_of_endsJudging (hends.resolve_left (by simp [Link.judgesElements]))
      exact judges_plain (ih hlater) hmore hpos hbelow (some (selector ++ text)) scope
    | properties expression =>
      have hmore := Chain.ne_nil_of_endsJudging (hends.resolve_left (by simp [Link.judgesElements]))
      exact judges_properties (ih hlater) hmore hpos hbelow _ scope
    | contains expression =>
      exact judges_contains hgives (ih hlater) hpos (Candidates.queued_ofText _ _) hbelow
        expression scope none
    | has argument =>
      exact judges_has hgives hpos (Candidates.queued_ofText _ _) hbelow argument

/-- **A pull keeps judging**, whatever the document was like before. -/
theorem Judges.pull {e : Evaluation N} (h : e.Judges element seen) (scene : Scene N S)
    (hgives : scene.page.Gives element) : (e.pull scene).Judges scene.page element seen := by
  cases e with
  | finished =>
    exact ⟨trivial, fun _ _ hitem => by simp [Evaluation.pull] at hitem,
      fun _ _ hitem => by simp [Evaluation.pull] at hitem⟩
  | single => exact h.elim
  | plain pos pending scope below =>
    obtain ⟨hrest, hpos, hbelow⟩ := h
    exact judges_plain (judging_descend scene hgives _ hpos.rest) hrest hpos hbelow _ _
  | properties pos search scope below =>
    obtain ⟨hrest, hpos, hbelow⟩ := h
    exact judges_properties (judging_descend scene hgives _ hpos.rest) hrest hpos hbelow _ _
  | contains pos expression candidates scope last below =>
    obtain ⟨hpos, hqueued, hbelow⟩ := h
    exact judges_contains hgives (judging_descend scene hgives _ hpos.rest) hpos hqueued hbelow
      _ _ _
  | has pos argument candidates below =>
    obtain ⟨hpos, hqueued, hbelow⟩ := h
    exact judges_has hgives hpos hqueued hbelow _
  | trying pos argument candidates candidate inner below =>
    obtain ⟨hpos, hqueued, hcandidate, hbelow⟩ := h
    exact judges_trying (judging_descend scene hgives _ hpos.rest) hpos hqueued hcandidate hbelow
      _ _

omit [DecidableEq N] in
/-- A chain that ends with a judgement starts to be evaluated. -/
theorem judges_start (styles : List Style) {chain : Chain} (h : chain.endsJudging = true)
    (before : String) (scope : N) : (start styles chain before scope).Judges element seen := by
  cases chain with
  | nil => exact absurd rfl (Chain.ne_nil_of_endsJudging h)
  | cons link rest =>
    have hends := Chain.endsJudging_cons h
    have hpos : (⟨rest, []⟩ : Position N).Judges seen := ⟨hends.imp_left And.left, by simp⟩
    cases link with
    | plain text =>
      have hmore := Chain.ne_nil_of_endsJudging (hends.resolve_left (by simp [Link.judgesElements]))
      exact ⟨hmore, hpos, trivial⟩
    | properties expression =>
      have hmore := Chain.ne_nil_of_endsJudging (hends.resolve_left (by simp [Link.judgesElements]))
      exact ⟨hmore, hpos, trivial⟩
    | contains expression => exact ⟨hpos, Candidates.queued_ofText _ _, trivial⟩
    | has argument => exact ⟨hpos, Candidates.queued_ofText _ _, trivial⟩

end Evaluation

/-! ### What was matched -/

/-- The anchors of the match were seen; if all are connected, the element is one of them. -/
structure Match.Own (seen connected : N → Prop) (n : N) (m : Match N) : Prop where
  seen : ∀ a ∈ m.anchors, seen a
  anchored : (∀ a ∈ m.anchors, connected a) → n ∈ m.anchors

/-- All matches are of these patterns; where a chain ends with a judgement they are own ones. -/
structure MatchTable.Owned (patterns : List Pattern) (seen connected : N → Prop)
    (table : MatchTable N) : Prop where
  tidy : table.Tidy
  pattern : ∀ n pattern m, table.match? n pattern = some m → m.pattern ∈ patterns
  own : ∀ n pattern m, table.match? n pattern = some m → m.pattern.chain.endsJudging = true →
    m.Own seen connected n

namespace MatchTable

variable {patterns : List Pattern} {connected : N → Prop} {table : MatchTable N}

theorem Owned.nil : Owned patterns seen connected ([] : MatchTable N) where
  tidy := .nil
  pattern n pattern m hm := by simp [match?, matches?] at hm
  own n pattern m hm := by simp [match?, matches?] at hm

theorem Owned.mono (h : table.Owned patterns seen connected) {more later : N → Prop}
    (hseen : ∀ n, seen n → more n) (hconnected : ∀ n, seen n → later n → connected n) :
    table.Owned patterns more later where
  tidy := h.tidy
  pattern := h.pattern
  own n pattern m hm hends := by
    have hown := h.own n pattern m hm hends
    refine ⟨fun a ha => hseen a (hown.seen a ha), fun hall => hown.anchored fun a ha => ?_⟩
    exact hconnected a (hown.seen a ha) (hall a ha)

/-- One more hit of one of the patterns, which tells them apart by their numbers. -/
theorem Owned.enter (h : table.Owned patterns seen connected)
    (hdistinct : (patterns.map Pattern.serial).Nodup) {hit : Hit N}
    (hpattern : hit.pattern ∈ patterns) (hown : hit.pattern.chain.endsJudging = true →
      Match.Own seen connected hit.node ⟨hit.pattern, hit.anchors⟩) :
    (hit.enter table).Owned patterns seen connected := by
  have hcases : ∀ n pattern m, (hit.enter table).match? n pattern = some m →
      table.match? n pattern = some m ∨ n = hit.node ∧
        ((∃ known, table.match? hit.node hit.pattern = some known ∧
          m = known.addAnchors hit.anchors) ∨ m = ⟨hit.pattern, hit.anchors⟩) := by
    intro n pattern m hm
    rw [Hit.enter, match?_update_enter] at hm
    split at hm
    · rename_i hhere
      refine Or.inr ⟨hhere.1, ?_⟩
      rw [← Option.some.inj hm]
      cases table.match? hit.node hit.pattern with
      | none => exact Or.inr rfl
      | some known => exact Or.inl ⟨known, rfl, rfl⟩
    · exact Or.inl hm
  refine ⟨h.tidy.update_enter _ _ _, ?_, ?_⟩
  · intro n pattern m hm
    rcases hcases n pattern m hm with hm | ⟨-, ⟨known, hknown, rfl⟩ | rfl⟩
    · exact h.pattern n pattern m hm
    · exact h.pattern _ _ known hknown
    · exact hpattern
  · intro n pattern m hm hends
    rcases hcases n pattern m hm with hm | ⟨rfl, ⟨known, hknown, rfl⟩ | rfl⟩
    · exact h.own n pattern m hm hends
    · have hsame : known.pattern = hit.pattern := List.inj_on_of_nodup_map hdistinct
        (h.pattern _ _ known hknown) hpattern (match?_serial hknown)
      have hold := h.own _ _ known hknown hends
      have hnew := hown (hsame ▸ hends)
      refine ⟨fun a ha => ?_, fun hall => mem_addNew.mpr (Or.inr (hnew.anchored fun a ha => ?_))⟩
      · rcases mem_addNew.mp ha with ha | ha
        · exact hold.seen a ha
        · exact hnew.seen a ha
      · exact hall a (mem_addNew.mpr (Or.inr ha))
    · exact hown hends

theorem Owned.enterAll (hdistinct : (patterns.map Pattern.serial).Nodup) (hits : List (Hit N))
    (hhits : ∀ hit ∈ hits, hit.pattern ∈ patterns ∧ (hit.pattern.chain.endsJudging = true →
      Match.Own seen connected hit.node ⟨hit.pattern, hit.anchors⟩))
    (h : table.Owned patterns seen connected) :
    (hits.foldl Hit.enter table).Owned patterns seen connected := by
  induction hits generalizing table with
  | nil => exact h
  | cons hit more ih =>
    obtain ⟨⟨hpattern, hown⟩, hmore⟩ := List.forall_mem_cons.mp hhits
    exact ih hmore (h.enter hdistinct hpattern hown)

end MatchTable

omit [DecidableEq N] in
theorem Hit.of_mem_ofItem {config : Config} {pattern : Pattern} {item : Item N} {hit : Hit N}
    (h : hit ∈ Hit.ofItem config page pattern item) :
    hit.pattern = pattern ∧ ∃ selector nodes, item = .found selector hit.anchors ∧
      page.queryAll page.document selector = .ok nodes ∧ hit.node ∈ nodes := by
  cases item with
  | pause => simp [ofItem] at h
  | found selector anchors =>
    simp only [ofItem] at h
    split at h
    · simp at h
    · obtain ⟨n, hn, rfl⟩ := List.mem_map.mp h
      cases hquery : page.queryAll page.document selector with
      | error e => simp [hquery, Except.toOption] at hn
      | ok nodes => exact ⟨rfl, selector, nodes, rfl, hquery, by
          simpa [hquery, Except.toOption] using hn⟩

end Evaluations

/-! ### A run on a document that changes -/

/-- An element that was looked at, as far as it is kept which ones were. -/
def Findings.Saw (doc : Document) (config : Config) (findings : Findings Nat) (n : Nat) : Prop :=
  doc.isElement n = true ∧ (config.testMode = true → n ∈ findings.processed)

namespace Run

variable {doc : Document} {config : Config} {patterns : List Pattern}

/-- What was matched are own matches, and more of them are under way. -/
def owning (patterns : List Pattern) (config : Config) (doc : Document) : Invariant Nat where
  candidate candidate := candidate.pattern ∈ patterns
  findings findings :=
    findings.matched.Owned patterns (findings.Saw doc config) (doc.isConnected · = true)
  evaluation candidate evaluation findings := candidate.pattern.chain.endsJudging = true →
    evaluation.Judges (doc.isElement · = true) (findings.Saw doc config)

theorem saw_entering (page : Page Nat Nat) (pattern : Pattern) (findings : Findings Nat)
    (pulled : Pulled Nat) (n : Nat)
    (h : seenWith (doc.isElement · = true) (findings.Saw doc config) pulled.reports n) :
    (findings.entering config page pattern pulled).Saw doc config n := by
  rcases h with ⟨helement, hprocessed⟩ | ⟨helement, hreport⟩
  · refine ⟨helement, fun htest => ?_⟩
    rw [Findings.entering_processed, if_pos htest, mem_addNew]
    exact Or.inl (hprocessed htest)
  · refine ⟨helement, fun htest => ?_⟩
    rw [Findings.entering_processed, if_pos htest, mem_addNew]
    exact Or.inr (List.mem_filterMap.mpr ⟨_, hreport, rfl⟩)

/-- **A pull on a well-formed document** gives own matches. -/
theorem owned_entering (hdistinct : (patterns.map Pattern.serial).Nodup)
    (hformed : doc.WellFormed) {pattern : Pattern} (hpattern : pattern ∈ patterns)
    {findings : Findings Nat}
    (hfindings : findings.matched.Owned patterns (findings.Saw doc config)
      (doc.isConnected · = true)) {pulled : Pulled Nat}
    (hjudges : pattern.chain.endsJudging = true →
      pulled.Judges doc.page (doc.isElement · = true) (findings.Saw doc config)) :
    (findings.entering config doc.page pattern pulled).matched.Owned patterns
      ((findings.entering config doc.page pattern pulled).Saw doc config)
      (doc.isConnected · = true) := by
  have hsaw : ∀ n, seenWith (doc.isElement · = true) (findings.Saw doc config) pulled.reports n →
      (findings.entering config doc.page pattern pulled).Saw doc config n :=
    saw_entering doc.page pattern findings pulled
  generalize hentered : findings.entering config doc.page pattern pulled = entered at hsaw
  have hold := hfindings.mono (fun n hn => hsaw n (Or.inl hn)) fun n _ hn => hn
  rw [← hentered, Findings.entering_matched, hentered]
  cases hitem : pulled.item with
  | none => exact hold
  | some item =>
    simp only [Option.toList_some, List.foldl_cons, List.foldl_nil, Findings.matchItem_eq]
    refine hold.enterAll hdistinct _ fun hit hhit => ?_
    obtain ⟨rfl, selector, nodes, rfl, hquery, hn⟩ := Hit.of_mem_ofItem hhit
    refine ⟨hpattern, fun hends => ?_⟩
    have hanchors := (hjudges hends).anchors selector hit.anchors hitem
    refine ⟨fun a ha => hsaw a (hanchors a ha), fun hall => ?_⟩
    obtain ⟨c, hc, rfl⟩ := (hjudges hends).path selector hit.anchors hitem
    have helement := (hsaw c (hanchors c hc)).1
    obtain rfl := hformed.eq_of_mem_path helement (hall c hc) hquery hn
    exact hc

/-- Whatever a slice on a well-formed document does, matches are own ones. -/
theorem owning_kept (hdistinct : (patterns.map Pattern.serial).Nodup) (hformed : doc.WellFormed)
    (styles : List Style) (start : Span) :
    (owning patterns config doc).Kept (⟨doc.page, config, styles, start⟩ : Slice Nat Nat) := by
  have hgives : doc.page.Gives (doc.isElement · = true) :=
    fun scope selector nodes hquery n hn => (Document.isElement_of_mem_queryAll hquery hn).1
  refine ⟨fun _ _ hends => Evaluation.judges_start styles hends "" _, ?_⟩
  intro candidate evaluation findings hcandidate hfindings hevaluation
  have hjudges := fun hends =>
    (hevaluation hends).pull ⟨doc.page, styles, candidate.targets⟩ hgives
  refine ⟨owned_entering hdistinct hformed hcandidate hfindings hjudges, fun hends => ?_⟩
  exact (hjudges hends).next.mono (fun _ hn => hn)
    (saw_entering doc.page candidate.pattern findings _)

/--
The course of a run: it starts for a request, the document is changed, and the run goes on
for slices of any length as long as the document is well-formed.
-/
inductive Course (config : Config) (patterns : List Pattern) : Document → Run Nat → Prop
  | start (doc : Document) (request : Request Nat Nat) :
      Course config patterns doc (.ofRequest doc.page patterns request)
  | changed {doc : Document} {run : Run Nat} (h : Course config patterns doc run)
      (change : Change) : Course config patterns (doc.change change) run
  | sliced {doc : Document} {run : Run Nat} (h : Course config patterns doc run)
      (hformed : doc.WellFormed) {κ : Type} [Clock κ] (clock : κ) :
      Course config patterns doc (run.slice doc.page config clock).2.1

/-- What was found before a change is as good after it. -/
theorem owning_changed {run : Run Nat} (h : (owning patterns config doc).Holds run)
    (change : Change) : (owning patterns config (doc.change change)).Holds run := by
  have hkeeps := doc.keeps_change change
  have hsaw : ∀ n, run.findings.Saw doc config n →
      run.findings.Saw (doc.change change) config n :=
    fun n hn => ⟨hkeeps.isElement n hn.1, hn.2⟩
  refine ⟨h.waiting, ?_, ?_⟩
  · intro candidate evaluation hcurrent
    obtain ⟨hcandidate, hevaluation⟩ := h.current candidate evaluation hcurrent
    exact ⟨hcandidate, fun hends => (hevaluation hends).mono hkeeps.isElement hsaw⟩
  · exact h.findings.mono hsaw fun n hn hconnected => hkeeps.connected hn.1 hconnected

theorem Course.owning (hdistinct : (patterns.map Pattern.serial).Nodup) {run : Run Nat}
    (h : Course config patterns doc run) : (owning patterns config doc).Holds run := by
  induction h with
  | start doc request =>
    exact ⟨fun candidate hcandidate => Engine.pattern_mem_of_candidate hcandidate,
      fun candidate evaluation hcurrent => by simp [ofRequest, ofClassification] at hcurrent, .nil⟩
  | changed _ change ih => exact owning_changed ih change
  | @sliced doc run _ hformed _ _ clock ih =>
    exact ih.slice doc.page config clock fun start =>
      owning_kept hdistinct hformed run.styles start

/--
**A run hides candidates.**  Whatever is changed between its slices, every element that a
run passes on to be hidden has a match.  If a match is due to a pattern that ends with `has` or
`contains`, and none of its anchors has left the document, then the element is one of
its anchors, and one of the candidates that the run has looked at.
-/
theorem hides_candidates {κ : Type} [Clock κ] (engine : Engine Nat Nat κ) (serial : Nat)
    (sources : List PatternSource) {run : Run Nat}
    (hcourse : Course engine.config (Engine.registration serial sources).1 doc run) :
    let outcome := engine.finishRun doc.page run
    ∀ nodes texts, .hide nodes texts ∈ outcome.effects → ∀ n ∈ nodes,
      (∃ pattern m, run.findings.matched.match? n pattern = some m) ∧
      ∀ pattern m, run.findings.matched.match? n pattern = some m →
        m.pattern.chain.endsJudging = true → (∀ a ∈ m.anchors, doc.isConnected a = true) →
        n ∈ m.anchors ∧ (engine.config.testMode = true → n ∈ outcome.engine.lastProcessed) := by
  have howned := (hcourse.owning
    (Engine.registration_registered serial sources).distinct).findings
  intro outcome nodes texts hhide n hn
  have hnodes : n ∈ run.findings.matched.nodes := by
    rw [← MatchTable.firstTexts_nodes howned.tidy.filled]
    have heffects : .hide nodes texts ∈ run.effects doc.page engine.hidden := hhide
    simp only [effects, List.mem_append, List.mem_singleton, reduceCtorEq, or_false] at heffects
    rcases heffects with (heffects | heffects) | heffects
    · split at heffects <;> simp at heffects
    · split at heffects
      · simp at heffects
      · obtain ⟨rfl, -⟩ := Effect.hide.inj (List.mem_singleton.mp heffects)
        exact hn
    · split at heffects <;> simp at heffects
  refine ⟨howned.tidy.mem_nodes_iff.mp hnodes, fun pattern m hm hends hall => ?_⟩
  have hown := howned.own n pattern m hm hends
  have hmem := hown.anchored hall
  refine ⟨hmem, fun htest => ?_⟩
  show n ∈ if engine.config.testMode then run.findings.processed else engine.lastProcessed
  rw [if_pos htest]
  exact (hown.seen n hmem).2 htest

/-- Settings by which a slice ends after one pull if the clock moves; candidates are kept. -/
def hurried : Config := ⟨.zero, .zero, true, .never⟩

/-- One such slice. -/
def hurry (doc : Document) (run : Run Nat) : Run Nat :=
  (run.slice doc.page hurried (ManualClock.ticking (.ofMilliseconds 1))).2.1

/-- The pattern for boxes with paragraphs in them. -/
def boxPattern : Pattern := ⟨0, [.plain "div", .has [.plain "p"]], "boxes"⟩

/-- A document whose root is a box with a paragraph in it. -/
def rootBox : Document :=
  ((Document.empty "https://example.com/").appendElement 0 "div").appendElement 1 "p"

/-- A run on this document. -/
def rootBoxRun (patterns : List Pattern) : Run Nat :=
  hurry rootBox (hurry rootBox (hurry rootBox (hurry rootBox (hurry rootBox
    (ofRequest rootBox.page patterns .full)))))

set_option maxRecDepth 20000 in
/-- The box is hidden, and has been looked at. -/
theorem hides_candidates_rootBox :
    let run := rootBoxRun (Engine.registration 0 Engine.boxSources).1
    let outcome := (Engine.new hurried (⟨.zero⟩ : PausedClock)).finishRun rootBox.page run
    .hide [1] ["boxes"] ∈ outcome.effects ∧
      (∃ pattern m, run.findings.matched.match? 1 pattern = some m ∧ 1 ∈ m.anchors) ∧
      1 ∈ outcome.engine.lastProcessed := by
  have hformed : rootBox.WellFormed := by decide
  have hcourse : Course hurried (Engine.registration 0 Engine.boxSources).1 rootBox
      (rootBoxRun (Engine.registration 0 Engine.boxSources).1) :=
    .sliced (.sliced (.sliced (.sliced (.sliced (.start rootBox .full) hformed _) hformed _)
      hformed _) hformed _) hformed _
  have hfound : (rootBoxRun (Engine.registration 0 Engine.boxSources).1).findings =
      ⟨[(1, [⟨boxPattern, [1]⟩])], [], [1]⟩ := by
    rw [Engine.registration_boxSources]
    cbv
  have hhide : .hide [1] ["boxes"] ∈ ((Engine.new hurried (⟨.zero⟩ : PausedClock)).finishRun
      rootBox.page (rootBoxRun (Engine.registration 0 Engine.boxSources).1)).effects := by
    simp [Engine.finishRun, effects, hfound, MatchTable.firstTexts, boxPattern]
  obtain ⟨⟨pattern, m, hm⟩, hown⟩ := hides_candidates (Engine.new hurried (⟨.zero⟩ : PausedClock))
    0 Engine.boxSources hcourse [1] ["boxes"] hhide 1 (by simp)
  have hthere : m = ⟨boxPattern, [1]⟩ := by
    rw [hfound] at hm
    have hboth : boxPattern.serial = pattern.serial ∧ ⟨boxPattern, [1]⟩ = m := by
      simpa [MatchTable.match?, MatchTable.matches?, Match.find?] using hm
    exact hboth.2.symm
  obtain ⟨hanchor, hprocessed⟩ := hown pattern m hm (by rw [hthere]; rfl)
    (by rw [hthere]; decide)
  exact ⟨hhide, ⟨pattern, m, hm, hanchor⟩, hprocessed rfl⟩

/-- The document after its box was removed. -/
def boxGone : Document :=
  Engine.boxDocument.change (.remove 2)

/-- A run in which the box was looked at before it was removed. -/
def boxGoneRun (patterns : List Pattern) : Run Nat :=
  hurry boxGone (hurry boxGone (hurry boxGone (hurry boxGone (hurry Engine.boxDocument
    (ofRequest Engine.boxDocument.page patterns .full)))))

set_option maxRecDepth 20000 in
/-- **The path of a box that has been removed leads to the root**, which is hidden in its place. -/
theorem hides_stranger :
    let run := boxGoneRun (Engine.registration 0 Engine.boxSources).1
    let outcome := (Engine.new hurried (⟨.zero⟩ : PausedClock)).finishRun boxGone.page run
    Course hurried (Engine.registration 0 Engine.boxSources).1 boxGone run ∧
      run.current.isNone ∧ run.waiting.isEmpty ∧
      .hide [1] ["boxes"] ∈ outcome.effects ∧
      (∃ pattern m, run.findings.matched.match? 1 pattern = some m ∧
        m.pattern.chain.endsJudging = true ∧ 1 ∉ m.anchors) ∧
      1 ∉ outcome.engine.lastProcessed := by
  have hbefore : Engine.boxDocument.WellFormed := by decide
  have hformed : boxGone.WellFormed := by decide
  have hcourse : Course hurried (Engine.registration 0 Engine.boxSources).1 boxGone
      (boxGoneRun (Engine.registration 0 Engine.boxSources).1) :=
    .sliced (.sliced (.sliced (.sliced (.changed (.sliced (.start Engine.boxDocument .full)
      hbefore _) (.remove 2)) hformed _) hformed _) hformed _) hformed _
  have hover : (boxGoneRun (Engine.registration 0 Engine.boxSources).1).current.isNone ∧
      (boxGoneRun (Engine.registration 0 Engine.boxSources).1).waiting.isEmpty := by
    rw [Engine.registration_boxSources]
    cbv
  have hfound : (boxGoneRun (Engine.registration 0 Engine.boxSources).1).findings =
      ⟨[(1, [⟨boxPattern, [2]⟩])], [], [2]⟩ := by
    rw [Engine.registration_boxSources]
    cbv
  refine ⟨hcourse, hover.1, hover.2, ?_, ?_, ?_⟩
  · simp [Engine.finishRun, effects, hfound, MatchTable.firstTexts, boxPattern]
  · refine ⟨boxPattern, ⟨boxPattern, [2]⟩, ?_, rfl, by simp⟩
    rw [hfound]
    rfl
  · simp [Engine.finishRun, hfound, hurried, Engine.new]

end Run

/-! ### Such are the runs of an engine -/

namespace Engine

variable {κ : Type} {config : Config} {doc : Document} {engine : Engine Nat Nat κ}

/-- An engine with patterns that were read from sources; so were those of its run. -/
structure Coursing (config : Config) (doc : Document) (engine : Engine Nat Nat κ) : Prop where
  settings : engine.config = config
  patterns : ∃ serial sources, engine.patterns = (registration serial sources).1
  running : ∀ run queued, engine.phase = .running run queued →
    ∃ serial sources, Run.Course config (registration serial sources).1 doc run

theorem Coursing.changed (h : Coursing config doc engine) (change : Change) :
    Coursing config (doc.change change) engine := by
  refine ⟨h.settings, h.patterns, fun run queued hphase => ?_⟩
  obtain ⟨serial, sources, hcourse⟩ := h.running run queued hphase
  exact ⟨serial, sources, hcourse.changed change⟩

variable [Clock κ]

/-- Every move takes the run on its course. -/
theorem Coursing.moves {other : Engine Nat Nat κ} {effects : List (Effect Nat)}
    (h : Coursing config doc engine) (hformed : doc.WellFormed)
    (hmoves : Moves doc.page engine effects other) : Coursing config doc other := by
  induction hmoves with
  | tells => exact h
  | retimed => exact ⟨h.settings, h.patterns, h.running⟩
  | waits _ hphase =>
    refine ⟨h.settings, h.patterns, fun run queued hrunning => ?_⟩
    simp only at hrunning
    simp [hrunning, Phase.isRunning] at hphase
  | @queues engine run before hphase after =>
    refine ⟨h.settings, h.patterns, fun other more hrunning => ?_⟩
    obtain ⟨rfl, -⟩ := Phase.running.inj hrunning
    exact h.running run before hphase
  | @begins engine _ request =>
    refine ⟨h.settings, h.patterns, fun run queued hrunning => ?_⟩
    obtain ⟨rfl, -⟩ := Phase.running.inj hrunning
    obtain ⟨serial, sources, hpatterns⟩ := h.patterns
    exact ⟨serial, sources, hpatterns ▸ .start doc request⟩
  | @sliced engine run queued hphase =>
    refine ⟨h.settings, h.patterns, fun other more hrunning => ?_⟩
    obtain ⟨rfl, -⟩ := Phase.running.inj hrunning
    obtain ⟨serial, sources, hcourse⟩ := h.running run queued hphase
    rw [h.settings]
    exact ⟨serial, sources, hcourse.sliced hformed engine.clock⟩
  | finished =>
    exact ⟨h.settings, h.patterns, fun run queued hrunning => by simp [finishRun] at hrunning⟩
  | append _ _ ih ihlast => exact ihlast (ih h)

/-- The document is changed, and an engine is called whenever the document is well-formed. -/
inductive Works (config : Config) : Document → Engine Nat Nat κ → Prop
  | new (doc : Document) (clock : κ) : Works config doc (Engine.new config clock)
  | changed {doc : Document} {engine : Engine Nat Nat κ} (h : Works config doc engine)
      (change : Change) : Works config (doc.change change) engine
  | clockMoved {doc : Document} {engine : Engine Nat Nat κ} (h : Works config doc engine)
      (clock : κ) : Works config doc { engine with clock := clock }
  | called {doc : Document} {engine : Engine Nat Nat κ} (h : Works config doc engine)
      (hformed : doc.WellFormed) (call : Call Nat Nat) :
      Works config doc (engine.call doc.page call).engine

/-- **Every run of an engine takes such a course**, whatever the engine is called for. -/
theorem Works.coursing (h : Works config doc engine) : Coursing config doc engine := by
  induction h with
  | new doc clock =>
    exact ⟨rfl, ⟨0, [], rfl⟩, fun run queued hphase => by simp [Engine.new] at hphase⟩
  | changed _ change ih => exact ih.changed change
  | clockMoved _ clock ih => exact ⟨ih.settings, ih.patterns, ih.running⟩
  | @called doc engine _ hformed call ih =>
    have hheard : Coursing config doc (engine.heard call) := by
      cases call with
      | apply sources => exact ⟨ih.settings, ⟨engine.nextSerial, sources, rfl⟩, ih.running⟩
      | _ => exact ih
    exact hheard.moves hformed (call_moves doc.page engine call)

end Engine

end CosmeticFilter
