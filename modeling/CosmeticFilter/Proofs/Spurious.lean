/-
Requests without a reason change nothing.

Once a full run is completed, the table of hidden elements records all hits of all patterns
with all their anchors: it is `Collects`-equal to `hitsOf`.  On a page that stays as it is,
no request can disturb this.  What a run finds are hits, and these are recorded already.
What it covers without finding it would have to be a match that it has missed; but it has
found all hits whose anchors are among the recorded ones, and these are all there are.

So every element that is hidden stays hidden for the same reasons, whatever the requests
say of changes and style sheets.
-/
import CosmeticFilter.Proofs.Hits
import CosmeticFilter.Proofs.Rest

namespace CosmeticFilter

variable {S N κ : Type} [DecidableEq N]

/-! ### Tables that collect the same -/

theorem Collects.congr {table other : MatchTable N} {hits : List (Hit N)}
    (h : Collects table hits) (htidy : other.Tidy)
    (hmatch : ∀ n pattern, other.match? n pattern = table.match? n pattern) :
    Collects other hits where
  tidy := htidy
  found n pattern := by rw [hmatch]; exact h.found n pattern
  pattern n pattern m hm := h.pattern n pattern m (hmatch n pattern ▸ hm)
  anchors n pattern m hm := h.anchors n pattern m (hmatch n pattern ▸ hm)

theorem Collects.congr_hits {table : MatchTable N} {hits more : List (Hit N)}
    (h : Collects table hits) (hmem : ∀ hit, hit ∈ hits ↔ hit ∈ more) : Collects table more where
  tidy := h.tidy
  found n pattern := by simpa only [hmem] using h.found n pattern
  pattern n pattern m hm := by simpa only [hmem] using h.pattern n pattern m hm
  anchors n pattern m hm := by simpa only [hmem] using h.anchors n pattern m hm

namespace Run

/-! ### After a full run -/

/-- A full run leaves nothing but what it has found. -/
theorem match?_hiddenAfter_full (page : Page N S) {run : Run N} (hfull : run.full = true)
    {hidden : MatchTable N} (htidy : hidden.Tidy) (hmatched : run.findings.matched.Tidy)
    (hsame : ∀ n pattern m again, hidden.match? n pattern = some m →
      run.findings.matched.match? n pattern = some again → m.pattern = again.pattern)
    (n : N) (pattern : Pattern) :
    (run.hiddenAfter page hidden).match? n pattern =
      run.findings.matched.match? n pattern := by
  have hcovers : ∀ known, run.covers page known = true := fun known => by simp [covers, hfull]
  rw [match?_hiddenAfter page run htidy hmatched]
  split
  · cases hold : hidden.match? n pattern with
    | none => rfl
    | some known =>
      rw [Option.bind_some]
      cases hfound : run.findings.matched.match? n pattern with
      | none => simp [renewed, hcovers]
      | some again =>
        simp only [renewed, hcovers, if_true, Option.some_or,
          hsame n pattern known again hold hfound]
  · rfl

/-! ### After any run -/

/-- A run that finds hits only, and among them all that it covers. -/
structure Surveys (page : Page N S) (run : Run N) (found hits : List (Hit N)) : Prop where
  collects : Collects run.findings.matched found
  subset : ∀ hit ∈ found, hit ∈ hits
  covered : ∀ known : Match N, run.covers page known = true → ∀ hit ∈ hits,
    hit.pattern = known.pattern → (∀ a ∈ hit.anchors, a ∈ known.anchors) → hit ∈ found
  unique : ∀ hit ∈ hits, ∀ other ∈ hits, hit.pattern.serial = other.pattern.serial →
    hit.pattern = other.pattern
  connected : ∀ hit ∈ hits, page.isConnected hit.node = true

variable {page : Page N S} {run : Run N} {found hits : List (Hit N)} {hidden : MatchTable N}

/-- A match that is recorded with all its anchors is found again if it is covered. -/
theorem Surveys.mem_found (h : Surveys page run found hits) (hhidden : Collects hidden hits)
    {n : N} {pattern : Pattern} {known : Match N} (hknown : hidden.match? n pattern = some known)
    (hcovers : run.covers page known = true) {hit : Hit N} (hhit : hit ∈ hits)
    (hnode : hit.node = n) (hpattern : hit.pattern.serial = pattern.serial) : hit ∈ found := by
  refine h.covered known hcovers hit hhit ?_ ?_
  · obtain ⟨first, hfirst, -, heq⟩ := hhidden.pattern n pattern known hknown
    rw [← heq]
    refine h.unique hit hhit first hfirst ?_
    rw [hpattern, heq, MatchTable.match?_serial hknown]
  · exact fun a ha => (hhidden.anchors n pattern known hknown a).mpr
      ⟨hit, hhit, hnode, hpattern, ha⟩

/-- What becomes of a match that is recorded with all its anchors: the same again. -/
theorem Surveys.renewed (h : Surveys page run found hits) (hhidden : Collects hidden hits)
    {n : N} {pattern : Pattern} {known : Match N}
    (hknown : hidden.match? n pattern = some known) :
    ∃ m, run.renewed page known (run.findings.matched.match? n pattern) = some m ∧
      m.pattern = known.pattern ∧ ∀ a, a ∈ m.anchors ↔ a ∈ known.anchors := by
  have hmem := h.mem_found hhidden hknown
  cases hagain : run.findings.matched.match? n pattern with
  | none =>
    cases hcovers : run.covers page known with
    | true =>
      -- The match has a hit, and the run has found it.
      obtain ⟨hit, hhit, hnode, hpattern⟩ := (hhidden.found n pattern).mp ⟨known, hknown⟩
      have hfound := hmem hcovers hhit hnode hpattern
      obtain ⟨m, hm⟩ := (h.collects.found n pattern).mpr ⟨hit, hfound, hnode, hpattern⟩
      simp [hagain] at hm
    | false => exact ⟨known, by simp [Run.renewed, hcovers], rfl, fun a => Iff.rfl⟩
  | some again =>
    have hanchors : ∀ a ∈ again.anchors, a ∈ known.anchors := by
      intro a ha
      obtain ⟨hit, hhit, hnode, hpattern, ha⟩ := (h.collects.anchors n pattern again hagain a).mp ha
      exact (hhidden.anchors n pattern known hknown a).mpr
        ⟨hit, h.subset hit hhit, hnode, hpattern, ha⟩
    cases hcovers : run.covers page known with
    | true =>
      refine ⟨{ known with anchors := again.anchors }, by simp [Run.renewed, hcovers], rfl,
        fun a => ⟨hanchors a, fun ha => ?_⟩⟩
      obtain ⟨hit, hhit, hnode, hpattern, ha⟩ :=
        (hhidden.anchors n pattern known hknown a).mp ha
      exact (h.collects.anchors n pattern again hagain a).mpr
        ⟨hit, hmem hcovers hhit hnode hpattern, hnode, hpattern, ha⟩
    | false =>
      refine ⟨known.addAnchors again.anchors, by simp [Run.renewed, hcovers], rfl, fun a => ?_⟩
      simp only [Match.addAnchors, mem_addNew]
      exact ⟨fun ha => ha.elim id (hanchors a), .inl⟩

/-- A run finds no match where none is known. -/
theorem Surveys.match?_of_none (h : Surveys page run found hits) (hhidden : Collects hidden hits)
    {n : N} {pattern : Pattern} (hold : hidden.match? n pattern = none) :
    (run.hiddenAfter page hidden).match? n pattern = none := by
  have hfound : run.findings.matched.match? n pattern = none := by
    rw [Option.eq_none_iff_forall_ne_some]
    intro m hm
    obtain ⟨hit, hhit, hnode, hpattern⟩ := (h.collects.found n pattern).mp ⟨m, hm⟩
    obtain ⟨known, hknown⟩ :=
      (hhidden.found n pattern).mpr ⟨hit, h.subset hit hhit, hnode, hpattern⟩
    simp [hold] at hknown
  rw [match?_hiddenAfter page run hhidden.tidy h.collects.tidy]
  simp [hold, hfound]

/-- A run leaves a known match with its anchors. -/
theorem Surveys.match?_of_some (h : Surveys page run found hits) (hhidden : Collects hidden hits)
    {n : N} {pattern : Pattern} {known : Match N}
    (hknown : hidden.match? n pattern = some known) :
    ∃ m, (run.hiddenAfter page hidden).match? n pattern = some m ∧
      m.pattern = known.pattern ∧ ∀ a, a ∈ m.anchors ↔ a ∈ known.anchors := by
  obtain ⟨hit, hhit, hnode, -⟩ := (hhidden.found n pattern).mp ⟨known, hknown⟩
  obtain ⟨m, hm, hpattern, hanchors⟩ := h.renewed hhidden hknown
  have hconnected : page.isConnected n = true := hnode ▸ h.connected hit hhit
  exact ⟨m, match?_hiddenAfter_of_renewed hhidden.tidy h.collects.tidy hconnected hknown hm,
    hpattern, hanchors⟩

/-- So a match that there is after a run was known before. -/
theorem Surveys.known_of_match? (h : Surveys page run found hits) (hhidden : Collects hidden hits)
    {n : N} {pattern : Pattern} {m : Match N}
    (hm : (run.hiddenAfter page hidden).match? n pattern = some m) :
    ∃ known, hidden.match? n pattern = some known ∧ m.pattern = known.pattern ∧
      ∀ a, a ∈ m.anchors ↔ a ∈ known.anchors := by
  cases hold : hidden.match? n pattern with
  | none => simp [h.match?_of_none hhidden hold] at hm
  | some known =>
    obtain ⟨m', hm', hrest⟩ := h.match?_of_some hhidden hold
    obtain rfl := Option.some.inj (hm.symm.trans hm')
    exact ⟨known, rfl, hrest⟩

/-- **A run on a table that collects all hits** leaves a table that does. -/
theorem Surveys.hiddenAfter (h : Surveys page run found hits)
    (hhidden : Collects hidden hits) :
    Collects (run.hiddenAfter page hidden) hits := by
  refine ⟨tidy_hiddenAfter page run hhidden.tidy h.collects.tidy, ?_, ?_, ?_⟩
  · intro n pattern
    rw [← hhidden.found n pattern]
    constructor
    · rintro ⟨m, hm⟩
      obtain ⟨known, hknown, -⟩ := h.known_of_match? hhidden hm
      exact ⟨known, hknown⟩
    · rintro ⟨known, hknown⟩
      obtain ⟨m, hm, -⟩ := h.match?_of_some hhidden hknown
      exact ⟨m, hm⟩
  · intro n pattern m hm
    obtain ⟨known, hknown, hpattern, -⟩ := h.known_of_match? hhidden hm
    rw [hpattern]
    exact hhidden.pattern n pattern known hknown
  · intro n pattern m hm a
    obtain ⟨known, hknown, -, hanchors⟩ := h.known_of_match? hhidden hm
    rw [hanchors]
    exact hhidden.anchors n pattern known hknown a

/-- Every hidden element keeps a match. -/
theorem Surveys.keep (h : Surveys page run found hits) (hhidden : Collects hidden hits) {n : N}
    {known : List (Match N)} (hmem : (n, known) ∈ hidden) :
    (run.keep? page n known).isSome = true := by
  obtain ⟨m, rest, hcons⟩ := List.exists_cons_of_ne_nil (hhidden.tidy.filled _ hmem)
  simp only at hcons
  have hm : hidden.match? n m.pattern = some m := by
    refine hhidden.tidy.match?_of_mem hmem ?_
    rw [hcons]
    exact List.mem_cons_self
  obtain ⟨hit, hhit, hnode, -⟩ := (hhidden.found n m.pattern).mp ⟨m, hm⟩
  obtain ⟨kept, hkept, -, -⟩ := h.renewed hhidden hm
  rw [← renew?_eq] at hkept
  unfold keep?
  rw [← hnode, if_pos (h.connected hit hhit), hnode]
  simp [hcons, hkept]

theorem nodes_retain_of_keep
    (h : ∀ entry ∈ hidden, (run.keep? page entry.1 entry.2).isSome = true) :
    (run.retain page hidden).nodes = hidden.nodes := by
  induction hidden with
  | nil => rfl
  | cons entry rest ih =>
    obtain ⟨hfirst, hrest⟩ := List.forall_mem_cons.mp h
    obtain ⟨kept, hkept⟩ := Option.isSome_iff_exists.mp hfirst
    rw [retain_cons, hkept]
    exact congrArg (entry.1 :: ·) (ih hrest)

/-- The same elements are hidden in the same order, and none is shown again. -/
theorem Surveys.nodes (h : Surveys page run found hits) (hhidden : Collects hidden hits) :
    (run.hiddenAfter page hidden).nodes = hidden.nodes ∧ run.shownAgain page hidden = [] := by
  have hkeep : ∀ entry ∈ hidden, (run.keep? page entry.1 entry.2).isSome = true :=
    fun entry hentry => h.keep hhidden hentry
  have hretained := nodes_retain_of_keep hkeep
  constructor
  · rw [hiddenAfter_eq, nodes_addEntries ?_, hretained]
    intro n hn
    obtain ⟨hit, hhit, hnode⟩ := h.collects.mem_nodes.mp hn
    rw [hretained, hhidden.mem_nodes]
    exact ⟨hit, h.subset hit hhit, hnode⟩
  · unfold shownAgain
    rw [List.map_eq_nil_iff, List.filter_eq_nil_iff]
    intro entry hentry hnone
    have := hkeep entry hentry
    simp_all

/-- The outside is told of all that is to be shown again, if there is anything. -/
theorem unhide_mem_effects {nodes : List N} :
    .unhide nodes ∈ run.effects page hidden ↔
      run.shownAgain page hidden ≠ [] ∧ nodes = run.shownAgain page hidden := by
  unfold effects
  simp only
  split <;> split <;> split <;> simp_all

end Run

/-! ### Engines -/

theorem hidesBySelector_congr {a b : Config} (h : SameReports a b) (pattern : Pattern) :
    a.hidesBySelector pattern = b.hidesBySelector pattern := by
  unfold Config.hidesBySelector
  rw [h.selectorHiding]

theorem hitsOf_congr {a b : Config} (h : SameReports a b) (page : Page N S)
    (patterns : List Pattern) : hitsOf a page patterns = hitsOf b page patterns := by
  have hitem : ∀ pattern : Pattern, Hit.ofItem a page pattern = Hit.ofItem b page pattern := by
    intro pattern
    funext item
    cases item with
    | pause => rfl
    | found selector anchors => simp only [Hit.ofItem, hidesBySelector_congr h]
  have hhits : Pattern.hits a page = Pattern.hits b page := by
    funext pattern
    simp only [Pattern.hits, Hit.ofCandidate, hitem]
  simp only [hitsOf, hhits]

namespace Engine

variable [Clock κ] {page : Page N S} {engine : Engine S N κ}

/-- The engine is idle, and its table records all hits with all their anchors. -/
structure Settled (page : Page N S) (engine : Engine S N κ) : Prop where
  phase : engine.phase = .idle
  distinct : (engine.patterns.map Pattern.serial).Nodup
  collects : Collects engine.hidden (hitsOf engine.config page engine.patterns)

omit [Clock κ] in
theorem unique_of_mem_hitsOf (hdistinct : (engine.patterns.map Pattern.serial).Nodup) :
    ∀ hit ∈ hitsOf engine.config page engine.patterns,
    ∀ other ∈ hitsOf engine.config page engine.patterns,
      hit.pattern.serial = other.pattern.serial → hit.pattern = other.pattern :=
  fun _ hhit _ hother hserial => List.inj_on_of_nodup_map hdistinct (mem_hitsOf.mp hhit).1
    (mem_hitsOf.mp hother).1 hserial

omit [Clock κ] in
theorem runOf_surveys (h : page.Lawful) (hdistinct : (engine.patterns.map Pattern.serial).Nodup)
    (request : Request S N) :
    (engine.runOf page request).Surveys page (engine.runHits page request)
      (hitsOf engine.config page engine.patterns) where
  collects := runOf_collects page engine request
  subset _ hhit := runHits_subset h hhit
  covered _ hcovers _ hhit hpattern hanchors :=
    mem_runHits_of_covers h hdistinct hcovers hhit hpattern hanchors
  unique := unique_of_mem_hitsOf hdistinct
  connected _ hhit := connected_of_mem_hits h (mem_hitsOf.mp hhit).2

omit [Clock κ] in
/-- A full run settles a consistent engine. -/
theorem settled_of_full (h : page.Lawful) {known : Pattern → Prop}
    (hconsistent : Consistent known engine) {last : Outcome S N κ}
    (hreports : Reports page engine (engine.runOf page .full) last) :
    Settled page last.engine := by
  have hsurveys := runOf_surveys h hconsistent.distinct .full
  have hall : Collects (engine.runOf page .full).findings.matched
      (hitsOf engine.config page engine.patterns) := by
    refine hsurveys.collects.congr_hits fun hit => ⟨hsurveys.subset hit, fun hhit => ?_⟩
    exact hsurveys.covered ⟨hit.pattern, hit.anchors⟩ (by simp [Run.covers, Request.isFull]) hit
      hhit rfl fun _ ha => ha
  have hsame : ∀ n pattern m again, engine.hidden.match? n pattern = some m →
      (engine.runOf page .full).findings.matched.match? n pattern = some again →
      m.pattern = again.pattern := by
    intro n pattern m again hm hagain
    obtain ⟨hit, hhit, -, heq⟩ := hall.pattern n pattern again hagain
    refine hconsistent.stock.unique _ _ (hconsistent.hidden n pattern m hm) ?_ ?_
    · rw [← heq]
      exact hconsistent.patterns _ (mem_hitsOf.mp hhit).1
    · rw [MatchTable.match?_serial hm, MatchTable.match?_serial hagain]
  refine ⟨hreports.phase, hreports.patterns ▸ hconsistent.distinct, ?_⟩
  rw [hreports.hidden, hreports.patterns, hitsOf_congr hreports.reports]
  exact hall.congr (Run.tidy_hiddenAfter page _ hconsistent.tidy hall.tidy)
    (Run.match?_hiddenAfter_full page (by simp [Request.isFull]) hconsistent.tidy hall.tidy hsame)

omit [Clock κ] in
/-- Whatever is requested of a settled engine leaves it settled, and changes nothing. -/
theorem Settled.reports (h : page.Lawful) (hsettled : Settled page engine)
    {request : Request S N} {last : Outcome S N κ}
    (hreports : Reports page engine (engine.runOf page request) last) :
    Settled page last.engine ∧ last.engine.hiddenElements = engine.hiddenElements ∧
      ∀ nodes, Effect.unhide nodes ∉ last.effects := by
  have hsurveys := runOf_surveys h hsettled.distinct request
  obtain ⟨hnodes, hnone⟩ := hsurveys.nodes hsettled.collects
  refine ⟨⟨hreports.phase, hreports.patterns ▸ hsettled.distinct, ?_⟩, ?_, ?_⟩
  · rw [hreports.hidden, hreports.patterns, hitsOf_congr hreports.reports]
    exact hsurveys.hiddenAfter hsettled.collects
  · rw [hiddenElements, hreports.hidden]
    exact hnodes
  · intro nodes hmem
    have hdecision : Effect.unhide nodes ∈ decisions last.effects :=
      List.mem_filter.mpr ⟨hmem, rfl⟩
    rw [hreports.decisions] at hdecision
    exact (Run.unhide_mem_effects.mp (List.mem_filter.mp hdecision).1).1 hnone

/-- Requests that are made one after the other, each followed until the engine is idle. -/
inductive Asks (page : Page N S) (engine : Engine S N κ) :
    List (Request S N) → Outcome S N κ → Prop
  | none : Asks page engine [] (.quiet engine)
  | next {requests : List (Request S N)} {request : Request S N} {outcome last : Outcome S N κ}
      (h : Asks page engine requests outcome) (clock : κ)
      (hlast : Rests page ({ outcome.engine with clock := clock }.request page request) last) :
      Asks page engine (requests ++ [request]) (outcome.andThen last)

/-- An idle engine can be asked for anything in turn. -/
theorem exists_asks (page : Page N S) {engine : Engine S N κ} (hphase : engine.phase = .idle)
    (requests : List (Request S N)) :
    ∃ last : Outcome S N κ, Asks page engine requests last ∧ last.engine.phase = .idle := by
  induction requests using List.reverseRecOn with
  | nil => exact ⟨_, .none, hphase⟩
  | append_singleton requests request ih =>
    obtain ⟨outcome, hasks, hidle⟩ := ih
    obtain ⟨last, hlast⟩ := exists_rests page hidle request
    exact ⟨_, hasks.next outcome.engine.clock hlast,
      (hlast.reports (request_pursues page hidle request)).phase⟩

theorem Asks.settled (h : page.Lawful) (hsettled : Settled page engine)
    {requests : List (Request S N)} {last : Outcome S N κ}
    (hasks : Asks page engine requests last) :
    Settled page last.engine ∧ last.engine.hiddenElements = engine.hiddenElements ∧
      ∀ nodes, Effect.unhide nodes ∉ last.effects := by
  induction hasks with
  | none => exact ⟨hsettled, rfl, by simp [Outcome.quiet]⟩
  | @next requests request outcome last _ clock hlast ih =>
    obtain ⟨hnow, hsame, hquiet⟩ := ih
    have hretimed : Settled page { outcome.engine with clock := clock } :=
      ⟨hnow.phase, hnow.distinct, hnow.collects⟩
    obtain ⟨hlater, hnodes, hunhide⟩ := hretimed.reports h
      (hlast.reports (request_pursues page hretimed.phase request))
    refine ⟨hlater, hnodes.trans hsame, fun nodes hmem => ?_⟩
    rcases List.mem_append.mp hmem with hmem | hmem
    · exact hquiet nodes hmem
    · exact hunhide nodes hmem

/--
**Spurious requests change nothing.**  Once a reachable engine has completed a full run on a
document, any further requests on the same document, true or not, leave the hidden elements
as they are and show none of them again.
-/
theorem requests_change_nothing (doc : Document) (config : Config) (clock : κ)
    (events : List (Event Nat Nat κ)) {first last : Outcome Nat Nat κ}
    {requests : List (Request Nat Nat)}
    (hfull : Execution doc.page
      (((Engine.new config clock).meetAll events).engine.startRun doc.page .full) first)
    (hrequests : Asks doc.page first.engine requests last) :
    last.engine.hiddenElements = first.engine.hiddenElements ∧
      ∀ nodes, Effect.unhide nodes ∉ last.effects := by
  obtain ⟨known, hconsistent⟩ := meetAll_consistent config clock events
  have hsettled := settled_of_full doc.page_lawful hconsistent
    (hfull.reports (startRun_onTheWay doc.page _ .full))
  exact (Asks.settled doc.page_lawful hsettled hrequests).2

/-- A paragraph that was in its box from the start is reported as new, and all is filtered again. -/
theorem requests_change_nothing_box :
    ∃ first last : Outcome Nat Nat PausedClock,
      Execution boxDocument.page
        (((Engine.new Config.default ⟨.zero⟩).meetAll
          [.called boxDocument.page (.apply [⟨"div:-abp-has(p)", "boxes"⟩])]).engine.startRun
            boxDocument.page .full) first ∧
      Asks boxDocument.page first.engine [.partly [] [.childList 2 [3] []], .full] last ∧
      last.engine.hiddenElements = first.engine.hiddenElements ∧
      ∀ nodes, Effect.unhide nodes ∉ last.effects := by
  obtain ⟨first, hfull⟩ := exists_execution boxDocument.page
    ((Engine.new Config.default (⟨.zero⟩ : PausedClock)).meetAll
      [.called boxDocument.page (.apply [⟨"div:-abp-has(p)", "boxes"⟩])]).engine .full
  have hphase := (hfull.reports (startRun_onTheWay boxDocument.page _ .full)).phase
  obtain ⟨last, hasks, -⟩ := exists_asks boxDocument.page hphase
    [.partly [] [.childList 2 [3] []], .full]
  exact ⟨first, last, hfull, hasks, requests_change_nothing boxDocument _ _ _ hfull hasks⟩

end Engine

end CosmeticFilter
