/-
Where the patterns of an engine come from.

Every pattern that an engine ever mentions was registered once, and got a number then that
no other pattern has: it is in the list of patterns, is recorded for a hidden element, or
takes part in a run.  `Consistent` says so of a state, with the stock of all patterns that
were ever registered.  Only registering adds to the stock.  Runs are the long way round,
since their findings become the table of hidden elements in the end; what holds of them is
kept by every single pull, whatever the page is like at that moment.
-/
import CosmeticFilter.Proofs.Finishing
import CosmeticFilter.Proofs.Moves
import CosmeticFilter.Proofs.Slices
import Mathlib.Data.List.Nodup

namespace CosmeticFilter

variable {S N κ : Type} [DecidableEq N] [Clock κ]

/-! ### Stocks of patterns -/

/-- Patterns that were read from selectors, told apart by numbers below the next one. -/
structure Stock (known : Pattern → Prop) (next : Nat) : Prop where
  below : ∀ p, known p → p.serial < next
  unique : ∀ p q, known p → known q → p.serial = q.serial → p = q
  read : ∀ p, known p → ∃ selector, Chain.parse selector = .ok p.chain

namespace Engine

/-- What a registration gives are patterns with the numbers from `serial` on. -/
structure Registered (serial : Nat) (patterns : List Pattern) : Prop where
  bounds : ∀ p ∈ patterns, serial ≤ p.serial ∧ p.serial < serial + patterns.length
  distinct : (patterns.map Pattern.serial).Nodup
  read : ∀ p ∈ patterns, ∃ selector, Chain.parse selector = .ok p.chain

theorem registration_registered (serial : Nat) (sources : List PatternSource) :
    Registered serial (registration serial sources).1 := by
  induction sources generalizing serial with
  | nil => exact ⟨by simp [registration], List.nodup_nil, by simp [registration]⟩
  | cons source rest ih =>
    rw [registration]
    simp only
    split
    · exact ih serial
    · exact ih serial
    · rename_i chain hchain hread
      have h := ih (serial + 1)
      refine ⟨?_, ?_, ?_⟩
      · intro p hp
        rcases List.mem_cons.mp hp with rfl | hp
        · simp
        · have := h.bounds p hp
          simp only [List.length_cons]
          omega
      · refine List.nodup_cons.mpr ⟨fun hmem => ?_, h.distinct⟩
        obtain ⟨p, hp, hserial⟩ := List.mem_map.mp hmem
        have := (h.bounds p hp).1
        simp only at hserial
        omega
      · intro p hp
        rcases List.mem_cons.mp hp with rfl | hp
        · exact ⟨source.selector, hread⟩
        · exact h.read p hp

/-- A stock that newly registered patterns have been added to. -/
theorem Registered.stock {known : Pattern → Prop} {next : Nat} {patterns : List Pattern}
    (h : Registered next patterns) (hstock : Stock known next) :
    Stock (fun p => known p ∨ p ∈ patterns) (next + patterns.length) where
  below := by
    rintro p (hp | hp)
    · exact Nat.lt_add_right _ (hstock.below p hp)
    · exact (h.bounds p hp).2
  unique := by
    have hold : ∀ p q, known p → q ∈ patterns → p.serial ≠ q.serial := by
      intro p q hp hq
      have := hstock.below p hp
      have := (h.bounds q hq).1
      omega
    rintro p q (hp | hp) (hq | hq) hserial
    · exact hstock.unique p q hp hq hserial
    · exact absurd hserial (hold p q hp hq)
    · exact absurd hserial.symm (hold q p hq hp)
    · exact List.inj_on_of_nodup_map h.distinct hp hq hserial
  read := by
    rintro p (hp | hp)
    · exact hstock.read p hp
    · exact h.read p hp

end Engine

/-! ### Tables and runs -/

/-- All patterns recorded in the table are known. -/
def MatchTable.Within (known : Pattern → Prop) (table : MatchTable N) : Prop :=
  ∀ n pattern m, table.match? n pattern = some m → known m.pattern

namespace Findings

/-- What has been found is recorded properly, for known patterns only. -/
structure Within (known : Pattern → Prop) (findings : Findings N) : Prop where
  tidy : findings.matched.Tidy
  within : findings.matched.Within known

omit [Clock κ] in
theorem Within.none {known : Pattern → Prop} : Within known (Findings.none : Findings N) :=
  ⟨.nil, fun n pattern m h => by simp [Findings.none, MatchTable.match?, MatchTable.matches?] at h⟩

theorem within_enter {known : Pattern → Prop} {table : MatchTable N} (htidy : table.Tidy)
    (hwithin : table.Within known) {hit : Hit N} (hpattern : known hit.pattern) :
    (hit.enter table).Tidy ∧ (hit.enter table).Within known := by
  refine ⟨htidy.update_enter _ _ _, fun n pattern m hm => ?_⟩
  rw [Hit.enter, MatchTable.match?_update_enter] at hm
  split at hm
  · rw [← Option.some.inj hm]
    cases hold : table.match? hit.node hit.pattern with
    | none => exact hpattern
    | some old =>
      have hknown := hwithin _ _ _ hold
      exact hknown
  · exact hwithin _ _ _ hm

/-- Entering a pull of a known pattern keeps findings within what is known. -/
theorem Within.entering {known : Pattern → Prop} {findings : Findings N}
    (h : findings.Within known) {pattern : Pattern} (hpattern : known pattern) (config : Config)
    (page : Page N S) (pulled : Pulled N) :
    (findings.entering config page pattern pulled).Within known := by
  have hhits : ∀ hits : List (Hit N), (∀ hit ∈ hits, known hit.pattern) →
      ∀ table : MatchTable N, table.Tidy ∧ table.Within known →
      (hits.foldl Hit.enter table).Tidy ∧ (hits.foldl Hit.enter table).Within known := by
    intro hits
    induction hits with
    | nil => exact fun _ _ htable => htable
    | cons hit more ih =>
      intro hknown table htable
      exact ih (fun other hother => hknown other (List.mem_cons_of_mem _ hother)) _
        (within_enter htable.1 htable.2 (hknown hit List.mem_cons_self))
  have hitem : ∀ item : Item N, ∀ hit ∈ Hit.ofItem config page pattern item, known hit.pattern := by
    intro item hit hhit
    cases item with
    | pause => simp [Hit.ofItem] at hhit
    | found selector anchors =>
      simp only [Hit.ofItem] at hhit
      split at hhit
      · simp at hhit
      · obtain ⟨n, -, rfl⟩ := List.mem_map.mp hhit
        exact hpattern
  have hmatched := entering_matched config page pattern findings pulled
  suffices hboth : (findings.entering config page pattern pulled).matched.Tidy ∧
      (findings.entering config page pattern pulled).matched.Within known by
    exact ⟨hboth.1, hboth.2⟩
  rw [hmatched]
  cases pulled.item with
  | none => exact ⟨h.tidy, h.within⟩
  | some item =>
    simp only [Option.toList_some, List.foldl_cons, List.foldl_nil, matchItem_eq]
    exact hhits _ (hitem item) _ ⟨h.tidy, h.within⟩

end Findings

namespace Run

/-- The run is about known patterns only. -/
structure Within (known : Pattern → Prop) (run : Run N) : Prop where
  waiting : ∀ candidate ∈ run.waiting, known candidate.pattern
  current : ∀ candidate evaluation, run.current = some (candidate, evaluation) →
    known candidate.pattern
  findings : run.findings.Within known

variable {known : Pattern → Prop}

omit [Clock κ] in
theorem Within.mono {run : Run N} (h : run.Within known) {more : Pattern → Prop}
    (hmore : ∀ p, known p → more p) : run.Within more where
  waiting c hc := hmore _ (h.waiting c hc)
  current c e hc := hmore _ (h.current c e hc)
  findings := ⟨h.findings.tidy, fun n p m hm => hmore _ (h.findings.within n p m hm)⟩

/-- To be about known patterns only, as a condition on the parts of a run. -/
def knowing (known : Pattern → Prop) : Invariant N where
  candidate candidate := known candidate.pattern
  findings findings := findings.Within known
  evaluation _ _ _ := True

theorem knowing_kept (known : Pattern → Prop) (slice : Slice N S) : (knowing known).Kept slice where
  begin _ _ := trivial
  pull hcandidate hfindings _ := ⟨hfindings.entering hcandidate _ _ _, trivial⟩

/-- A slice on any page keeps a run within what is known. -/
theorem Within.slice {run : Run N} (hrun : run.Within known) (page : Page N S) (config : Config)
    (clock : κ) : (run.slice page config clock).2.1.Within known := by
  have hholds : (knowing known).Holds run :=
    ⟨hrun.waiting, fun c e hcurrent => ⟨hrun.current c e hcurrent, trivial⟩, hrun.findings⟩
  have hsliced := hholds.slice page config clock fun _ => knowing_kept known _
  exact ⟨hsliced.waiting, fun c e hcurrent => (hsliced.current c e hcurrent).1,
    hsliced.findings⟩

theorem within_hiddenAfter {run : Run N} (hrun : run.Within known) (page : Page N S)
    {hidden : MatchTable N} (htidy : hidden.Tidy) (hwithin : hidden.Within known) :
    (run.hiddenAfter page hidden).Within known := by
  intro n pattern m hm
  rcases cases_match?_hiddenAfter htidy hrun.findings.tidy hm with ⟨-, old, hold, hrenewed⟩ | hm
  · rw [renewed_pattern hrenewed]
    exact hwithin n pattern old hold
  · exact hrun.findings.within n pattern m hm

end Run

/-! ### Engines -/

namespace Engine

/-- The engine mentions patterns of the stock only. -/
structure Consistent (known : Pattern → Prop) (engine : Engine S N κ) : Prop where
  stock : Stock known engine.nextSerial
  patterns : ∀ p ∈ engine.patterns, known p
  distinct : (engine.patterns.map Pattern.serial).Nodup
  tidy : engine.hidden.Tidy
  hidden : engine.hidden.Within known
  running : ∀ run queued, engine.phase = .running run queued → run.Within known

variable {known : Pattern → Prop} {engine : Engine S N κ}

omit [Clock κ] in
/-- An engine that waits for something else at another time. -/
theorem Consistent.waits (h : Consistent known engine) (config : Config) (clock : κ)
    {phase : Phase S N} (hphase : phase.isRunning = false) :
    Consistent known { engine with config := config, clock := clock, phase := phase } where
  stock := h.stock
  patterns := h.patterns
  distinct := h.distinct
  tidy := h.tidy
  hidden := h.hidden
  running run queued hrunning := by
    obtain rfl : phase = .running run queued := hrunning
    simp [Phase.isRunning] at hphase

omit [Clock κ] in
/-- An engine with another run, at another time. -/
theorem Consistent.runs (h : Consistent known engine) (clock : κ) {run : Run N}
    (hrun : run.Within known) (queued : Option (Request S N)) :
    Consistent known { engine with clock := clock, phase := .running run queued } where
  stock := h.stock
  patterns := h.patterns
  distinct := h.distinct
  tidy := h.tidy
  hidden := h.hidden
  running other more hrunning := by
    obtain ⟨rfl, -⟩ := Phase.running.inj hrunning
    exact hrun

omit [Clock κ] in
theorem Consistent.retimed (h : Consistent known engine) (config : Config) (clock : κ) :
    Consistent known { engine with config := config, clock := clock } :=
  ⟨h.stock, h.patterns, h.distinct, h.tidy, h.hidden, h.running⟩

theorem Consistent.finishRun (h : Consistent known engine) (page : Page N S) {run : Run N}
    (hrun : run.Within known) : Consistent known (engine.finishRun page run).engine where
  stock := h.stock
  patterns := h.patterns
  distinct := h.distinct
  tidy := Run.tidy_hiddenAfter page run h.tidy hrun.findings.tidy
  hidden := Run.within_hiddenAfter hrun page h.tidy h.hidden
  running _ _ hrunning := by simp [Engine.finishRun] at hrunning

omit [Clock κ] in
/-- The candidates of a run are patterns of the engine. -/
theorem pattern_mem_of_candidate {patterns : List Pattern} {request : Request S N}
    {candidate : Candidate N}
    (h : candidate ∈ (Classification.ofRequest patterns request).candidates) :
    candidate.pattern ∈ patterns := by
  cases request with
  | full =>
    obtain ⟨p, hp, rfl⟩ := List.mem_map.mp h
    exact hp
  | partly sheets changes =>
    obtain ⟨p, hp, rfl⟩ := List.mem_map.mp h
    exact (List.mem_filter.mp hp).1

omit [Clock κ] in
/-- A run that begins is about the patterns that the engine has then. -/
theorem within_ofRequest {patterns : List Pattern} (h : ∀ p ∈ patterns, known p)
    (page : Page N S) (request : Request S N) :
    (Run.ofRequest page patterns request).Within known :=
  ⟨fun _ hcandidate => h _ (pattern_mem_of_candidate hcandidate),
    fun _ _ hcurrent => by simp [Run.ofRequest, Run.ofClassification] at hcurrent, .none⟩

/-- **Every move keeps to the stock.** -/
theorem Consistent.moves {page : Page N S} {effects : List (Effect N)} {other : Engine S N κ}
    (h : Consistent known engine) (hmoves : Moves page engine effects other) :
    Consistent known other := by
  induction hmoves with
  | tells => exact h
  | retimed engine clock => exact h.retimed engine.config clock
  | @waits engine _ phase hphase => exact h.waits engine.config engine.clock hphase
  | @queues engine run before hphase after =>
    exact h.runs engine.clock (h.running run before hphase) after
  | @begins engine _ request =>
    exact h.runs engine.clock (within_ofRequest h.patterns page request) none
  | @sliced engine run queued hphase =>
    exact h.runs _ ((h.running run queued hphase).slice page engine.config engine.clock) queued
  | @finished engine run queued hphase => exact h.finishRun page (h.running run queued hphase)
  | append _ _ ih ihlast => exact ihlast (ih h)

omit [Clock κ] in
/-- Registering adds to the stock. -/
theorem Consistent.given (h : Consistent known engine) (sources : List PatternSource) :
    ∃ more, Consistent more (engine.given sources) := by
  have hregistered := registration_registered engine.nextSerial sources
  unfold Engine.given
  generalize registration engine.nextSerial sources = registered at hregistered ⊢
  refine ⟨fun p => known p ∨ p ∈ registered.1, hregistered.stock h.stock, fun p hp => .inr hp,
    hregistered.distinct, h.tidy, fun n p m hm => .inl (h.hidden n p m hm),
    fun run queued hphase => (h.running run queued hphase).mono fun _ hp => .inl hp⟩

omit [Clock κ] in
theorem Consistent.heard (h : Consistent known engine) (call : Call S N) :
    ∃ more, Consistent more (engine.heard call) := by
  cases call with
  | apply sources => exact h.given sources
  | _ => exact ⟨known, h⟩

theorem Consistent.meet (h : Consistent known engine) (event : Event S N κ) :
    ∃ more, Consistent more (engine.meet event).engine := by
  cases event with
  | configured config => exact ⟨known, h.retimed config engine.clock⟩
  | clockMoved clock => exact ⟨known, h.retimed engine.config clock⟩
  | called page call =>
    obtain ⟨more, hheard⟩ := h.heard call
    exact ⟨more, hheard.moves (call_moves page engine call)⟩

/-- **Every reachable engine is consistent.** -/
theorem meetAll_consistent (config : Config) (clock : κ) (events : List (Event S N κ)) :
    ∃ known, Consistent known ((Engine.new config clock).meetAll events).engine := by
  induction events using List.reverseRecOn with
  | nil =>
    refine ⟨fun _ => False, ⟨?_, ?_, ?_⟩, ?_, ?_, .nil, ?_, ?_⟩
    · exact fun p hp => hp.elim
    · exact fun p q hp => hp.elim
    · exact fun p hp => hp.elim
    · simp [meetAll, Outcome.quiet, Engine.new]
    · simp [meetAll, Outcome.quiet, Engine.new]
    · intro n p m hm
      simp [meetAll, Outcome.quiet, Engine.new, MatchTable.match?, MatchTable.matches?] at hm
    · simp [meetAll, Outcome.quiet, Engine.new]
  | append_singleton events event ih =>
    obtain ⟨known, h⟩ := ih
    rw [meetAll_concat]
    exact h.meet event

end Engine

end CosmeticFilter
