/-
Driving comes to an end.

The driver goes round by round: it delivers the wake-up that was asked for last, and asks for
what comes next, until the engine rests or waits for the document.  So `drive` is told once
more as a sequence of `Rounds`, and what one of them keeps is kept by all.

What is kept is a balance.  An engine owes a run for the request that waits and one for the
run that is under way, and whatever a round does, what it completes and what is owed after
it come to what was owed before.  An engine owes two runs at most.
-/
import CosmeticFilter.Engine.Driving
import CosmeticFilter.Proofs.Leftovers
import CosmeticFilter.Proofs.WakeUps
import Mathlib

namespace CosmeticFilter

variable {N S κ : Type}

/-! ### Runs that are completed -/

/-- The effect tells that a run is completed. -/
def Effect.isCompletion : Effect N → Bool
  | .note (.finished _ _) => true
  | _ => false

/-- How many runs the effects tell of. -/
def completions (effects : List (Effect N)) : Nat :=
  effects.countP Effect.isCompletion

@[simp] theorem completions_append (first last : List (Effect N)) :
    completions (first ++ last) = completions first + completions last :=
  List.countP_append ..

/-- The note tells of no completed run. -/
def Note.isPassing : Note → Bool
  | .finished _ _ => false
  | _ => true

theorem completions_notes {notes : List Note} (h : ∀ note ∈ notes, note.isPassing) :
    completions (notes.map (Effect.note (N := N))) = 0 := by
  refine List.countP_eq_zero.mpr fun effect heffect => ?_
  obtain ⟨note, hnote, rfl⟩ := List.mem_map.mp heffect
  have hpassing := h note hnote
  cases note <;> simp_all [Effect.isCompletion, Note.isPassing]

variable [DecidableEq N]

theorem completions_effects (page : Page N S) (run : Run N) (hidden : MatchTable N) :
    completions (run.effects page hidden) = 1 := by
  unfold Run.effects
  simp only [completions_append]
  split <;> split <;> split <;> rfl

namespace Findings

theorem enterPulled_passing (config : Config) (page : Page N S) (pattern : Pattern)
    (findings : Findings N) (pulled : Pulled N) :
    ∀ note ∈ (findings.enterPulled config page pattern pulled).2, note.isPassing := by
  have hfailures : ∀ note ∈ pulled.reports.filterMap failure?, note.isPassing := by
    intro note hnote
    obtain ⟨report, -, hreport⟩ := List.mem_filterMap.mp hnote
    cases report with
    | examined => cases hreport
    | queryFailed => exact Option.some.inj hreport ▸ rfl
  unfold enterPulled
  simp only
  split
  · intro note hnote
    rcases List.mem_append.mp hnote with hnote | hnote
    · exact hfailures note hnote
    · unfold enter at hnote
      split at hnote
      · cases hnote
      · split at hnote
        · cases hnote
        · rw [List.mem_singleton.mp hnote]
          rfl
  · exact hfailures

end Findings

namespace Run

variable [Clock κ]

theorem evaluate_passing (slice : Slice N S) (candidate : Candidate N) (e : Evaluation N)
    (tally : Tally N κ) (h : ∀ note ∈ tally.notes, note.isPassing) :
    ∀ note ∈ (evaluate slice candidate e tally).2.notes, note.isPassing := by
  have hentered : ∀ (tally : Tally N κ) (pulled : Pulled N),
      (∀ note ∈ tally.notes, note.isPassing) →
      ∀ note ∈ (tally.enter slice candidate pulled).2.notes, note.isPassing := by
    intro tally pulled hbefore note hnote
    rcases List.mem_append.mp hnote with hnote | hnote
    · exact hbefore note hnote
    · exact Findings.enterPulled_passing _ _ _ _ _ note hnote
  fun_induction evaluate slice candidate e tally with
  | case1 e tally pulled entered | case2 e tally pulled entered => exact hentered tally pulled h
  | case3 e tally pulled entered hover item hitem ih => exact ih (hentered tally pulled h)

theorem evaluateAll_passing (slice : Slice N S) (candidates : List (Candidate N))
    (tally : Tally N κ) (h : ∀ note ∈ tally.notes, note.isPassing) :
    ∀ note ∈ (evaluateAll slice candidates tally).2.notes, note.isPassing := by
  fun_induction evaluateAll slice candidates tally with
  | case1 tally => exact h
  | case2 candidate rest tally later hlater ih =>
    have hfirst := evaluate_passing slice candidate (slice.begin candidate) tally h
    rw [hlater] at hfirst
    exact ih hfirst
  | case3 candidate rest tally state later hlater =>
    have hfirst := evaluate_passing slice candidate (slice.begin candidate) tally h
    rwa [hlater] at hfirst

theorem proceed_passing (slice : Slice N S) (run : Run N) (tally : Tally N κ)
    (h : ∀ note ∈ tally.notes, note.isPassing) :
    ∀ note ∈ (proceed slice run tally).2.notes, note.isPassing := by
  unfold proceed
  split
  · exact evaluateAll_passing slice _ tally h
  · rename_i candidate evaluation _
    have hfirst := evaluate_passing slice candidate evaluation tally h
    split
    · rename_i later hlater
      rw [hlater] at hfirst
      exact evaluateAll_passing slice _ later hfirst
    · rename_i state later hlater
      rwa [hlater] at hfirst

/-- A slice does not tell of the end of the run, even if it completes it. -/
theorem slice_passing (page : Page N S) (config : Config) (run : Run N) (clock : κ) :
    ∀ note ∈ (run.slice page config clock).2.2.2, note.isPassing := by
  have hproceed := proceed_passing ⟨page, config, run.styles, (Clock.now clock).1⟩ run
    (⟨run.findings, (Clock.now clock).2, []⟩ : Tally N κ) (by simp)
  unfold slice sliceFrom
  simp only
  split
  · exact hproceed
  · intro note hnote
    rcases List.mem_append.mp hnote with hnote | hnote
    · exact hproceed note hnote
    · rw [List.mem_singleton.mp hnote]
      rfl

end Run

/-! ### The balance -/

namespace Engine

/-- How many runs the engine still has to complete. -/
def owed (engine : Engine S N κ) : Nat :=
  match engine.phase with
  | .idle => 0
  | .debouncing _ | .awaitingReady _ => 1
  | .running _ queued => 1 + queued.toList.length

omit [DecidableEq N] in
theorem owed_le_two (engine : Engine S N κ) : engine.owed ≤ 2 := by
  unfold owed
  split
  · exact Nat.zero_le 2
  · exact Nat.le_succ 1
  · exact Nat.le_succ 1
  · rename_i run queued hphase
    cases queued <;> simp

/-- The runs that are completed and those that are still owed come to this number. -/
def Balances (outcome : Outcome S N κ) (runs : Nat) : Prop :=
  completions outcome.effects + outcome.engine.owed = runs

omit [DecidableEq N] in
theorem Balances.after {outcome : Outcome S N κ} {runs : Nat} (h : Balances outcome runs)
    {effects : List (Effect N)} (hnone : completions effects = 0) :
    Balances (outcome.after effects) runs := by
  show completions (effects ++ outcome.effects) + outcome.engine.owed = runs
  rw [completions_append, hnone, Nat.zero_add]
  exact h

variable [Clock κ] {page : Page N S} {engine : Engine S N κ}

theorem workOn_balances (run : Run N) {queued : Option (Request S N)}
    {next : Engine S N κ → Outcome S N κ}
    (hnext : ∀ finished : Engine S N κ, finished.phase = .idle →
      Balances (next finished) queued.toList.length) :
    Balances (engine.workOn page run queued next) (1 + queued.toList.length) := by
  have hpassing := completions_notes (N := N) (run.slice_passing page engine.config engine.clock)
  unfold workOn
  simp only
  refine Balances.after ?_ hpassing
  split
  · have hfinished := hnext
      ({ engine with clock := (run.slice page engine.config engine.clock).2.2.1 }.finishRun page
        (run.slice page engine.config engine.clock).2.1).engine rfl
    show completions (Run.effects page _ _ ++ _) + _ = _
    rw [completions_append, completions_effects, Nat.add_assoc]
    exact congrArg (1 + ·) hfinished
  · exact Nat.zero_add _

theorem startRun_balances (request : Request S N) :
    Balances (engine.startRun page request) 1 := by
  unfold startRun
  simp only
  generalize Run.ofClassification _ _ = run
  have hworked : Balances (engine.workOn page run none .quiet) 1 :=
    workOn_balances run fun finished hidle => by
      simp [Balances, Outcome.quiet, completions, owed, hidle]
  refine Balances.after hworked (completions_notes fun note hnote => ?_)
  rcases List.mem_append.mp hnote with hnote | hnote
  · obtain ⟨sheet, -, rfl⟩ := List.mem_map.mp hnote
    rfl
  · rw [List.mem_singleton.mp hnote]
    rfl

theorem startWhenReady_balances (request : Request S N) :
    Balances (engine.startWhenReady page request) 1 := by
  unfold startWhenReady
  split
  · rfl
  · exact startRun_balances request

theorem takeUp_balances (request : Request S N) :
    Balances (engine.takeUp page request) 1 := by
  unfold takeUp
  simp only
  split
  · rfl
  · exact startWhenReady_balances request

theorem timerFired_balances : Balances (engine.timerFired page) engine.owed := by
  unfold timerFired
  split
  · rename_i request hphase
    rw [owed, hphase]
    exact startWhenReady_balances request
  · exact Nat.zero_add _

/-- **A slice keeps the balance**: a run that it completes is no longer owed. -/
theorem resume_balances : Balances (engine.resume page) engine.owed := by
  unfold resume
  split
  · rename_i run queued hphase
    rw [owed, hphase]
    refine workOn_balances run fun finished hidle => ?_
    cases queued with
    | none => simp [Balances, Outcome.quiet, completions, owed, hidle]
    | some request => exact takeUp_balances request
  · exact Nat.zero_add _

/-- A slice completes the run, or advances it and leaves what is queued. -/
inductive Advances (page : Page N S) (engine : Engine S N κ) : Prop
  | completed (hcompleted : 0 < completions (engine.resume page).effects)
  | suspended {run later : Run N} {queued : Option (Request S N)}
      (hphase : engine.phase = .running run queued)
      (hlater : (engine.resume page).engine.phase = .running later queued)
      (hadvanced : Run.Advanced page run later)

/-- **No slice is for nothing.** -/
theorem resume_advances {run : Run N} {queued : Option (Request S N)}
    (hphase : engine.phase = .running run queued) : Advances page engine := by
  by_cases hcompleted : (run.slice page engine.config engine.clock).1 = true
  · refine .completed ?_
    unfold resume workOn
    simp only [hphase, hcompleted, if_true]
    show 0 < completions (_ ++ (Run.effects page _ _ ++ _))
    rw [completions_append, completions_append, completions_effects]
    omega
  · have hsuspended := Bool.eq_false_iff.mpr hcompleted
    refine .suspended hphase ?_ (run.slice_advanced page engine.config engine.clock hsuspended)
    unfold resume workOn
    simp only [hphase, hsuspended]
    rfl

/-! ### Waiting for the document -/

/-- Only for a document that is being read is its end waited for. -/
def WaitsForReading (page : Page N S) (outcome : Outcome S N κ) : Prop :=
  outcome.wake = some .documentReady → page.isLoading = true

theorem workOn_waits (run : Run N) (queued : Option (Request S N))
    {next : Engine S N κ → Outcome S N κ}
    (hnext : ∀ finished : Engine S N κ, WaitsForReading page (next finished)) :
    WaitsForReading page (engine.workOn page run queued next) := by
  unfold workOn
  simp only
  split
  · exact hnext _
  · intro hwake
    cases hwake

theorem startWhenReady_waits (request : Request S N) :
    WaitsForReading page (engine.startWhenReady page request) := by
  have hquiet : ∀ finished : Engine S N κ, WaitsForReading page (.quiet finished) := by
    intro finished hwake
    cases hwake
  unfold startWhenReady
  split
  · exact fun _ => ‹_›
  · unfold startRun
    simp only
    generalize Run.ofClassification _ _ = run
    exact fun hwake => workOn_waits run none hquiet hwake

theorem takeUp_waits (request : Request S N) :
    WaitsForReading page (engine.takeUp page request) := by
  unfold takeUp
  simp only
  split
  · intro hwake
    cases hwake
  · exact startWhenReady_waits request

theorem timerFired_waits : WaitsForReading page (engine.timerFired page) := by
  unfold timerFired
  split
  · exact startWhenReady_waits _
  · intro hwake
    cases hwake

theorem resume_waits : WaitsForReading page (engine.resume page) := by
  unfold resume
  split
  · rename_i run queued hphase
    refine workOn_waits run queued fun finished => ?_
    cases queued with
    | none =>
      intro hwake
      cases hwake
    | some request => exact takeUp_waits request
  · intro hwake
    cases hwake

/-! ### Rounds of the driver -/

/-- What the driver does about the last wake-up, if it does not stop there. -/
def round (page : Page N S) (outcome : Outcome S N κ) : Option (Outcome S N κ) :=
  match outcome.wake with
  | none | some .documentReady => none
  | some (.timer delay) =>
    let slept := { outcome.engine with clock := Clock.sleep outcome.engine.clock delay }
    some (outcome.andThen (.after [.note (.sleeping delay)] (slept.timerFired page)))
  | some .resume => some (outcome.andThen (outcome.engine.resume page))

/-- So many rounds lead from one outcome to the other. -/
inductive Rounds (page : Page N S) : Nat → Outcome S N κ → Outcome S N κ → Prop
  | none (outcome : Outcome S N κ) : Rounds page 0 outcome outcome
  | next {rounds : Nat} {first between last : Outcome S N κ}
      (hround : round page first = some between) (hrest : Rounds page rounds between last) :
      Rounds page (rounds + 1) first last

omit [DecidableEq N] [Clock κ] in
theorem andThen_assoc (first between last : Outcome S N κ) :
    (first.andThen between).andThen last = first.andThen (between.andThen last) := by
  simp [Outcome.andThen, List.append_assoc]

/-- The driver goes round by round, and stops after finitely many of them. -/
theorem rounds_drive (page : Page N S) (engine : Engine S N κ) (wake : Option Wake) :
    ∀ first : Outcome S N κ, first.engine = engine → first.wake = wake →
      ∃ rounds, Rounds page rounds first (first.andThen (engine.drive page wake)) ∧
        round page (first.andThen (engine.drive page wake)) = none := by
  fun_induction drive page engine wake with
  | case1 engine | case2 engine =>
    intro first hengine hwake
    refine ⟨0, ?_, rfl⟩
    have hsame : first = first.andThen ⟨engine, first.wake, [], [], []⟩ := by
      simp [Outcome.andThen, ← hengine]
    rw [hwake] at hsame
    exact hsame ▸ Rounds.none first
  | case3 engine delay slept outcome ih =>
    rintro first rfl hwake
    obtain ⟨rounds, hrounds, hstops⟩ := ih
      (first.andThen (.after [.note (.sleeping delay)] outcome)) rfl rfl
    have hround : round page first = some
        (first.andThen (.after [.note (.sleeping delay)] outcome)) := by
      simp only [round, hwake]
      rfl
    rw [andThen_assoc] at hrounds hstops
    exact ⟨rounds + 1, .next hround hrounds, hstops⟩
  | case4 engine outcome ih =>
    rintro first rfl hwake
    obtain ⟨rounds, hrounds, hstops⟩ := ih (first.andThen outcome) rfl rfl
    have hround : round page first = some (first.andThen outcome) := by
      simp only [round, hwake]
      rfl
    rw [andThen_assoc] at hrounds hstops
    exact ⟨rounds + 1, .next hround hrounds, hstops⟩

/-- What is true of each outcome on the way of the driver. -/
structure Driven (page : Page N S) (first outcome : Outcome S N κ) : Prop where
  announces : Announces outcome
  balances : Balances outcome first.engine.owed
  waits : outcome.wake = some .documentReady →
    page.isLoading = true ∨ first.wake = some .documentReady

omit [DecidableEq N] [Clock κ] in
/-- A call that answers the last wake-up goes on with what is true on the way. -/
theorem Driven.andThen {first outcome : Outcome S N κ} (h : Driven page first outcome)
    {answer : Outcome S N κ} (hannounces : Announces answer)
    (hbalances : Balances answer outcome.engine.owed) (hwaits : WaitsForReading page answer) :
    Driven page first (outcome.andThen answer) := by
  refine ⟨hannounces, ?_, fun hwake => .inl (hwaits hwake)⟩
  show completions (outcome.effects ++ answer.effects) + answer.engine.owed = first.engine.owed
  rw [completions_append, Nat.add_assoc, show completions answer.effects + answer.engine.owed =
    outcome.engine.owed from hbalances]
  exact h.balances

/-- **A round keeps what is true on the way.** -/
theorem Driven.round {first outcome next : Outcome S N κ} (h : Driven page first outcome)
    (hround : Engine.round page outcome = some next) : Driven page first next := by
  have hawaited := h.announces
  unfold Engine.round at hround
  split at hround
  · cases hround
  · cases hround
  · rename_i delay hwake
    obtain rfl := Option.some.inj hround
    rw [Announces, hwake] at hawaited
    let slept := { outcome.engine with clock := Clock.sleep outcome.engine.clock delay }
    have hbalances : Balances (.after [.note (.sleeping delay)] (slept.timerFired page))
        outcome.engine.owed := timerFired_balances.after rfl
    refine h.andThen ?_ hbalances (fun hwake => timerFired_waits hwake)
    cases answered_timerFired page slept with
    | moved _ hannounces _ => exact hannounces
    | still hother _ _ => exact absurd hawaited hother
  · rename_i hwake
    obtain rfl := Option.some.inj hround
    rw [Announces, hwake] at hawaited
    refine h.andThen ?_ resume_balances resume_waits
    cases answered_resume page outcome.engine with
    | moved _ hannounces _ => exact hannounces
    | still hother _ _ => exact absurd hawaited hother

/-- What is true at the start is true on the whole way. -/
theorem Driven.rounds {start first last : Outcome S N κ} {rounds : Nat}
    (h : Driven page start first) (hrounds : Rounds page rounds first last) :
    Driven page start last := by
  induction hrounds with
  | none => exact h
  | next hround _ ih => exact ih (h.round hround)

/-- The items that the run of an engine has left; none, if there is no run. -/
def itemsLeft (page : Page N S) (engine : Engine S N κ) : List (Item N) :=
  match engine.phase with
  | .running run _ => run.itemsLeft page
  | _ => []

/-- The driver has come from one outcome to the other, and stops there. -/
structure DrivesTo (page : Page N S) (first last : Outcome S N κ) : Prop where
  finitely : ∃ rounds, Rounds page rounds first last
  stops : (last.wake = none ∧ last.engine.phase = .idle) ∨
    last.wake = some .documentReady ∧ (∃ request, last.engine.phase = .awaitingReady request) ∧
      (page.isLoading = true ∨ first.wake = some .documentReady)
  completes : completions last.effects + last.engine.owed = first.engine.owed
  few : first.engine.owed ≤ 2
  advances : ∀ rounds between, Rounds page rounds first between →
    between.wake = some .resume → Advances page between.engine

end Engine

namespace Hosted

open Engine

variable [Clock κ]

/-- A host that has made its calls and is going to follow what is outstanding. -/
def outcome (hosted : Hosted S N κ) : Outcome S N κ :=
  { engine := hosted.engine, wake := hosted.outstanding.head?, effects := [] }

omit [DecidableEq N] [Clock κ] in
theorem Tallies.announces {hosted : Hosted S N κ} (h : hosted.Tallies) :
    Announces hosted.outcome := by
  show hosted.engine.awaited = hosted.outstanding.head?.map Wake.call
  have hhead := congrArg List.head? h
  rw [List.head?_map] at hhead
  rw [hhead]
  cases hosted.engine.awaited <;> rfl

/--
**Driving comes to an end**, after any history, on a page that stays as it is, with any clock
and any settings.  The engine is idle then, or waits for a document that is being read or
was waited for already.  The runs that were completed are those that are no longer owed, two
at most.  Every slice completes its run or takes items, unless it takes no more than to find
out that the current evaluation has none.
-/
theorem drive_ends (config : Config) (clock : κ) (events : List (Event S N κ))
    (page : Page N S) :
    let hosted : Hosted S N κ := (Hosted.new config clock).meetAll events
    DrivesTo page hosted.outcome (hosted.engine.drive page hosted.outstanding.head?) := by
  intro hosted
  have hstart : Driven page hosted.outcome hosted.outcome :=
    ⟨(tallies_meetAll config clock events).announces, Nat.zero_add _, .inr⟩
  obtain ⟨rounds, hrounds, hstops⟩ :=
    rounds_drive page hosted.engine hosted.outstanding.head? hosted.outcome rfl rfl
  have hlast : hosted.outcome.andThen (hosted.engine.drive page hosted.outstanding.head?) =
      hosted.engine.drive page hosted.outstanding.head? := by
    simp [Outcome.andThen, outcome]
  rw [hlast] at hrounds hstops
  have hdriven := hstart.rounds hrounds
  refine ⟨⟨rounds, hrounds⟩, ?_, hdriven.balances, owed_le_two _,
    fun steps between hsteps hwake => ?_⟩
  · have hawaited := hdriven.announces
    have hwaits := hdriven.waits
    unfold Announces at hawaited
    unfold Engine.round at hstops
    split at hstops
    · rename_i hwake
      rw [hwake] at hawaited
      exact .inl ⟨hwake, awaited_eq_none hawaited⟩
    · rename_i hwake
      rw [hwake] at hawaited
      exact .inr ⟨hwake, awaited_documentReady.mp hawaited, hwaits hwake⟩
    · cases hstops
    · cases hstops
  · have hbetween := (hstart.rounds hsteps).announces
    rw [Announces, hwake] at hbetween
    obtain ⟨run, queued, hphase⟩ := awaited_resume.mp hbetween
    exact resume_advances hphase

set_option maxRecDepth 20000 in
/-- A slice has the time for one pull, and finds out that no items are left. -/
theorem slice_without_items :
    let config : Config := ⟨.zero, .zero, false, .never⟩
    let start : Hosted Nat Nat ManualClock := .new config (.ticking (.ofMilliseconds 1))
    let hosted := start.meetAll
      [.called boxDocument.page (.apply [⟨"div", "boxes"⟩]), .called boxDocument.page .resume]
    let resumed := hosted.engine.resume boxDocument.page
    hosted.outstanding = [.resume] ∧ hosted.engine.itemsLeft boxDocument.page = [] ∧
      completions resumed.effects = 0 ∧ resumed.wake = some .resume := by
  cbv

end Hosted

end CosmeticFilter
