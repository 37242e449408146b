/-
The diary of an engine.

A call has its moments: the run of a request begins or ends, or a request is told to wait.
Each of them goes with a reading of the clock, which the answer to the call does not show.
So the moments of a call are told once more beside it, with their readings, and those of a
history make up its diary.  Where the answer does show them the diary agrees with it: the
requests that were begun, the end of the last run, and the timers that are wanted.  And the
reading with which a run is noted to begin is the one from which its first slice is measured.

A clock that is read moves on by itself.  One that goes forward shows at no reading less
than at the one before.
-/
import CosmeticFilter.Proofs.Moves
import CosmeticFilter.Proofs.Waking

namespace CosmeticFilter

variable {S N κ : Type}

/-- What happens in the course of a call, with the reading of the clock that goes with it. -/
inductive Moment (S N : Type) where
  /-- A request has to wait for so long, as of the reading. -/
  | deferred (delay reading : Span)
  /-- The run of a request begins. -/
  | began (request : Request S N) (start : Span)
  /-- A run is completed. -/
  | ended (last : Span)

namespace Moment

/-- The request whose run begins. -/
def begun? : Moment S N → Option (Request S N)
  | began request _ => some request
  | _ => none

/-- The time at which a run ends. -/
def ended? : Moment S N → Option Span
  | ended last => some last
  | _ => none

/-- The delay of a request, and the reading from which it counts. -/
def deferral? : Moment S N → Option (Span × Span)
  | deferred delay reading => some (delay, reading)
  | _ => none

end Moment

/-! ### Clocks that go forward -/

namespace Clock

variable [Clock κ]

/-- The clock after some readings. -/
def reread : Nat → κ → κ
  | 0, clock => clock
  | readings + 1, clock => reread readings (Clock.now clock).2

/-- No later reading of the clock shows less. -/
def Forward (clock : κ) : Prop :=
  ∀ readings, (Clock.now (reread readings clock)).1 ≤ (Clock.now (reread (readings + 1) clock)).1

/-- Readings lead from one clock to the other. -/
def Reaches (clock later : κ) : Prop :=
  ∃ readings, later = reread readings clock

theorem reread_add (first more : Nat) (clock : κ) :
    reread (first + more) clock = reread more (reread first clock) := by
  induction first generalizing clock with
  | zero => rw [Nat.zero_add, reread]
  | succ first ih =>
    rw [Nat.succ_add, reread, reread]
    exact ih _

theorem Reaches.refl (clock : κ) : Reaches clock clock := ⟨0, rfl⟩

theorem Reaches.next {clock later : κ} (h : Reaches clock later) :
    Reaches clock (Clock.now later).2 := by
  obtain ⟨readings, rfl⟩ := h
  exact ⟨readings + 1, by rw [reread_add]; rfl⟩

theorem Reaches.trans {clock later last : κ} (h : Reaches clock later)
    (hlast : Reaches later last) : Reaches clock last := by
  obtain ⟨readings, rfl⟩ := h
  obtain ⟨more, rfl⟩ := hlast
  exact ⟨readings + more, by rw [reread_add]⟩

theorem Forward.reaches {clock later : κ} (h : Forward clock) (hlater : Reaches clock later) :
    Forward later := by
  obtain ⟨readings, rfl⟩ := hlater
  intro more
  rw [← reread_add, ← reread_add]
  exact h (readings + more)

theorem Forward.le {clock later : κ} (h : Forward clock) (hlater : Reaches clock later) :
    (Clock.now clock).1 ≤ (Clock.now later).1 := by
  obtain ⟨readings, rfl⟩ := hlater
  induction readings with
  | zero => exact Nat.le_refl _
  | succ readings ih => exact Nat.le_trans ih (h readings)

end Clock

/-! ### Slices read the clock -/

namespace Run

open Clock

variable [DecidableEq N] [Clock κ]

theorem evaluate_reaches (slice : Slice N S) (candidate : Candidate N) (e : Evaluation N)
    (tally : Tally N κ) : Reaches tally.clock (evaluate slice candidate e tally).2.clock := by
  fun_induction evaluate slice candidate e tally with
  | case1 | case2 => exact (Reaches.refl _).next
  | case3 e tally pulled entered hover item hitem ih => exact (Reaches.refl _).next.trans ih

theorem evaluateAll_reaches (slice : Slice N S) (candidates : List (Candidate N))
    (tally : Tally N κ) : Reaches tally.clock (evaluateAll slice candidates tally).2.clock := by
  fun_induction evaluateAll slice candidates tally with
  | case1 tally => exact Reaches.refl _
  | case2 candidate waiting tally later hlater ih =>
    have hfirst := evaluate_reaches slice candidate (slice.begin candidate) tally
    rw [hlater] at hfirst
    exact hfirst.trans ih
  | case3 candidate waiting tally state later hlater =>
    have hfirst := evaluate_reaches slice candidate (slice.begin candidate) tally
    rwa [hlater] at hfirst

theorem proceed_reaches (slice : Slice N S) (run : Run N) (tally : Tally N κ) :
    Reaches tally.clock (proceed slice run tally).2.clock := by
  unfold proceed
  split
  · exact evaluateAll_reaches slice _ tally
  · rename_i candidate evaluation _
    have hfirst := evaluate_reaches slice candidate evaluation tally
    split
    · rename_i later hlater
      rw [hlater] at hfirst
      exact hfirst.trans (evaluateAll_reaches slice _ later)
    · rename_i state later hlater
      rwa [hlater] at hfirst

theorem slice_reaches (page : Page N S) (config : Config) (run : Run N) (clock : κ) :
    Reaches clock (run.slice page config clock).2.2.1 := by
  have hproceed := proceed_reaches ⟨page, config, run.styles, (Clock.now clock).1⟩ run
    (⟨run.findings, (Clock.now clock).2, []⟩ : Tally N κ)
  unfold slice sliceFrom
  simp only
  split <;> exact (Reaches.refl clock).next.trans hproceed

end Run

/-! ### Moments of calls -/

namespace Engine

open Clock

variable [DecidableEq N] [Clock κ]

/-- What the clock shows when it is read next. -/
def time (engine : Engine S N κ) : Span :=
  (Clock.now engine.clock).1

/-- The end of a run that does not want to be gone on with. -/
def endMoments (outcome : Outcome S N κ) : List (Moment S N) :=
  match outcome.wake with
  | none => outcome.engine.lastRunEnd.toList.map .ended
  | some _ => []

/-- The moments of a run that is started. -/
def startMoments (page : Page N S) (engine : Engine S N κ) (request : Request S N) :
    List (Moment S N) :=
  .began request engine.time :: endMoments (engine.startRun page request)

/-- The moments of a run that is started unless the document is still being read. -/
def readyMoments (page : Page N S) (engine : Engine S N κ) (request : Request S N) :
    List (Moment S N) :=
  if page.isLoading then [] else engine.startMoments page request

/-- The moments of a request that is taken up. -/
def takeUpMoments (page : Page N S) (engine : Engine S N κ) (request : Request S N) :
    List (Moment S N) :=
  match engine.delay? engine.time with
  | some delay => [.deferred delay engine.time]
  | none => { engine with clock := (Clock.now engine.clock).2 }.readyMoments page request

/-- The moments of a request. -/
def requestMoments (page : Page N S) (engine : Engine S N κ) (request : Request S N) :
    List (Moment S N) :=
  match engine.phase with
  | .idle => engine.takeUpMoments page request
  | _ => []

/-- The moments of going on with a run: it may end, and what is queued is then taken up. -/
def resumeMoments (page : Page N S) (engine : Engine S N κ) : List (Moment S N) :=
  match engine.phase with
  | .running _ queued =>
    let sliced := engine.slice page
    endMoments sliced ++
      match sliced.wake, queued with
      | none, some request => sliced.engine.takeUpMoments page request
      | _, _ => []
  | _ => []

/-- The moments of a call. -/
def moments (page : Page N S) (engine : Engine S N κ) : Call S N → List (Moment S N)
  | .apply sources =>
    let given := engine.given sources
    if given.patterns.isEmpty then [] else given.requestMoments page .full
  | .request request => engine.requestMoments page request
  | .changed changes =>
    if engine.patterns.isEmpty || changes.isEmpty then []
    else engine.requestMoments page (.partly [] changes)
  | .sheetLoaded sheet =>
    if engine.patterns.isEmpty then [] else engine.requestMoments page (.partly [sheet] [])
  | .timerFired =>
    match engine.phase with
    | .debouncing request => { engine with phase := .idle }.readyMoments page request
    | _ => []
  | .documentReady =>
    match engine.phase with
    | .awaitingReady request => { engine with phase := .idle }.startMoments page request
    | _ => []
  | .resume => engine.resumeMoments page

/-- The moments of an event; only calls have any. -/
def eventMoments (engine : Engine S N κ) : Event S N κ → List (Moment S N)
  | .called page call => engine.moments page call
  | .configured _ | .clockMoved _ => []

/-- The moments of a history, in order. -/
def diary : Engine S N κ → List (Event S N κ) → List (Moment S N)
  | _, [] => []
  | engine, event :: more =>
    engine.eventMoments event ++ diary (engine.meet event).engine more

theorem diary_concat (engine : Engine S N κ) (events : List (Event S N κ))
    (event : Event S N κ) :
    engine.diary (events ++ [event]) =
      engine.diary events ++ (engine.meetAll events).engine.eventMoments event := by
  induction events generalizing engine with
  | nil => simp [diary, meetAll, Outcome.quiet]
  | cons first more ih =>
    have hmore := meetAll_append engine [first] more
    rw [List.cons_append, List.nil_append] at hmore
    rw [List.cons_append, diary, ih, diary, hmore, List.append_assoc]
    rfl

/-! ### The diary and the answers -/

/-- An engine that has worked on a run wants to go on with it, or has noted its end. -/
inductive Worked (page : Page N S) (engine : Engine S N κ) (queued : Option (Request S N))
    (outcome : Outcome S N κ) : Prop
  | suspended (run : Run N) (hwake : outcome.wake = some .resume)
      (hphase : outcome.engine.phase = .running run queued)
      (hend : outcome.engine.lastRunEnd = engine.lastRunEnd)
      (hclock : Reaches engine.clock outcome.engine.clock)
  | completed (clock : κ) (hwake : outcome.wake = none)
      (hphase : outcome.engine.phase = .idle)
      (hend : outcome.engine.lastRunEnd = some (Clock.now clock).1)
      (hread : Reaches engine.clock clock)
      (hclock : outcome.engine.clock = (Clock.now clock).2)

theorem workOn_worked (page : Page N S) (engine : Engine S N κ) (run : Run N)
    (queued : Option (Request S N)) :
    Worked page engine queued (engine.workOn page run queued .quiet) := by
  have hreaches := run.slice_reaches page engine.config engine.clock
  unfold workOn
  simp only
  split
  · exact .completed _ rfl rfl rfl hreaches rfl
  · exact .suspended _ rfl rfl rfl hreaches

theorem startRun_worked (page : Page N S) (engine : Engine S N κ) (request : Request S N) :
    Worked page engine none (engine.startRun page request) := by
  unfold startRun
  simp only
  generalize Run.ofClassification _ _ = run
  cases workOn_worked page engine run none with
  | suspended later hwake hphase hend hclock => exact .suspended later hwake hphase hend hclock
  | completed clock hwake hphase hend hread hclock =>
    exact .completed clock hwake hphase hend hread hclock

omit [DecidableEq N] [Clock κ] in
theorem endMoments_suspended {outcome : Outcome S N κ} {wake : Wake}
    (hwake : outcome.wake = some wake) : endMoments outcome = [] := by
  simp [endMoments, hwake]

omit [DecidableEq N] [Clock κ] in
theorem endMoments_completed {outcome : Outcome S N κ} (hwake : outcome.wake = none) {last : Span}
    (hend : outcome.engine.lastRunEnd = some last) : endMoments outcome = [.ended last] := by
  simp [endMoments, hwake, hend]

/-- The moments of a call tell which runs began, when the last one ended, and of the timer. -/
structure Agrees (engine : Engine S N κ) (moments : List (Moment S N))
    (outcome : Outcome S N κ) : Prop where
  begun : moments.filterMap Moment.begun? = outcome.begun
  last : outcome.engine.lastRunEnd =
    ((moments.filterMap Moment.ended?).getLast?).or engine.lastRunEnd
  timer : ∀ delay, outcome.wake = some (.timer delay) ↔
    ∃ reading, moments.getLast? = some (.deferred delay reading)

omit [DecidableEq N] [Clock κ] in
/-- Nothing begins or ends, and no timer is wanted. -/
theorem Agrees.nil {engine : Engine S N κ} {outcome : Outcome S N κ}
    (hbegun : outcome.begun = []) (hend : outcome.engine.lastRunEnd = engine.lastRunEnd)
    (hwake : ∀ delay, outcome.wake ≠ some (.timer delay)) : Agrees engine [] outcome :=
  ⟨hbegun.symm, hend, fun delay => by simp [hwake delay]⟩

theorem startRun_agrees (page : Page N S) (engine : Engine S N κ) (request : Request S N) :
    Agrees engine (engine.startMoments page request) (engine.startRun page request) := by
  have hbegun : (engine.startRun page request).begun = [request] := rfl
  unfold startMoments
  cases startRun_worked page engine request with
  | suspended run hwake hphase hend hclock =>
    rw [endMoments_suspended hwake]
    exact ⟨hbegun.symm, hend, by simp [hwake]⟩
  | completed clock hwake hphase hend hread hclock =>
    rw [endMoments_completed hwake hend]
    exact ⟨hbegun.symm, hend, by simp [hwake]⟩

theorem startWhenReady_agrees (page : Page N S) (engine : Engine S N κ)
    (request : Request S N) :
    Agrees engine (engine.readyMoments page request) (engine.startWhenReady page request) := by
  unfold readyMoments startWhenReady
  split
  · exact .nil rfl rfl (by simp)
  · exact startRun_agrees page engine request

/-- The request is too early. -/
theorem takeUp_of_delay (page : Page N S) {engine : Engine S N κ} (request : Request S N)
    {delay : Span} (h : engine.delay? engine.time = some delay) :
    engine.takeUpMoments page request = [.deferred delay engine.time] ∧
      engine.takeUp page request =
        { engine := { engine with
            clock := (Clock.now engine.clock).2, phase := .debouncing request }
          wake := some (.timer delay)
          effects := [.note (.deferred delay)] } := by
  have hread : ({ engine with clock := (Clock.now engine.clock).2 } : Engine S N κ).delay?
      (Clock.now engine.clock).1 = some delay := h
  unfold takeUpMoments takeUp
  simp only [h, hread, and_self]

/-- The time for the request has come. -/
theorem takeUp_of_none (page : Page N S) {engine : Engine S N κ} (request : Request S N)
    (h : engine.delay? engine.time = none) :
    let read := { engine with clock := (Clock.now engine.clock).2 }
    engine.takeUpMoments page request = read.readyMoments page request ∧
      engine.takeUp page request = read.startWhenReady page request := by
  have hread : ({ engine with clock := (Clock.now engine.clock).2 } : Engine S N κ).delay?
      (Clock.now engine.clock).1 = none := h
  unfold takeUpMoments takeUp
  simp only [h, hread, and_self]

theorem takeUp_agrees (page : Page N S) (engine : Engine S N κ) (request : Request S N) :
    Agrees engine (engine.takeUpMoments page request) (engine.takeUp page request) := by
  cases hdelay : engine.delay? engine.time with
  | some delay =>
    obtain ⟨hmoments, houtcome⟩ := takeUp_of_delay page request hdelay
    rw [hmoments, houtcome]
    exact ⟨rfl, rfl, by simp⟩
  | none =>
    obtain ⟨hmoments, houtcome⟩ := takeUp_of_none page request hdelay
    rw [hmoments, houtcome]
    have hready := startWhenReady_agrees page
      { engine with clock := (Clock.now engine.clock).2 } request
    exact ⟨hready.begun, hready.last, hready.timer⟩

theorem request_agrees (page : Page N S) (engine : Engine S N κ) (request : Request S N) :
    Agrees engine (engine.requestMoments page request) (engine.request page request) := by
  unfold requestMoments Engine.request
  cases hphase : engine.phase with
  | idle =>
    have htaken := takeUp_agrees page engine request
    exact ⟨htaken.begun, htaken.last, htaken.timer⟩
  | debouncing | awaitingReady | running => exact .nil rfl rfl (by simp [Outcome.quiet])

theorem resume_agrees (page : Page N S) (engine : Engine S N κ) :
    Agrees engine (engine.resumeMoments page) (engine.resume page) := by
  unfold resumeMoments
  cases hphase : engine.phase with
  | idle | debouncing | awaitingReady =>
    exact .nil (by simp [resume, hphase]) (by simp [resume, hphase]) (by simp [resume, hphase])
  | running run queued =>
    have hslice : engine.slice page = engine.workOn page run queued .quiet := by
      simp [slice, hphase]
    have hnone : (engine.slice page).begun = [] := by
      rw [hslice]
      unfold workOn
      simp only
      split <;> rfl
    rw [resume_eq_slice page engine hphase]
    cases hslice ▸ workOn_worked page engine run queued with
    | suspended later hwake _ hend hclock =>
      simp only [hwake, endMoments_suspended hwake, List.append_nil]
      exact .nil hnone hend (by simp [hwake])
    | completed clock hwake _ hend hread hclock =>
      simp only [hwake, endMoments_completed hwake hend]
      cases queued with
      | none => exact ⟨hnone.symm, hend, by simp [hwake]⟩
      | some request =>
        have htaken := takeUp_agrees page (engine.slice page).engine request
        refine ⟨?_, ?_, fun delay => ?_⟩
        · simp only [Outcome.andThen, hnone, ← htaken.begun]
          rfl
        · simp only [Outcome.andThen]
          have hfirst : Moment.ended? (.ended (Clock.now clock).1 : Moment S N) =
              some (Clock.now clock).1 := rfl
          rw [htaken.last, hend, List.singleton_append, List.filterMap_cons_some hfirst,
            List.getLast?_cons, Option.or_some, Option.some_or]
        · simp only [Outcome.andThen]
          rw [htaken.timer, List.singleton_append]
          cases List.eq_nil_or_concat ((engine.slice page).engine.takeUpMoments page request) with
          | inl hnil => simp [hnil]
          | inr hconcat =>
            obtain ⟨before, moment, hconcat⟩ := hconcat
            rw [hconcat, List.concat_eq_append, ← List.cons_append, List.getLast?_concat,
              List.getLast?_concat]

theorem call_agrees (page : Page N S) (engine : Engine S N κ) (call : Call S N) :
    Agrees engine (engine.moments page call) (engine.call page call) := by
  cases call with
  | apply sources =>
    have hrequest := request_agrees page (engine.given sources) .full
    show Agrees engine (if (engine.given sources).patterns.isEmpty then []
      else (engine.given sources).requestMoments page .full)
      (Outcome.after _ (if (engine.given sources).patterns.isEmpty then _ else _))
    by_cases hnone : (engine.given sources).patterns.isEmpty = true
    · rw [if_pos hnone, if_pos hnone]
      exact .nil rfl rfl (by simp [Outcome.after, Outcome.quiet])
    · rw [if_neg hnone, if_neg hnone]
      exact ⟨hrequest.begun, hrequest.last, hrequest.timer⟩
  | request request => exact request_agrees page engine request
  | changed changes =>
    show Agrees engine (if _ then [] else _) (engine.changed page changes)
    unfold changed
    split
    · exact .nil rfl rfl (by simp [Outcome.quiet])
    · exact request_agrees page engine _
  | sheetLoaded sheet =>
    show Agrees engine (if _ then [] else _) (engine.sheetLoaded page sheet)
    unfold sheetLoaded
    split
    · exact .nil rfl rfl (by simp [Outcome.quiet])
    · exact request_agrees page engine _
  | timerFired =>
    unfold Engine.call timerFired moments
    cases hphase : engine.phase with
    | debouncing request =>
      have hready := startWhenReady_agrees page { engine with phase := .idle } request
      exact ⟨hready.begun, hready.last, hready.timer⟩
    | idle | awaitingReady | running => exact .nil rfl rfl (by simp)
  | documentReady =>
    unfold Engine.call documentReady moments
    cases hphase : engine.phase with
    | awaitingReady request =>
      have hstarted := startRun_agrees page { engine with phase := .idle } request
      exact ⟨hstarted.begun, hstarted.last, hstarted.timer⟩
    | idle | debouncing | running => exact .nil rfl rfl (by simp)
  | resume => exact resume_agrees page engine

/-! ### The reading with which a run begins -/

/-- The engine is left behind by a run of the request, started when its clock showed the time. -/
def StartedAt (page : Page N S) (request : Request S N) (start : Span)
    (later : Engine S N κ) : Prop :=
  ∃ before : Engine S N κ, before.time = start ∧ later = (before.startRun page request).engine

/-- **The first slice of a run is measured from the time at which the run was started.** -/
theorem StartedAt.sliced {page : Page N S} {request : Request S N} {start : Span}
    {later : Engine S N κ} (h : StartedAt page request start later) :
    ∃ before : Engine S N κ, before.time = start ∧
      let sliced := (Run.ofRequest page before.patterns request).sliceFrom page before.config start
        (Clock.now before.clock).2
      later = if sliced.1 then
          ({ before with clock := sliced.2.2.1 }.finishRun page sliced.2.1).engine
        else { before with clock := sliced.2.2.1, phase := .running sliced.2.1 none } := by
  obtain ⟨before, rfl, rfl⟩ := h
  refine ⟨before, rfl, ?_⟩
  let run := Run.ofRequest page before.patterns request
  have hsliced : run.slice page before.config before.clock =
      run.sliceFrom page before.config before.time (Clock.now before.clock).2 := rfl
  show (before.workOn page run none .quiet).engine = _
  rw [← hsliced]
  unfold workOn
  by_cases hcompleted : (run.slice page before.config before.clock).1 = true
  · simp only [hcompleted, if_true]
    rfl
  · simp only [hcompleted]
    rfl

omit [DecidableEq N] [Clock κ] in
theorem began_notMem_endMoments (outcome : Outcome S N κ) (request : Request S N)
    (start : Span) : .began request start ∉ endMoments outcome := by
  unfold endMoments
  split <;> simp

theorem startRun_startedAt {page : Page N S} {engine : Engine S N κ}
    {request other : Request S N} {start : Span}
    (h : .began other start ∈ engine.startMoments page request) :
    StartedAt page other start (engine.startRun page request).engine := by
  rcases List.mem_cons.mp h with hbegan | hend
  · obtain ⟨rfl, rfl⟩ := Moment.began.inj hbegan
    exact ⟨engine, rfl, rfl⟩
  · exact absurd hend (began_notMem_endMoments _ _ _)

theorem startWhenReady_startedAt {page : Page N S} {engine : Engine S N κ}
    {request other : Request S N} {start : Span}
    (h : .began other start ∈ engine.readyMoments page request) :
    StartedAt page other start (engine.startWhenReady page request).engine := by
  unfold readyMoments at h
  unfold startWhenReady
  split at h
  · exact absurd h List.not_mem_nil
  · rename_i hloading
    rw [if_neg hloading]
    exact startRun_startedAt h

theorem takeUp_startedAt {page : Page N S} {engine : Engine S N κ}
    {request other : Request S N} {start : Span}
    (h : .began other start ∈ engine.takeUpMoments page request) :
    StartedAt page other start (engine.takeUp page request).engine := by
  cases hdelay : engine.delay? engine.time with
  | some delay =>
    rw [(takeUp_of_delay page request hdelay).1] at h
    simp at h
  | none =>
    obtain ⟨hmoments, houtcome⟩ := takeUp_of_none page request hdelay
    rw [hmoments] at h
    rw [houtcome]
    exact startWhenReady_startedAt h

theorem request_startedAt {page : Page N S} {engine : Engine S N κ}
    {request other : Request S N} {start : Span}
    (h : .began other start ∈ engine.requestMoments page request) :
    StartedAt page other start (engine.request page request).engine := by
  unfold requestMoments at h
  unfold Engine.request
  cases hphase : engine.phase with
  | idle =>
    rw [hphase] at h
    exact takeUp_startedAt h
  | debouncing | awaitingReady | running =>
    rw [hphase] at h
    exact absurd h List.not_mem_nil

theorem resume_startedAt {page : Page N S} {engine : Engine S N κ} {other : Request S N}
    {start : Span} (h : .began other start ∈ engine.resumeMoments page) :
    StartedAt page other start (engine.resume page).engine := by
  unfold resumeMoments at h
  cases hphase : engine.phase with
  | idle | debouncing | awaitingReady =>
    rw [hphase] at h
    exact absurd h List.not_mem_nil
  | running run queued =>
    rw [hphase] at h
    rw [resume_eq_slice page engine hphase]
    have hqueued := (List.mem_append.mp h).resolve_left (began_notMem_endMoments _ _ _)
    split at hqueued
    · rename_i request hwake
      simp only [hwake]
      exact takeUp_startedAt hqueued
    · exact absurd hqueued List.not_mem_nil

/-- A call that notes the beginning of a run has started it at the time that is noted. -/
theorem call_startedAt {page : Page N S} {engine : Engine S N κ} {call : Call S N}
    {request : Request S N} {start : Span} (h : .began request start ∈ engine.moments page call) :
    StartedAt page request start (engine.call page call).engine := by
  cases call with
  | apply sources =>
    simp only [moments] at h
    split at h
    · exact absurd h List.not_mem_nil
    · rename_i hsome
      have hstarted := request_startedAt h
      show StartedAt page request start (Outcome.after _ (if (engine.given sources).patterns.isEmpty
        then _ else _)).engine
      rw [if_neg hsome]
      exact hstarted
  | request asked => exact request_startedAt h
  | changed changes =>
    simp only [moments] at h
    split at h
    · exact absurd h List.not_mem_nil
    · rename_i hsome
      simp only [Engine.call, changed]
      rw [if_neg hsome]
      exact request_startedAt h
  | sheetLoaded sheet =>
    simp only [moments] at h
    split at h
    · exact absurd h List.not_mem_nil
    · rename_i hsome
      simp only [Engine.call, sheetLoaded]
      rw [if_neg hsome]
      exact request_startedAt h
  | timerFired =>
    simp only [moments] at h
    cases hphase : engine.phase with
    | debouncing waiting =>
      rw [hphase] at h
      simp only [Engine.call, timerFired, hphase]
      exact startWhenReady_startedAt h
    | idle | awaitingReady | running =>
      rw [hphase] at h
      exact absurd h List.not_mem_nil
  | documentReady =>
    simp only [moments] at h
    cases hphase : engine.phase with
    | awaitingReady waiting =>
      rw [hphase] at h
      simp only [Engine.call, documentReady, hphase]
      exact startRun_startedAt h
    | idle | debouncing | running =>
      rw [hphase] at h
      exact absurd h List.not_mem_nil
  | resume => exact resume_startedAt h

/-! ### The diary of a history -/

/-- The diary of a history tells which runs began, and when the last one ended. -/
theorem diary_agrees (engine : Engine S N κ) (events : List (Event S N κ)) :
    (engine.diary events).filterMap Moment.begun? = (engine.meetAll events).begun ∧
      (engine.meetAll events).engine.lastRunEnd =
        (((engine.diary events).filterMap Moment.ended?).getLast?).or engine.lastRunEnd := by
  induction events using List.reverseRecOn with
  | nil => exact ⟨rfl, rfl⟩
  | append_singleton events event ih =>
    rw [diary_concat, meetAll_concat, List.filterMap_append, List.filterMap_append]
    obtain ⟨hbegun, hlast⟩ := ih
    cases event with
    | configured | clockMoved =>
      simp only [eventMoments, List.filterMap_nil, List.append_nil]
      exact ⟨hbegun.trans (List.append_nil _).symm, hlast⟩
    | called page call =>
      have hcall := call_agrees page (engine.meetAll events).engine call
      refine ⟨congrArg₂ (· ++ ·) hbegun hcall.begun, ?_⟩
      show ((engine.meetAll events).engine.call page call).engine.lastRunEnd = _
      rw [hcall.last, hlast, List.getLast?_append, Option.or_assoc]
      rfl

end Engine

end CosmeticFilter
