/-
At most one wake-up is under way.

A host keeps the wake-ups that its calls return, and delivers each of them at some time;
`Hosted` is an engine together with the wake-ups that have been returned and not been
delivered yet.  Whatever is called in whichever order, wake-ups that nobody asked for
included, there is one outstanding wake-up while the engine waits for something, it is the
one that the engine waits for, and there is none while the engine is idle.

A call either finds the engine waiting for something else and then returns no wake-up, or
nothing is outstanding any more when it returns one.  `Answered` are these two cases, and
the bookkeeping of the host follows from them one event at a time.
-/
import CosmeticFilter.Proofs.Waking

namespace CosmeticFilter

variable {S N κ : Type}

namespace Wake

/-- The call delivers the wake-up. -/
def isDeliveredBy : Wake → Call S N → Bool
  | .timer _, .timerFired | .documentReady, .documentReady | .resume, .resume => true
  | _, _ => false

theorem isDeliveredBy_iff {wake : Wake} {call : Call S N} :
    wake.isDeliveredBy call = true ↔ wake.call = call := by
  cases wake <;> cases call <;> simp [isDeliveredBy, Wake.call]

end Wake

/-- An engine, and the wake-ups that it has returned and that it has not been called for since. -/
structure Hosted (S N κ : Type) where
  engine : Engine S N κ
  outstanding : List Wake

namespace Hosted

variable [DecidableEq N] [Clock κ]

/-- A new engine; nothing is outstanding. -/
def new (config : Config) (clock : κ) : Hosted S N κ :=
  ⟨.new config clock, []⟩

/-- The wake-ups that are outstanding while a call is made, which delivers one of them at most. -/
def outstandingIn (hosted : Hosted S N κ) (call : Call S N) : List Wake :=
  hosted.outstanding.eraseP (·.isDeliveredBy call)

/-- The host after an event; a wake-up that is returned becomes outstanding. -/
def meet (hosted : Hosted S N κ) (event : Event S N κ) : Hosted S N κ where
  engine := (hosted.engine.meet event).engine
  outstanding :=
    match event with
    | .called page call =>
      hosted.outstandingIn call ++ (hosted.engine.call page call).wake.toList
    | .configured _ | .clockMoved _ => hosted.outstanding

def meetAll (hosted : Hosted S N κ) (events : List (Event S N κ)) : Hosted S N κ :=
  events.foldl meet hosted

/-- What is outstanding, and what waits for it, in each phase. -/
def Attended (hosted : Hosted S N κ) : Prop :=
  match hosted.engine.phase with
  | .idle => hosted.engine.queued = none ∧ hosted.outstanding = []
  | .debouncing request =>
    hosted.engine.queued = some request ∧ ∃ delay, hosted.outstanding = [.timer delay]
  | .awaitingReady request =>
    hosted.engine.queued = some request ∧ hosted.outstanding = [.documentReady]
  | .running _ _ => hosted.outstanding = [.resume]

end Hosted

/-! ### Single calls -/

namespace Engine

variable [DecidableEq N] [Clock κ]

/-- What a call may find and do, as far as wake-ups are concerned. -/
inductive Answered (engine : Engine S N κ) (call : Call S N) (outcome : Outcome S N κ) : Prop
  /-- Nothing or just this call was waited for, and the answer tells what is from now on. -/
  | moved (hfree : engine.awaited = none ∨ engine.awaited = some call)
      (hannounces : Announces outcome)
      (hagain : engine.awaited = some call → outcome.engine.awaited = some call → call = .resume)
  /-- The engine waits for something else, or for nothing, and goes on to do so. -/
  | still (hother : engine.awaited ≠ some call) (hwake : outcome.wake = none)
      (hsame : outcome.engine.awaited = engine.awaited)

theorem answered_request (page : Page N S) {engine : Engine S N κ} {call : Call S N}
    (hother : engine.awaited ≠ some call) (request : Request S N) :
    Answered engine call (engine.request page request) := by
  unfold Engine.request
  cases hphase : engine.phase with
  | idle =>
    refine .moved (.inl (by simp [awaited, hphase])) (announces_takeUp page engine request) ?_
    exact fun h => absurd h hother
  | debouncing waiting => exact .still hother rfl (by simp [awaited, hphase, Outcome.quiet])
  | awaitingReady waiting => exact .still hother rfl (by simp [awaited, hphase, Outcome.quiet])
  | running run queued => exact .still hother rfl (by simp [awaited, hphase, Outcome.quiet])

omit [DecidableEq N] [Clock κ] in
theorem awaited_timerFired {engine : Engine S N κ} :
    engine.awaited = some .timerFired ↔ ∃ request, engine.phase = .debouncing request := by
  cases hphase : engine.phase <;> simp [awaited, hphase]

omit [DecidableEq N] [Clock κ] in
theorem awaited_documentReady {engine : Engine S N κ} :
    engine.awaited = some .documentReady ↔ ∃ request, engine.phase = .awaitingReady request := by
  cases hphase : engine.phase <;> simp [awaited, hphase]

omit [DecidableEq N] [Clock κ] in
theorem awaited_resume {engine : Engine S N κ} :
    engine.awaited = some .resume ↔ ∃ run queued, engine.phase = .running run queued := by
  cases hphase : engine.phase <;> simp [awaited, hphase]

omit [DecidableEq N] [Clock κ] in
/-- Only wake-ups are waited for. -/
theorem exists_wake_of_awaited {engine : Engine S N κ} {call : Call S N}
    (h : engine.awaited = some call) : ∃ wake : Wake, wake.call = call := by
  unfold awaited at h
  split at h
  · simp at h
  · exact ⟨.timer .zero, Option.some.inj h⟩
  · exact ⟨.documentReady, Option.some.inj h⟩
  · exact ⟨.resume, Option.some.inj h⟩

/-- A delivered timer does not lead to another one: the height is less than that of waiting. -/
theorem answered_timerFired (page : Page N S) (engine : Engine S N κ) :
    Answered engine .timerFired (engine.timerFired page) := by
  unfold timerFired
  split
  · rename_i request hphase
    refine .moved (.inr (awaited_timerFired.mpr ⟨_, hphase⟩))
      (announces_startWhenReady page _ request) fun _ hawaited => ?_
    have hlow := startWhenReady_height page { engine with phase := .idle } request
    obtain ⟨_, hagain⟩ := awaited_timerFired.mp hawaited
    simp [height, hagain] at hlow
  · rename_i hphase
    exact .still (fun h => (awaited_timerFired.mp h).elim hphase) rfl rfl

theorem answered_documentReady (page : Page N S) (engine : Engine S N κ) :
    Answered engine .documentReady (engine.documentReady page) := by
  unfold documentReady
  split
  · rename_i request hphase
    refine .moved (.inr (awaited_documentReady.mpr ⟨_, hphase⟩))
      (announces_startRun page _ request) fun _ hawaited => ?_
    have hlow := startRun_height page { engine with phase := .idle } request
    obtain ⟨_, hagain⟩ := awaited_documentReady.mp hawaited
    simp [height, hagain] at hlow
  · rename_i hphase
    exact .still (fun h => (awaited_documentReady.mp h).elim hphase) rfl rfl

theorem answered_resume (page : Page N S) (engine : Engine S N κ) :
    Answered engine .resume (engine.resume page) := by
  unfold resume
  split
  · rename_i run queued hphase
    refine .moved (.inr (awaited_resume.mpr ⟨_, _, hphase⟩)) ?_ fun _ _ => rfl
    refine announces_workOn page engine run queued fun finished hidle => ?_
    cases queued with
    | none => exact announces_quiet hidle
    | some request => exact announces_takeUp page finished request
  · rename_i hphase
    refine .still (fun h => ?_) rfl rfl
    obtain ⟨run, queued, hrunning⟩ := awaited_resume.mp h
    exact hphase run queued hrunning

/-- **No wake-up is lost or doubled**: a call that returns one was made while nothing or just
the call was waited for, and what is waited for afterwards is what has been returned. -/
theorem answered_call (page : Page N S) (engine : Engine S N κ) (call : Call S N) :
    Answered engine call (engine.call page call) := by
  have hasked : ∀ call : Call S N, (∀ wake : Wake, wake.call ≠ call) →
      engine.awaited ≠ some call := by
    intro call hno hawaited
    obtain ⟨wake, hwake⟩ := exists_wake_of_awaited hawaited
    exact hno wake hwake
  cases call with
  | apply sources =>
    have hother := hasked (.apply sources) (by rintro (_ | _ | _) <;> simp [Wake.call])
    show Answered engine _ (engine.apply page sources)
    unfold apply
    simp only
    split
    · exact .still hother rfl rfl
    · -- Registering patterns does not change what is waited for.
      let registered : Engine S N κ := { engine with
        patterns := (registration engine.nextSerial sources).1
        nextSerial := engine.nextSerial + (registration engine.nextSerial sources).1.length }
      have hregistered : registered.awaited ≠ some (.apply sources) := hother
      cases answered_request page hregistered .full with
      | moved hfree hannounces hagain => exact .moved hfree hannounces hagain
      | still _ hwake hsame => exact .still hother hwake hsame
  | request request =>
    exact answered_request page
      (hasked (.request request) (by rintro (_ | _ | _) <;> simp [Wake.call])) request
  | changed changes =>
    have hother := hasked (.changed changes) (by rintro (_ | _ | _) <;> simp [Wake.call])
    show Answered engine _ (engine.changed page changes)
    unfold changed
    split
    · exact .still hother rfl rfl
    · exact answered_request page hother _
  | sheetLoaded sheet =>
    have hother := hasked (.sheetLoaded sheet) (by rintro (_ | _ | _) <;> simp [Wake.call])
    show Answered engine _ (engine.sheetLoaded page sheet)
    unfold sheetLoaded
    split
    · exact .still hother rfl rfl
    · exact answered_request page hother _
  | timerFired => exact answered_timerFired page engine
  | documentReady => exact answered_documentReady page engine
  | resume => exact answered_resume page engine

/-- A wake-up that is not waited for leaves everything as it is. -/
theorem call_of_stray (page : Page N S) {engine : Engine S N κ} {wake : Wake}
    (h : engine.awaited ≠ some wake.call) :
    (engine.call page wake.call).wake = none ∧ (engine.call page wake.call).engine = engine := by
  cases wake with
  | timer delay =>
    show (engine.timerFired page).wake = none ∧ (engine.timerFired page).engine = engine
    unfold timerFired
    split
    · exact absurd (awaited_timerFired.mpr ⟨_, ‹_›⟩) h
    · exact ⟨rfl, rfl⟩
  | documentReady =>
    show (engine.documentReady page).wake = none ∧ (engine.documentReady page).engine = engine
    unfold documentReady
    split
    · exact absurd (awaited_documentReady.mpr ⟨_, ‹_›⟩) h
    · exact ⟨rfl, rfl⟩
  | resume =>
    show (engine.resume page).wake = none ∧ (engine.resume page).engine = engine
    unfold resume
    split
    · exact absurd (awaited_resume.mpr ⟨_, _, ‹_›⟩) h
    · exact ⟨rfl, rfl⟩

omit [DecidableEq N] [Clock κ] in
/-- A call returns a wake-up exactly if the engine waits for it from then on, and did not do so
before, or has been called for another slice. -/
theorem Answered.wake_iff {engine : Engine S N κ} {call : Call S N} {outcome : Outcome S N κ}
    (h : Answered engine call outcome) (awaited : Call S N) :
    outcome.wake.map Wake.call = some awaited ↔
      outcome.engine.awaited = some awaited ∧
        (engine.awaited ≠ some awaited ∨ engine.awaited = some .resume ∧ call = .resume) := by
  cases h with
  | moved hfree hannounces hagain =>
    rw [← hannounces]
    refine ⟨fun hnow => ⟨hnow, ?_⟩, And.left⟩
    by_cases hbefore : engine.awaited = some awaited
    · rcases hfree with hnone | hsome
      · simp [hnone] at hbefore
      · obtain rfl : call = awaited := Option.some.inj (hsome.symm.trans hbefore)
        obtain rfl := hagain hbefore hnow
        exact .inr ⟨hbefore, rfl⟩
    · exact .inl hbefore
  | still hother hwake hsame =>
    rw [hwake, hsame]
    constructor
    · simp
    · rintro ⟨hnow, hnew | ⟨hresume, rfl⟩⟩
      · exact absurd hnow hnew
      · exact absurd hresume hother

end Engine

/-! ### Histories -/

namespace Hosted

open Engine

variable [DecidableEq N] [Clock κ]

/-- What is outstanding is what the engine waits for. -/
def Tallies (hosted : Hosted S N κ) : Prop :=
  hosted.outstanding.map Wake.call = (hosted.engine.awaited.toList : List (Call S N))

section Calls

variable {hosted : Hosted S N κ} {call : Call S N}

omit [DecidableEq N] [Clock κ] in
/-- Once what is waited for has been delivered, nothing is outstanding. -/
theorem Tallies.outstandingIn_eq_nil (h : hosted.Tallies)
    (hfree : hosted.engine.awaited = none ∨ hosted.engine.awaited = some call) :
    hosted.outstandingIn call = [] := by
  unfold Tallies at h
  unfold outstandingIn
  rcases hfree with hnone | hsome
  · rw [hnone, Option.toList_none, List.map_eq_nil_iff] at h
    rw [h, List.eraseP_nil]
  · rw [hsome, Option.toList_some, List.map_eq_singleton_iff] at h
    obtain ⟨wake, houtstanding, hwake⟩ := h
    simp [houtstanding, Wake.isDeliveredBy_iff.mpr hwake]

omit [DecidableEq N] [Clock κ] in
/-- A call that is not waited for delivers nothing. -/
theorem Tallies.outstandingIn_eq_self (h : hosted.Tallies)
    (hother : hosted.engine.awaited ≠ some call) :
    hosted.outstandingIn call = hosted.outstanding := by
  refine List.eraseP_of_forall_not fun wake hwake hdelivered => hother ?_
  have hmem : wake.call ∈ hosted.engine.awaited.toList := h ▸ List.mem_map_of_mem hwake
  rw [← Wake.isDeliveredBy_iff.mp hdelivered]
  exact Option.mem_toList.mp hmem

theorem Tallies.called (h : hosted.Tallies) (page : Page N S) :
    (hosted.meet (.called page call)).Tallies := by
  show (hosted.outstandingIn call ++ (hosted.engine.call page call).wake.toList).map Wake.call =
    (hosted.engine.call page call).engine.awaited.toList
  cases answered_call page hosted.engine call with
  | moved hfree hannounces =>
    rw [h.outstandingIn_eq_nil hfree, List.nil_append, hannounces, Option.toList_map]
  | still hother hwake hsame =>
    rw [h.outstandingIn_eq_self hother, hwake, hsame, Option.toList_none, List.append_nil]
    exact h

end Calls

theorem Tallies.meet {hosted : Hosted S N κ} (h : hosted.Tallies) (event : Event S N κ) :
    (hosted.meet event).Tallies := by
  cases event with
  | called page call => exact h.called page
  | configured config => exact h
  | clockMoved clock => exact h

theorem tallies_meetAll (config : Config) (clock : κ) (events : List (Event S N κ)) :
    ((Hosted.new config clock).meetAll events).Tallies := by
  have hall : ∀ hosted : Hosted S N κ, hosted.Tallies → (hosted.meetAll events).Tallies := by
    induction events with
    | nil => exact fun hosted h => h
    | cons event more ih => exact fun hosted h => ih _ (h.meet event)
  exact hall _ rfl

omit [DecidableEq N] [Clock κ] in
theorem Tallies.attended {hosted : Hosted S N κ} (h : hosted.Tallies) : hosted.Attended := by
  unfold Tallies at h
  unfold Attended
  cases hphase : hosted.engine.phase with
  | idle =>
    rw [awaited, hphase] at h
    exact ⟨by simp [queued, hphase], List.map_eq_nil_iff.mp h⟩
  | debouncing request =>
    rw [awaited, hphase] at h
    obtain ⟨wake, houtstanding, hwake⟩ := List.map_eq_singleton_iff.mp h
    cases wake with
    | timer delay => exact ⟨by simp [queued, hphase], delay, houtstanding⟩
    | documentReady | resume => simp [Wake.call] at hwake
  | awaitingReady request =>
    rw [awaited, hphase] at h
    obtain ⟨wake, houtstanding, hwake⟩ := List.map_eq_singleton_iff.mp h
    cases wake with
    | documentReady => exact ⟨by simp [queued, hphase], houtstanding⟩
    | timer | resume => simp [Wake.call] at hwake
  | running run queued =>
    rw [awaited, hphase] at h
    obtain ⟨wake, houtstanding, hwake⟩ := List.map_eq_singleton_iff.mp h
    cases wake with
    | resume => exact houtstanding
    | timer | documentReady => simp [Wake.call] at hwake

/--
**One wake-up is outstanding while the engine waits, and none while it is idle**, after any
history.  The next call returns a wake-up exactly if it makes the engine wait for it, or was
made for another slice of a run and leaves one to be made; nothing else is outstanding then.
A wake-up that is delivered while the engine does not wait for it is ignored.
-/
theorem wakeUps_attended (config : Config) (clock : κ) (events : List (Event S N κ)) :
    let hosted : Hosted S N κ := (Hosted.new config clock).meetAll events
    hosted.Attended ∧
      ∀ (page : Page N S) (call : Call S N),
        let outcome := hosted.engine.call page call
        (outcome.wake.isSome → hosted.outstandingIn call = []) ∧
          (∀ awaited, outcome.wake.map Wake.call = some awaited ↔
            outcome.engine.awaited = some awaited ∧
              (hosted.engine.awaited ≠ some awaited ∨
                hosted.engine.awaited = some .resume ∧ call = .resume)) ∧
          ∀ wake : Wake, wake.call = call → hosted.engine.awaited ≠ some call →
            outcome.wake = none ∧ outcome.engine = hosted.engine ∧
              hosted.outstandingIn call = hosted.outstanding := by
  intro hosted
  have htallies : hosted.Tallies := tallies_meetAll config clock events
  refine ⟨htallies.attended, fun page call => ?_⟩
  have hanswered := answered_call page hosted.engine call
  refine ⟨fun hwake => ?_, hanswered.wake_iff, ?_⟩
  · cases hanswered with
    | moved hfree => exact htallies.outstandingIn_eq_nil hfree
    | still _ hnone => simp [hnone] at hwake
  · rintro wake rfl hother
    obtain ⟨hwake, hengine⟩ := call_of_stray page hother
    exact ⟨hwake, hengine, htallies.outstandingIn_eq_self hother⟩

end Hosted

end CosmeticFilter
