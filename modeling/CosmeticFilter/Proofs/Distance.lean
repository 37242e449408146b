/-
Runs keep their distance.

Only a request that is taken up while nothing else goes on is held against the clock.  It
begins, waits for the document, or waits for a timer, and later calls take it further
without looking at the clock again.  What the comparison has shown stays true on the way,
for the clock goes forward, and a timer that is delivered in time has let pass what was left
until then.

The proof reads the diary from its end: in each phase of the engine the last moments say
what the next one may be.  `Fits` is this for a moment and all those before it, and what
follows for the runs can be read off it.
-/
import CosmeticFilter.Proofs.Diary
import Mathlib

namespace CosmeticFilter

variable {S N κ : Type}

/-! ### What may follow upon what -/

namespace Moment

/--
A run may begin at this time: it is the first one, or the run before it has ended long
enough ago.  In between one request at most had to wait.
-/
def MayBegin (interval : Span) (before : List (Moment S N)) (start : Span) : Prop :=
  before = [] ∨ ∃ earlier last,
    (before = earlier ++ [.ended last] ∨
      ∃ delay reading, before = earlier ++ [.ended last, .deferred delay reading]) ∧
    last + interval ≤ start

/-- The delay is what is left, as of the reading, of the interval after the last run. -/
structure Remainder (interval last delay reading : Span) : Prop where
  since : last ≤ reading
  positive : .zero < delay
  bounded : delay ≤ interval
  exact : delay.nanoseconds = last.nanoseconds + interval.nanoseconds - reading.nanoseconds

/-- The moment may follow upon the moments before it. -/
def Fits (interval : Span) (before : List (Moment S N)) : Moment S N → Prop
  | .began _ start => MayBegin interval before start
  | .deferred delay reading =>
    ∃ earlier last, before = earlier ++ [.ended last] ∧ Remainder interval last delay reading
  | .ended last =>
    ∃ earlier request start, before = earlier ++ [.began request start] ∧ start ≤ last

theorem MayBegin.later {interval : Span} {before : List (Moment S N)} {start later : Span}
    (h : MayBegin interval before start) (hle : start ≤ later) :
    MayBegin interval before later := by
  rcases h with hfirst | ⟨earlier, last, hbefore, hstart⟩
  · exact .inl hfirst
  · exact .inr ⟨earlier, last, hbefore, Nat.le_trans hstart hle⟩

theorem Remainder.sum {interval last delay reading : Span}
    (h : Remainder interval last delay reading) : reading + delay = last + interval := by
  have hpositive : 0 < delay.nanoseconds := h.positive
  have hexact := h.exact
  have hsum : reading.nanoseconds + delay.nanoseconds =
      last.nanoseconds + interval.nanoseconds := by omega
  show Span.mk (min _ _) = Span.mk (min _ _)
  rw [hsum]

end Moment

/-- Every moment of the diary may follow upon those before it. -/
def Paced (interval : Span) (diary : List (Moment S N)) : Prop :=
  ∀ before moment, before ++ [moment] <+: diary → moment.Fits interval before

theorem Paced.nil {interval : Span} : Paced interval ([] : List (Moment S N)) := by
  intro before moment hbefore
  simp at hbefore

theorem Paced.concat {interval : Span} {diary : List (Moment S N)} (h : Paced interval diary)
    {moment : Moment S N} (hmoment : moment.Fits interval diary) :
    Paced interval (diary ++ [moment]) := by
  intro before other hbefore
  rcases List.prefix_concat_iff.mp hbefore with heq | hprefix
  · obtain ⟨rfl, hlast⟩ := List.append_inj' heq rfl
    obtain rfl := List.singleton_inj.mp hlast
    exact hmoment
  · exact h before other hprefix

/-! ### What the phases keep -/

namespace Engine

open Clock

variable [Clock κ] {interval : Span} {diary : List (Moment S N)} {engine other : Engine S N κ}

/-- The diary is paced so far, and the engine remembers the end of the last run in it. -/
structure Steady (interval : Span) (diary : List (Moment S N)) (engine : Engine S N κ) :
    Prop where
  paced : Paced interval diary
  config : engine.config.minInterval = interval
  forward : Forward engine.clock
  last : engine.lastRunEnd = (diary.filterMap Moment.ended?).getLast?

/-- Nothing has happened yet, or the last thing was that a run ended. -/
def Rested (diary : List (Moment S N)) (time : Span) : Prop :=
  diary = [] ∨ ∃ earlier last, diary = earlier ++ [.ended last] ∧ last ≤ time

/-- How the diary ends in each phase. -/
inductive Stage (interval : Span) (diary : List (Moment S N)) (engine : Engine S N κ) : Prop
  | idle (hphase : engine.phase = .idle) (hrested : Rested diary engine.time)
  | debouncing {request : Request S N} (hphase : engine.phase = .debouncing request)
      {earlier : List (Moment S N)} {last delay reading : Span}
      (hdiary : diary = earlier ++ [.ended last, .deferred delay reading])
      (hleft : Moment.Remainder interval last delay reading)
  | awaitingReady {request : Request S N} (hphase : engine.phase = .awaitingReady request)
      (hmay : Moment.MayBegin interval diary engine.time)
  | running {run : Run N} {queued : Option (Request S N)}
      (hphase : engine.phase = .running run queued) {earlier : List (Moment S N)}
      {request : Request S N} {start : Span} (hdiary : diary = earlier ++ [.began request start])
      (hstart : start ≤ engine.time)

/-- A steady engine in one of the stages. -/
structure Keeps (interval : Span) (diary : List (Moment S N)) (engine : Engine S N κ) : Prop
    extends Steady interval diary engine where
  stage : Stage interval diary engine

/-- Readings of the clock make no difference to what is remembered. -/
theorem Steady.reread (h : Steady interval diary engine) (hconfig : other.config = engine.config)
    (hend : other.lastRunEnd = engine.lastRunEnd) (hclock : Reaches engine.clock other.clock) :
    Steady interval diary other :=
  ⟨h.paced, hconfig ▸ h.config, h.forward.reaches hclock, hend.trans h.last⟩

/-- A moment that is no end of a run is added to the diary. -/
theorem Steady.concat (h : Steady interval diary engine) {moment : Moment S N}
    (hmoment : moment.Fits interval diary) (hno : moment.ended? = none) :
    Steady interval (diary ++ [moment]) engine := by
  refine ⟨h.paced.concat hmoment, h.config, h.forward, ?_⟩
  rw [List.filterMap_append, List.filterMap_cons_none hno, List.filterMap_nil, List.append_nil]
  exact h.last

/-- A run that has ended is noted, and its end remembered. -/
theorem Steady.ended (h : Steady interval diary engine) {last : Span}
    (hlast : (Moment.ended last).Fits interval diary) (hconfig : other.config = engine.config)
    (hend : other.lastRunEnd = some last) (hclock : Reaches engine.clock other.clock) :
    Steady interval (diary ++ [.ended last]) other := by
  refine ⟨h.paced.concat hlast, hconfig ▸ h.config, h.forward.reaches hclock, ?_⟩
  have hsome : Moment.ended? (.ended last : Moment S N) = some last := rfl
  rw [List.filterMap_append, List.filterMap_cons_some hsome, List.filterMap_nil,
    List.getLast?_concat, hend]

/-- Only the time makes a difference to the stage, and less so the later it is. -/
theorem Keeps.later (h : Keeps interval diary engine) (hphase : other.phase = engine.phase)
    (hconfig : other.config.minInterval = interval) (hend : other.lastRunEnd = engine.lastRunEnd)
    (hforward : Forward other.clock) (htime : engine.time ≤ other.time) :
    Keeps interval diary other := by
  refine ⟨⟨h.paced, hconfig, hforward, hend.trans h.last⟩, ?_⟩
  cases h.stage with
  | idle hidle hrested =>
    refine .idle (hphase.trans hidle) (hrested.imp_right ?_)
    rintro ⟨earlier, last, hdiary, hlast⟩
    exact ⟨earlier, last, hdiary, Nat.le_trans hlast htime⟩
  | debouncing hwaits hdiary hleft => exact .debouncing (hphase.trans hwaits) hdiary hleft
  | awaitingReady hwaits hmay => exact .awaitingReady (hphase.trans hwaits) (hmay.later htime)
  | running hruns hdiary hstart =>
    exact .running (hphase.trans hruns) hdiary (Nat.le_trans hstart htime)

theorem Keeps.rested (h : Keeps interval diary engine) (hphase : engine.phase = .idle) :
    Rested diary engine.time := by
  cases h.stage with
  | idle _ hrested => exact hrested
  | debouncing hother | awaitingReady hother | running hother =>
    rw [hphase] at hother
    cases hother

/-- The end of a run that the engine remembers is that of the last moment. -/
theorem Steady.rested_of_some (h : Steady interval diary engine)
    (hrested : Rested diary engine.time) {last : Span} (hend : engine.lastRunEnd = some last) :
    ∃ earlier, diary = earlier ++ [.ended last] ∧ last ≤ engine.time := by
  have hlast := hend.symm.trans h.last
  rcases hrested with rfl | ⟨earlier, noted, rfl, hnoted⟩
  · cases hlast
  · have hsome : Moment.ended? (.ended noted : Moment S N) = some noted := rfl
    rw [List.filterMap_append, List.filterMap_cons_some hsome, List.filterMap_nil,
      List.getLast?_concat] at hlast
    obtain rfl := Option.some.inj hlast
    exact ⟨earlier, rfl, hnoted⟩

/-- Without an end that it remembers, nothing has happened to the engine. -/
theorem Steady.rested_of_none (h : Steady interval diary engine)
    (hrested : Rested diary engine.time) (hend : engine.lastRunEnd = none) : diary = [] := by
  rcases hrested with hnil | ⟨earlier, noted, rfl, -⟩
  · exact hnil
  · have hlast := hend.symm.trans h.last
    have hsome : Moment.ended? (.ended noted : Moment S N) = some noted := rfl
    rw [List.filterMap_append, List.filterMap_cons_some hsome, List.filterMap_nil,
      List.getLast?_concat] at hlast
    cases hlast

/-- What is left of the interval, while the time has not come. -/
theorem remainder_of_delay {delay last : Span} (hconfig : engine.config.minInterval = interval)
    (hdelay : engine.delay? engine.time = some delay) (hend : engine.lastRunEnd = some last)
    (hsince : last ≤ engine.time) : Moment.Remainder interval last delay engine.time := by
  unfold delay? at hdelay
  simp only [hend, hconfig] at hdelay
  split at hdelay
  · rename_i hless
    obtain rfl := Option.some.inj hdelay
    have hless : engine.time.nanoseconds - last.nanoseconds < interval.nanoseconds := hless
    have hsince' : last.nanoseconds ≤ engine.time.nanoseconds := hsince
    refine ⟨hsince, ?_, ?_, ?_⟩
    · show 0 < interval.nanoseconds - (engine.time.nanoseconds - last.nanoseconds)
      omega
    · show interval.nanoseconds - (engine.time.nanoseconds - last.nanoseconds) ≤ _
      omega
    · show interval.nanoseconds - (engine.time.nanoseconds - last.nanoseconds) = _
      omega
  · cases hdelay

/-- The interval has passed when there is nothing left to wait for. -/
theorem passed_of_none {last : Span} (hconfig : engine.config.minInterval = interval)
    (hdelay : engine.delay? engine.time = none) (hend : engine.lastRunEnd = some last)
    (hsince : last ≤ engine.time) : last + interval ≤ engine.time := by
  unfold delay? at hdelay
  simp only [hend, hconfig] at hdelay
  split at hdelay
  · cases hdelay
  · rename_i hpassed
    have hpassed : ¬ engine.time.nanoseconds - last.nanoseconds < interval.nanoseconds := hpassed
    have hsince' : last.nanoseconds ≤ engine.time.nanoseconds := hsince
    refine Nat.le_trans (Nat.min_le_left _ _) ?_
    omega

/-! ### Calls -/

/-- Work on the run that is under way leaves it so, or ends it. -/
theorem Worked.keeps {page : Page N S} {queued : Option (Request S N)} {outcome : Outcome S N κ}
    (hworked : Worked page engine queued outcome)
    (hconfig : outcome.engine.config = engine.config) (h : Steady interval diary engine)
    {earlier : List (Moment S N)} {request : Request S N} {start : Span}
    (hdiary : diary = earlier ++ [.began request start]) (hstart : start ≤ engine.time) :
    Keeps interval (diary ++ endMoments outcome) outcome.engine := by
  cases hworked with
  | suspended run hwake hphase hend hclock =>
    rw [endMoments_suspended hwake, List.append_nil]
    exact ⟨h.reread hconfig hend hclock,
      .running hphase hdiary (Nat.le_trans hstart (h.forward.le hclock))⟩
  | completed clock hwake hphase hend hread hclock =>
    rw [endMoments_completed hwake hend]
    have hnext : Reaches clock outcome.engine.clock := hclock ▸ (Reaches.refl clock).next
    have hsteady := h.ended
      ⟨earlier, request, start, hdiary, Nat.le_trans hstart (h.forward.le hread)⟩
      hconfig hend (hread.trans hnext)
    exact ⟨hsteady, .idle hphase
      (.inr ⟨diary, _, rfl, (h.forward.reaches hread).le hnext⟩)⟩

section Calls

variable [DecidableEq N] {page : Page N S}

theorem startRun_config (page : Page N S) (engine : Engine S N κ) (request : Request S N) :
    (engine.startRun page request).engine.config = engine.config := by
  let idle : Engine S N κ := { engine with phase := .idle }
  have hmoves : Moves page idle (idle.startRun page request).effects
      (idle.startRun page request).engine := startRun_moves rfl request
  exact hmoves.terms.2.2

/-- A run is started when it may begin. -/
theorem startRun_keeps (request : Request S N) (h : Steady interval diary engine)
    (hmay : Moment.MayBegin interval diary engine.time) :
    Keeps interval (diary ++ engine.startMoments page request)
      (engine.startRun page request).engine := by
  have hbegan : (Moment.began request engine.time).Fits interval diary := hmay
  have hworked := (startRun_worked page engine request).keeps
    (startRun_config page engine request) (h.concat hbegan rfl) rfl (Nat.le_refl _)
  rw [List.append_assoc] at hworked
  exact hworked

theorem startWhenReady_keeps (request : Request S N) (h : Steady interval diary engine)
    (hmay : Moment.MayBegin interval diary engine.time) :
    Keeps interval (diary ++ engine.readyMoments page request)
      (engine.startWhenReady page request).engine := by
  unfold readyMoments startWhenReady
  split
  · rw [List.append_nil]
    exact ⟨h.reread rfl rfl (.refl _), .awaitingReady rfl hmay⟩
  · exact startRun_keeps request h hmay

/-- A request is taken up while nothing goes on. -/
theorem takeUp_keeps (request : Request S N) (h : Steady interval diary engine)
    (hrested : Rested diary engine.time) :
    Keeps interval (diary ++ engine.takeUpMoments page request)
      (engine.takeUp page request).engine := by
  have hnext := (Reaches.refl engine.clock).next
  cases hdelay : engine.delay? engine.time with
  | some delay =>
    obtain ⟨hmoments, houtcome⟩ := takeUp_of_delay page request hdelay
    rw [hmoments, houtcome]
    cases hend : engine.lastRunEnd with
    | none => simp [delay?, hend] at hdelay
    | some last =>
      obtain ⟨earlier, hdiary, hsince⟩ := h.rested_of_some hrested hend
      have hleft := remainder_of_delay h.config hdelay hend hsince
      have hdeferred : (Moment.deferred delay engine.time).Fits interval diary :=
        ⟨earlier, last, hdiary, hleft⟩
      exact ⟨(h.concat hdeferred rfl).reread rfl hend.symm hnext,
        .debouncing rfl (by rw [hdiary, List.append_assoc]; rfl) hleft⟩
  | none =>
    obtain ⟨hmoments, houtcome⟩ := takeUp_of_none page request hdelay
    rw [hmoments, houtcome]
    refine startWhenReady_keeps request (h.reread rfl rfl hnext) ?_
    have hmay : Moment.MayBegin interval diary engine.time := by
      cases hend : engine.lastRunEnd with
      | none => exact .inl (h.rested_of_none hrested hend)
      | some last =>
        obtain ⟨earlier, hdiary, hsince⟩ := h.rested_of_some hrested hend
        exact .inr ⟨earlier, last, .inl hdiary, passed_of_none h.config hdelay hend hsince⟩
    exact hmay.later (h.forward.le hnext)

/-- A request is taken up, or joins what waits already. -/
theorem request_keeps (request : Request S N) (h : Keeps interval diary engine) :
    Keeps interval (diary ++ engine.requestMoments page request)
      (engine.request page request).engine := by
  unfold requestMoments Engine.request
  cases h.stage with
  | idle hphase hrested =>
    simp only [hphase]
    exact takeUp_keeps request h.toSteady hrested
  | debouncing hphase hdiary hleft =>
    simp only [hphase, List.append_nil]
    exact ⟨h.toSteady.reread rfl rfl (.refl _), .debouncing rfl hdiary hleft⟩
  | awaitingReady hphase hmay =>
    simp only [hphase, List.append_nil]
    exact ⟨h.toSteady.reread rfl rfl (.refl _), .awaitingReady rfl hmay⟩
  | running hphase hdiary hstart =>
    simp only [hphase, List.append_nil]
    exact ⟨h.toSteady.reread rfl rfl (.refl _), .running rfl hdiary hstart⟩

/-- The run that is under way goes on; when it ends, what is queued is taken up. -/
theorem resume_keeps (h : Keeps interval diary engine) :
    Keeps interval (diary ++ engine.resumeMoments page) (engine.resume page).engine := by
  unfold resumeMoments
  cases h.stage with
  | idle hphase | debouncing hphase | awaitingReady hphase =>
    simp only [resume, hphase, List.append_nil]
    exact h
  | @running run queued hphase earlier request start hdiary hstart =>
    have hslice : engine.slice page = engine.workOn page run queued .quiet := by
      simp [slice, hphase]
    have hworked : Worked page engine queued (engine.slice page) :=
      hslice ▸ workOn_worked page engine run queued
    have hconfig : (engine.slice page).engine.config = engine.config := by
      have hmoves : Moves page engine _ (engine.workOn page run queued .quiet).engine :=
        workOn_moves hphase fun finished _ => .tells finished rfl
      exact hslice ▸ hmoves.terms.2.2
    have hkeeps := hworked.keeps hconfig h.toSteady hdiary hstart
    rw [resume_eq_slice page engine hphase]
    simp only [hphase]
    cases hworked with
    | suspended later hwake =>
      simp only [hwake, List.append_nil]
      exact hkeeps
    | completed clock hwake hidle =>
      simp only [hwake]
      cases queued with
      | none =>
        rw [List.append_nil]
        exact hkeeps
      | some waiting =>
        rw [← List.append_assoc]
        exact takeUp_keeps waiting hkeeps.toSteady (hkeeps.rested hidle)

/-- In a call a timer is delivered no earlier than it was wanted. -/
def InTime (diary : List (Moment S N)) (engine : Engine S N κ) : Call S N → Prop
  | .timerFired =>
    ∀ delay reading, (diary.filterMap Moment.deferral?).getLast? = some (delay, reading) →
      reading + delay ≤ engine.time
  | _ => True

/-- The timer has let pass what was left of the interval. -/
theorem timerFired_keeps (h : Keeps interval diary engine)
    (htime : InTime diary engine .timerFired) :
    Keeps interval (diary ++ engine.moments page .timerFired)
      (engine.timerFired page).engine := by
  unfold timerFired moments
  cases h.stage with
  | idle hphase | awaitingReady hphase | running hphase =>
    simp only [hphase, List.append_nil]
    exact h
  | @debouncing request hphase earlier last delay reading hdiary hleft =>
    simp only [hphase]
    have hpassed : last + interval ≤ engine.time := by
      rw [← hleft.sum]
      refine htime delay reading ?_
      rw [hdiary, List.append_cons, List.filterMap_append]
      exact List.getLast?_concat
    exact startWhenReady_keeps request (h.toSteady.reread rfl rfl (.refl _))
      (.inr ⟨earlier, last, .inr ⟨delay, reading, hdiary⟩, hpassed⟩)

/-- The run that has waited for the document begins. -/
theorem documentReady_keeps (h : Keeps interval diary engine) :
    Keeps interval (diary ++ engine.moments page .documentReady)
      (engine.documentReady page).engine := by
  unfold documentReady moments
  cases h.stage with
  | idle hphase | debouncing hphase | running hphase =>
    simp only [hphase, List.append_nil]
    exact h
  | @awaitingReady request hphase hmay =>
    simp only [hphase]
    exact startRun_keeps request (h.toSteady.reread rfl rfl (.refl _)) hmay

/-- **A call keeps the pace**, whichever it is. -/
theorem call_keeps (page : Page N S) (call : Call S N) (h : Keeps interval diary engine)
    (htime : InTime diary engine call) :
    Keeps interval (diary ++ engine.moments page call) (engine.call page call).engine := by
  cases call with
  | apply sources =>
    have hgiven : Keeps interval diary (engine.given sources) :=
      h.later rfl h.config rfl h.forward (Nat.le_refl _)
    show Keeps interval (diary ++ if (engine.given sources).patterns.isEmpty then []
      else (engine.given sources).requestMoments page .full)
      (Outcome.after _ (if (engine.given sources).patterns.isEmpty then _ else _)).engine
    by_cases hnone : (engine.given sources).patterns.isEmpty = true
    · rw [if_pos hnone, if_pos hnone, List.append_nil]
      exact hgiven
    · rw [if_neg hnone, if_neg hnone]
      exact request_keeps .full hgiven
  | request request => exact request_keeps request h
  | changed changes =>
    show Keeps interval (diary ++ if _ then [] else _) (engine.changed page changes).engine
    unfold changed
    split
    · rw [List.append_nil]
      exact h
    · exact request_keeps _ h
  | sheetLoaded sheet =>
    show Keeps interval (diary ++ if _ then [] else _) (engine.sheetLoaded page sheet).engine
    unfold sheetLoaded
    split
    · rw [List.append_nil]
      exact h
    · exact request_keeps _ h
  | timerFired => exact timerFired_keeps h htime
  | documentReady => exact documentReady_keeps h
  | resume => exact resume_keeps h

end Calls

/-! ### Histories -/

section Histories

variable [DecidableEq N]

/--
The host keeps the interval as it is, its clock goes forward, and it delivers a timer no
earlier than its delay after the reading that it counts from.
-/
def Timely (interval : Span) (diary : List (Moment S N)) (engine : Engine S N κ) :
    Event S N κ → Prop
  | .called _ call => InTime diary engine call
  | .configured config => config.minInterval = interval
  | .clockMoved clock => Forward clock ∧ engine.time ≤ (Clock.now clock).1

theorem event_keeps {event : Event S N κ} (h : Keeps interval diary engine)
    (htimely : Timely interval diary engine event) :
    Keeps interval (diary ++ engine.eventMoments event) (engine.meet event).engine := by
  cases event with
  | called page call => exact call_keeps page call h htimely
  | configured config =>
    rw [eventMoments, List.append_nil]
    exact h.later rfl htimely rfl h.forward (Nat.le_refl _)
  | clockMoved clock =>
    rw [eventMoments, List.append_nil]
    exact h.later rfl h.config rfl htimely.1 htimely.2

/-- Each event of the history comes in time, after what the diary has so far. -/
def AllTimely (interval : Span) : List (Moment S N) → Engine S N κ → List (Event S N κ) → Prop
  | _, _, [] => True
  | diary, engine, event :: more =>
    Timely interval diary engine event ∧
      AllTimely interval (diary ++ engine.eventMoments event) (engine.meet event).engine more

theorem AllTimely.of_append {events more : List (Event S N κ)}
    (h : AllTimely interval diary engine (events ++ more)) :
    AllTimely interval diary engine events := by
  induction events generalizing diary engine with
  | nil => trivial
  | cons event events ih => exact ⟨h.1, ih h.2⟩

/-- A history keeps the pace that it starts with. -/
theorem meetAll_keeps {events : List (Event S N κ)} (h : Keeps interval diary engine)
    (htimely : AllTimely interval diary engine events) :
    Keeps interval (diary ++ engine.diary events) (engine.meetAll events).engine := by
  induction events generalizing diary engine with
  | nil =>
    rw [Engine.diary, List.append_nil]
    exact h
  | cons event events ih =>
    have hmore := ih (event_keeps h htimely.1) htimely.2
    have hfirst := meetAll_append engine [event] events
    rw [List.cons_append, List.nil_append] at hfirst
    rw [Engine.diary, ← List.append_assoc, hfirst]
    exact hmore

omit [DecidableEq N] in
/-- An engine without patterns keeps any pace. -/
theorem new_keeps (config : Config) {clock : κ} (hforward : Forward clock) :
    Keeps config.minInterval [] (Engine.new config clock : Engine S N κ) :=
  ⟨⟨Paced.nil, rfl, hforward, rfl⟩, .idle rfl (.inl rfl)⟩

/-- The diary ends with a request that has to wait for what is left after the last run. -/
def EndsDeferred (interval : Span) (diary : List (Moment S N)) (delay : Span)
    (lastRunEnd : Option Span) : Prop :=
  ∃ earlier last reading, diary = earlier ++ [.ended last, .deferred delay reading] ∧
    lastRunEnd = some last ∧ Moment.Remainder interval last delay reading

/-- The runs of a history keep their distance. -/
structure Spaced (interval : Span) (start : Engine S N κ) (events : List (Event S N κ)) :
    Prop where
  /-- A run begins no earlier than the interval after the end of the run before it. -/
  runs : ∀ before request time, before ++ [.began request time] <+: start.diary events →
    Moment.MayBegin interval before time
  /-- A timer that a call asks for is over when the interval is. -/
  timers : ∀ before page call delay, before ++ [.called page call] <+: events →
    ((start.meetAll before).engine.call page call).wake = some (.timer delay) →
      EndsDeferred interval (start.diary (before ++ [.called page call])) delay
        ((start.meetAll before).engine.call page call).engine.lastRunEnd
  /-- While the timer is pending nothing changes about it, whatever is merged. -/
  pending : ∀ before request, before <+: events →
    (start.meetAll before).engine.phase = .debouncing request →
      ∃ delay, EndsDeferred interval (start.diary before) delay
        (start.meetAll before).engine.lastRunEnd
  /-- The diary has all runs that began, and the ends of runs as the engine remembers them. -/
  told : ∀ before, before <+: events →
    (start.diary before).filterMap Moment.begun? = (start.meetAll before).begun ∧
      ((start.diary before).filterMap Moment.ended?).getLast? =
        (start.meetAll before).engine.lastRunEnd

omit [DecidableEq N] in
/-- The diary that ends with a deferral ends with that of the last run. -/
theorem Keeps.endsDeferred (h : Keeps interval diary engine) {earlier : List (Moment S N)}
    {last delay reading : Span}
    (hdiary : diary = earlier ++ [.ended last, .deferred delay reading])
    (hleft : Moment.Remainder interval last delay reading) :
    EndsDeferred interval diary delay engine.lastRunEnd := by
  refine ⟨earlier, last, reading, hdiary, ?_, hleft⟩
  rw [h.last, hdiary, List.filterMap_append]
  exact List.getLast?_concat

/--
**Runs are spaced.**  However the calls of a history come, as long as its clock goes forward,
the interval stays what it is and no timer is delivered too early, a run that is not the
first begins no earlier than the interval after the end of the run before it.  Every timer
that is asked for is positive, no longer than the interval, and what is left of it.
-/
theorem runs_spaced (config : Config) (clock : κ) (events : List (Event S N κ))
    (hforward : Forward clock)
    (htimely : AllTimely config.minInterval [] (Engine.new config clock) events) :
    Spaced config.minInterval (Engine.new config clock) events := by
  have hkeeps : ∀ {before}, before <+: events →
      Keeps config.minInterval ((Engine.new config clock).diary before)
        ((Engine.new config clock).meetAll before).engine := by
    rintro before ⟨more, rfl⟩
    exact meetAll_keeps (new_keeps config hforward) htimely.of_append
  refine ⟨?_, ?_, ?_, ?_⟩
  · intro before request time hprefix
    exact (hkeeps (List.prefix_refl events)).paced before _ hprefix
  · intro before page call delay hprefix hwake
    have hlater := hkeeps hprefix
    obtain ⟨reading, hlast⟩ := ((call_agrees page _ call).timer delay).mp hwake
    have hdiary := diary_concat (Engine.new config clock) before (.called page call)
    obtain ⟨earlier, hmoments⟩ := List.getLast?_eq_some_iff.mp hlast
    have hends : (Engine.new config clock).diary (before ++ [.called page call]) =
        ((Engine.new config clock).diary before ++ earlier) ++ [.deferred delay reading] := by
      rw [hdiary, List.append_assoc, ← hmoments]
      rfl
    obtain ⟨first, last, hfirst, hleft⟩ :=
      hlater.paced _ (.deferred delay reading) ⟨[], by rw [hends, List.append_nil]⟩
    have hall := hlater.endsDeferred (hends.trans (by rw [hfirst, List.append_assoc]; rfl)) hleft
    rwa [meetAll_concat] at hall
  · intro before request hprefix hphase
    have hbefore := hkeeps hprefix
    cases hbefore.stage with
    | debouncing _ hdiary hleft => exact ⟨_, hbefore.endsDeferred hdiary hleft⟩
    | idle hother | awaitingReady hother | running hother =>
      rw [hphase] at hother
      cases hother
  · intro before hprefix
    exact ⟨(diary_agrees _ before).1, (hkeeps hprefix).last.symm⟩

end Histories

end Engine

/-- A clock that moves with its readings goes forward. -/
theorem ManualClock.forward (clock : ManualClock) (h : clock.time ≤ .longest) :
    Clock.Forward clock := by
  have hbound : ∀ readings, (Clock.reread readings clock).time ≤ .longest := by
    intro readings
    induction readings generalizing clock with
    | zero => exact h
    | succ readings ih => exact ih _ (Nat.min_le_right _ _)
  intro readings
  rw [Clock.reread_add]
  exact Nat.le_min.mpr ⟨Nat.le_add_right _ _, hbound readings⟩

namespace Engine

/-- All is filtered again, and once more in the time of the timer, which is delivered later. -/
def boxesAgain : List (Event Nat Nat ManualClock) :=
  [.called boxDocument.page (.apply [⟨"div", "boxes"⟩]),
    .called boxDocument.page .resume, .called boxDocument.page .resume,
    .called boxDocument.page .resume, .called boxDocument.page (.request .full),
    .called boxDocument.page (.request .full),
    .clockMoved ⟨.ofMilliseconds 3000, .ofMilliseconds 1⟩, .called boxDocument.page .timerFired]

set_option maxRecDepth 20000 in
/-- Of the two seconds between the runs one millisecond has passed when the request comes. -/
theorem boxesAgain_spaced :
    let config : Config := ⟨.ofMilliseconds 2000, .zero, false, .never⟩
    let start : Engine Nat Nat ManualClock := Engine.new config (.ticking (.ofMilliseconds 1))
    Clock.Forward start.clock ∧ AllTimely config.minInterval [] start boxesAgain ∧
      Spaced config.minInterval start boxesAgain ∧
      (start.diary boxesAgain).filterMap Moment.deferral? =
        [(.ofMilliseconds 1999, .ofMilliseconds 9)] := by
  intro config start
  have hforward : Clock.Forward start.clock := ManualClock.forward _ (Nat.zero_le _)
  have htimely : AllTimely config.minInterval [] start boxesAgain := by
    unfold boxesAgain
    refine ⟨trivial, trivial, trivial, trivial, trivial, trivial,
      ⟨ManualClock.forward _ ?_, ?_⟩, ?_, trivial⟩
    · decide
    · cbv
    · intro delay reading hlast
      cbv at hlast
      obtain ⟨rfl, rfl⟩ := Prod.mk.inj (Option.some.inj hlast)
      decide
  exact ⟨hforward, htimely, runs_spaced config _ boxesAgain hforward htimely, by cbv⟩

end Engine

end CosmeticFilter
