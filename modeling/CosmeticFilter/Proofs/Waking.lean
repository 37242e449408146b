/-
The outstanding wake-up.

What an engine waits for can be read off its phase: a timer, the document, or its turn to
go on with a run.  It may have asked for this at an earlier call, so no answer to the last
call is needed to follow it.

Whatever the clock says when its wake-ups are delivered, there is a last one.  A phase has a
height, for all that may come before the engine is idle, and in a run what is left of it
gets less with every slice.
-/
import CosmeticFilter.Proofs.Rest

namespace CosmeticFilter

variable {S N κ : Type}

/-- Time passes, or a wake-up is delivered, asked for or not, while the page stays the same. -/
inductive Event.Wakes (page : Page N S) : Event S N κ → Prop
  | clockMoved (clock : κ) : Wakes page (.clockMoved clock)
  | timerFired : Wakes page (.called page .timerFired)
  | documentReady : Wakes page (.called page .documentReady)
  | resume : Wakes page (.called page .resume)

/-- The call that a wake-up asks for. -/
def Wake.call : Wake → Call S N
  | .timer _ => .timerFired
  | .documentReady => .documentReady
  | .resume => .resume

namespace Engine

/-- The call that the engine waits for. -/
def awaited (engine : Engine S N κ) : Option (Call S N) :=
  match engine.phase with
  | .idle => none
  | .debouncing _ => some .timerFired
  | .awaitingReady _ => some .documentReady
  | .running _ _ => some .resume

theorem awaited_eq_none {engine : Engine S N κ} (h : engine.awaited = none) :
    engine.phase = .idle := by
  cases hphase : engine.phase with
  | idle => rfl
  | debouncing | awaitingReady | running => simp [awaited, hphase] at h

theorem wakes_of_awaited {engine : Engine S N κ} {call : Call S N}
    (h : engine.awaited = some call) (page : Page N S) :
    (Event.called page call : Event S N κ).Wakes page := by
  unfold awaited at h
  split at h
  · simp at h
  · exact Option.some.inj h ▸ .timerFired
  · exact Option.some.inj h ▸ .documentReady
  · exact Option.some.inj h ▸ .resume

variable [DecidableEq N] [Clock κ]

/-! ### It was asked for -/

/-- What the answer asks for is what the engine waits for. -/
def Announces (outcome : Outcome S N κ) : Prop :=
  outcome.engine.awaited = outcome.wake.map Wake.call

theorem announces_workOn (page : Page N S) (engine : Engine S N κ) (run : Run N)
    (queued : Option (Request S N)) {next : Engine S N κ → Outcome S N κ}
    (hnext : ∀ finished : Engine S N κ, finished.phase = .idle → Announces (next finished)) :
    Announces (engine.workOn page run queued next) := by
  unfold workOn
  simp only
  split
  · exact hnext _ rfl
  · rfl

omit [DecidableEq N] [Clock κ] in
theorem announces_quiet {engine : Engine S N κ} (hphase : engine.phase = .idle) :
    Announces (.quiet engine) := by
  simp [Announces, awaited, Outcome.quiet, hphase]

theorem announces_startRun (page : Page N S) (engine : Engine S N κ) (request : Request S N) :
    Announces (engine.startRun page request) := by
  unfold startRun
  simp only
  generalize Run.ofClassification _ _ = run
  exact announces_workOn page engine run none fun _ => announces_quiet

theorem announces_startWhenReady (page : Page N S) (engine : Engine S N κ) (request : Request S N) :
    Announces (engine.startWhenReady page request) := by
  unfold startWhenReady
  split
  · rfl
  · exact announces_startRun page engine request

theorem announces_takeUp (page : Page N S) (engine : Engine S N κ) (request : Request S N) :
    Announces (engine.takeUp page request) := by
  unfold takeUp
  simp only
  split
  · rfl
  · exact announces_startWhenReady page _ request

/-! ### They come to an end -/

/-- The next wake-ups of an engine, each delivered when the clock is as given. -/
def wakeUps (page : Page N S) (clocks : Nat → κ) : Nat → Engine S N κ → List (Event S N κ)
  | 0, _ => []
  | steps + 1, engine =>
    match engine.awaited with
    | none => []
    | some call =>
      .clockMoved (clocks 0) :: .called page call ::
        wakeUps page (fun step => clocks (step + 1)) steps
          ({ engine with clock := clocks 0 }.call page call).engine

theorem wakes_wakeUps (page : Page N S) (clocks : Nat → κ) (steps : Nat)
    (engine : Engine S N κ) : ∀ event ∈ wakeUps page clocks steps engine, event.Wakes page := by
  induction steps generalizing clocks engine with
  | zero => simp [wakeUps]
  | succ steps ih =>
    unfold wakeUps
    split
    · simp
    · rename_i call hcall
      intro event hevent
      rcases List.mem_cons.mp hevent with rfl | hevent
      · exact .clockMoved _
      rcases List.mem_cons.mp hevent with rfl | hevent
      · exact wakes_of_awaited hcall page
      · exact ih _ _ event hevent

theorem meetAll_append (engine : Engine S N κ) (events more : List (Event S N κ)) :
    (engine.meetAll (events ++ more)).engine =
      ((engine.meetAll events).engine.meetAll more).engine := by
  induction more using List.reverseRecOn with
  | nil => simp [meetAll, Outcome.quiet]
  | append_singleton more event ih =>
    rw [← List.append_assoc, meetAll_concat, meetAll_concat]
    show ((engine.meetAll (events ++ more)).engine.meet event).engine = _
    rw [ih]
    rfl

/-- How much has to happen before the engine is idle; a queued request comes on top of a run. -/
def height (engine : Engine S N κ) : Nat :=
  match engine.phase with
  | .idle => 0
  | .running _ none => 1
  | .awaitingReady _ => 2
  | .debouncing _ => 3
  | .running _ (some _) => 4

/-- What is left of the run that is under way. -/
def remaining (engine : Engine S N κ) : Nat × Option (Evaluation N) :=
  match engine.phase with
  | .running run _ => run.remaining
  | _ => (0, none)

/-- Less has to happen: the height is less, or it is the same run with less left. -/
def Lower (engine other : Engine S N κ) : Prop :=
  Prod.Lex (· < ·) Run.LessLeft (engine.height, engine.remaining) (other.height, other.remaining)

omit [Clock κ] in
theorem lower_wellFounded : WellFounded (Lower : Engine S N κ → Engine S N κ → Prop) :=
  InvImage.wf (fun engine : Engine S N κ => (engine.height, engine.remaining))
    (Prod.lex ⟨_, Nat.lt_wfRel.wf⟩ ⟨_, Run.lessLeft_wellFounded⟩).wf

theorem startRun_height (page : Page N S) (engine : Engine S N κ) (request : Request S N) :
    (engine.startRun page request).engine.height ≤ 1 := by
  have hqueued := startRun_queued page engine request
  unfold height
  cases startRun_onTheWay page engine request with
  | reports _ h => simp [h.phase]
  | heads _ h =>
    obtain ⟨run, queued, hphase, -⟩ := h.running
    obtain rfl : queued = none := by simpa [Engine.queued, hphase] using hqueued
    simp [hphase]

theorem startWhenReady_height (page : Page N S) (engine : Engine S N κ)
    (request : Request S N) : (engine.startWhenReady page request).engine.height ≤ 2 := by
  unfold startWhenReady
  split
  · exact Nat.le_refl 2
  · exact Nat.le_succ_of_le (startRun_height page engine request)

theorem takeUp_height (page : Page N S) (engine : Engine S N κ) (request : Request S N) :
    (engine.takeUp page request).engine.height ≤ 3 := by
  unfold takeUp
  simp only
  split
  · exact Nat.le_refl 3
  · exact Nat.le_succ_of_le (startWhenReady_height page _ request)

/-- A slice lowers the engine, for the run is over or has less left. -/
theorem resume_lower (page : Page N S) {engine : Engine S N κ} {run : Run N}
    {queued : Option (Request S N)} (hphase : engine.phase = .running run queued) :
    Lower (engine.resume page).engine engine := by
  unfold resume
  simp only [hphase]
  unfold workOn
  simp only [Outcome.after]
  split
  · refine Prod.Lex.left _ _ ?_
    cases queued with
    | none =>
      show 0 < engine.height
      simp [height, hphase]
    | some request =>
      refine Nat.lt_of_le_of_lt (takeUp_height page _ request) ?_
      simp [height, hphase]
  · rename_i hsuspended
    have hless := Run.slice_lessLeft page engine.config run engine.clock
      (Bool.eq_false_iff.mpr hsuspended)
    have hheight : engine.height =
        height ({ engine with
          clock := (run.slice page engine.config engine.clock).2.2.1
          phase := .running (run.slice page engine.config engine.clock).2.1 queued } :
          Engine S N κ) := by
      cases queued <;> simp [height, hphase]
    unfold Lower
    rw [hheight]
    refine Prod.Lex.right _ ?_
    simpa [remaining, hphase] using hless

/-- **What an engine waits for lowers it.** -/
theorem awaited_lower (page : Page N S) {engine : Engine S N κ} {call : Call S N}
    (h : engine.awaited = some call) : Lower (engine.call page call).engine engine := by
  unfold awaited at h
  split at h
  · simp at h
  · rename_i request hphase
    obtain rfl := Option.some.inj h
    refine Prod.Lex.left _ _ ?_
    simp only [Engine.call, timerFired, hphase]
    refine Nat.lt_of_le_of_lt (startWhenReady_height page _ request) ?_
    simp [height, hphase]
  · rename_i request hphase
    obtain rfl := Option.some.inj h
    refine Prod.Lex.left _ _ ?_
    simp only [Engine.call, documentReady, hphase]
    refine Nat.lt_of_le_of_lt (startRun_height page _ request) ?_
    simp [height, hphase]
  · rename_i run queued hphase
    obtain rfl := Option.some.inj h
    exact resume_lower page hphase

/-- **Wake-ups come to an end**, whatever the clock says at each of them. -/
theorem exists_idle (page : Page N S) (clocks : Nat → κ) (engine : Engine S N κ) :
    ∃ steps, (engine.meetAll (wakeUps page clocks steps engine)).engine.phase = .idle := by
  have hwf : WellFounded (Lower : Engine S N κ → Engine S N κ → Prop) := lower_wellFounded
  induction engine using hwf.induction generalizing clocks with
  | _ engine ih =>
    cases hawaited : engine.awaited with
    | none => exact ⟨0, awaited_eq_none hawaited⟩
    | some call =>
      have hlower : Lower ({ engine with clock := clocks 0 }.call page call).engine engine :=
        awaited_lower page hawaited
      obtain ⟨steps, hidle⟩ := ih _ hlower fun step => clocks (step + 1)
      refine ⟨steps + 1, ?_⟩
      simp only [wakeUps, hawaited]
      have hfirst := meetAll_append engine
        [.clockMoved (clocks 0), .called page call]
        (wakeUps page (fun step => clocks (step + 1)) steps
          ({ engine with clock := clocks 0 }.call page call).engine)
      rw [List.cons_append, List.cons_append, List.nil_append] at hfirst
      rw [hfirst]
      exact hidle

end Engine

end CosmeticFilter
