/-
Runs make progress.

A suspended slice has pulled at least once, so what it leaves to be done is less than
what there was: fewer candidates wait, or the current evaluation has come further.
Together with the end of evaluations this bounds the number of slices of a run, however
short they are.
-/
import CosmeticFilter.Engine.Basic

namespace CosmeticFilter

variable {N S κ : Type} [DecidableEq N] [Clock κ]

namespace Run

/-- The evaluation is a later state of the other one. -/
abbrev Later : Evaluation N → Evaluation N → Prop :=
  Relation.TransGen Evaluation.Follows

/-- What is left to be done: candidates that wait, and the evaluation that is under way. -/
def remaining (run : Run N) : Nat × Option (Evaluation N) :=
  (run.waiting.length, run.current.map (·.2))

/-- Fewer candidates wait, or the current evaluation is over or further on. -/
abbrev LessLeft : Nat × Option (Evaluation N) → Nat × Option (Evaluation N) → Prop :=
  Prod.Lex (· < ·) (Option.lt Later)

theorem lessLeft_wellFounded :
    WellFounded (LessLeft : Nat × Option (Evaluation N) → Nat × Option (Evaluation N) → Prop) :=
  (Prod.lex ⟨_, Nat.lt_wfRel.wf⟩
    ⟨_, Option.wellFounded_lt Evaluation.follows_wellFounded.transGen⟩).wf

/-- A suspended evaluation is over or further on. -/
theorem evaluate_later (slice : Slice N S) (candidate : Candidate N) (e : Evaluation N)
    (tally : Tally N κ) {state : Option (Evaluation N)}
    (h : (evaluate slice candidate e tally).1 = some state) :
    Option.lt Later state (some e) := by
  fun_induction evaluate slice candidate e tally with
  | case1 e tally pulled entered hover =>
    obtain rfl := Option.some.inj h
    cases hitem : pulled.item with
    | none => exact trivial
    | some item => exact .single (Evaluation.follows_of_item hitem)
  | case2 => simp at h
  | case3 e tally pulled entered hover item hitem ih =>
    match state, ih h with
    | none, _ => exact trivial
    | some last, hlast =>
      exact Relation.TransGen.tail hlast (Evaluation.follows_of_item hitem)

/-- A suspended slice has begun to evaluate at least one of the candidates. -/
theorem evaluateAll_shorter (slice : Slice N S) (candidates : List (Candidate N))
    (tally : Tally N κ) {waiting : List (Candidate N)}
    {current : Option (Candidate N × Evaluation N)}
    (h : (evaluateAll slice candidates tally).1 = .suspended waiting current) :
    waiting.length < candidates.length := by
  fun_induction evaluateAll slice candidates tally with
  | case1 => simp at h
  | case2 tally candidate rest later hlater ih => exact Nat.lt_succ_of_lt (ih h)
  | case3 tally candidate rest state later hlater =>
    obtain ⟨rfl, -⟩ := Stop.suspended.inj h
    simp

theorem proceed_lessLeft (slice : Slice N S) (run : Run N) (tally : Tally N κ)
    {waiting : List (Candidate N)} {current : Option (Candidate N × Evaluation N)}
    (h : (proceed slice run tally).1 = .suspended waiting current) :
    LessLeft (waiting.length, current.map (·.2)) run.remaining := by
  unfold proceed at h
  split at h
  · exact .left _ _ (evaluateAll_shorter slice _ _ h)
  · rename_i candidate e hcurrent
    split at h
    · exact .left _ _ (evaluateAll_shorter slice _ _ h)
    · rename_i state later hevaluate
      obtain ⟨rfl, rfl⟩ := Stop.suspended.inj h
      have hlater : Option.lt Later state (some e) :=
        evaluate_later slice candidate e tally (by rw [hevaluate])
      simp only [remaining, hcurrent, Option.map_some]
      cases state with
      | none => exact .right _ trivial
      | some last => exact .right _ hlater

/-- A slice that is suspended leaves less to be done. -/
theorem slice_lessLeft (page : Page N S) (config : Config) (run : Run N) (clock : κ)
    (h : (run.slice page config clock).1 = false) :
    LessLeft (run.slice page config clock).2.1.remaining run.remaining := by
  unfold slice sliceFrom at h ⊢
  simp only at h ⊢
  split at h
  · simp at h
  · rename_i waiting current hstop
    have := proceed_lessLeft _ _ _ hstop
    simp only [remaining]
    exact this

end Run

/-! ### The engine -/

/-- What is left to be done until the engine rests. -/
structure Backlog (N : Type) where
  /-- Runs that have not begun, and one more for an engine that wants to be called. -/
  runs : Nat
  /-- What is left of the run that is under way. -/
  run : Nat × Option (Evaluation N)

/-- A backlog gets less with every run that begins and with every slice of it. -/
instance : WellFoundedRelation (Backlog N) where
  rel := InvImage (Prod.Lex (· < ·) Run.LessLeft) fun backlog => (backlog.runs, backlog.run)
  wf := InvImage.wf _ (Prod.lex ⟨_, Nat.lt_wfRel.wf⟩ ⟨_, Run.lessLeft_wellFounded⟩).wf

theorem Backlog.less_of_runs {a b : Backlog N} (h : a.runs < b.runs) :
    WellFoundedRelation.rel a b :=
  Prod.Lex.left _ _ h

theorem Backlog.less_of_run {runs : Nat} {a b : Nat × Option (Evaluation N)}
    (h : Run.LessLeft a b) : WellFoundedRelation.rel (Backlog.mk runs a) (Backlog.mk runs b) :=
  Prod.Lex.right _ h

namespace Engine

/-- The backlog of an engine that wants to be called in some way. -/
def backlog (engine : Engine S N κ) (wake : Option Wake) : Backlog N :=
  match wake, engine.phase with
  | none, _ => ⟨0, (0, none)⟩
  | some _, .running run (some _) => ⟨3, run.remaining⟩
  | some _, .debouncing _ => ⟨2, (0, none)⟩
  | some _, .running run none => ⟨1, run.remaining⟩
  | some _, _ => ⟨1, (0, none)⟩

omit [DecidableEq N] [Clock κ] in
theorem runs_lt_of_wake_none (engine other : Engine S N κ) (wake : Wake) :
    (engine.backlog none).runs < (other.backlog (some wake)).runs := by
  unfold backlog
  split <;> split <;> simp_all

/-- A run that begins with nothing queued leaves at most itself. -/
theorem startRun_runs (page : Page N S) (engine : Engine S N κ) (request : Request S N) :
    ((engine.startRun page request).engine.backlog
      (engine.startRun page request).wake).runs ≤ 1 := by
  unfold startRun workOn
  simp only [Outcome.after, Outcome.quiet]
  split
  · simp [backlog]
  · simp [backlog]

theorem startWhenReady_runs (page : Page N S) (engine : Engine S N κ) (request : Request S N) :
    ((engine.startWhenReady page request).engine.backlog
      (engine.startWhenReady page request).wake).runs ≤ 1 := by
  unfold startWhenReady
  split
  · simp [backlog]
  · exact startRun_runs page engine request

theorem takeUp_runs (page : Page N S) (engine : Engine S N κ) (request : Request S N) :
    ((engine.takeUp page request).engine.backlog (engine.takeUp page request).wake).runs ≤ 2 := by
  unfold takeUp
  simp only
  split
  · simp [backlog]
  · exact Nat.le_succ_of_le (startWhenReady_runs page _ request)

/-- A timer that has fired leaves less to be done. -/
theorem timerFired_less (page : Page N S) (engine : Engine S N κ) (wake : Wake) :
    WellFoundedRelation.rel
      ((engine.timerFired page).engine.backlog (engine.timerFired page).wake)
      (engine.backlog (some wake)) := by
  apply Backlog.less_of_runs
  unfold timerFired
  split
  · rename_i request hphase
    refine Nat.lt_of_le_of_lt (startWhenReady_runs page _ request) ?_
    simp [backlog, hphase]
  · exact runs_lt_of_wake_none _ _ _

/-- A slice leaves less to be done. -/
theorem resume_less (page : Page N S) (engine : Engine S N κ) (wake : Wake) :
    WellFoundedRelation.rel ((engine.resume page).engine.backlog (engine.resume page).wake)
      (engine.backlog (some wake)) := by
  unfold resume
  split
  · rename_i run queued hphase
    unfold workOn
    simp only [Outcome.after]
    split
    · apply Backlog.less_of_runs
      cases queued with
      | none =>
        simp only [Outcome.quiet]
        exact runs_lt_of_wake_none _ _ _
      | some request =>
        refine Nat.lt_of_le_of_lt (takeUp_runs page _ request) ?_
        simp [backlog, hphase]
    · rename_i hsuspended
      have hless := Run.slice_lessLeft page engine.config run engine.clock
        (Bool.eq_false_iff.mpr hsuspended)
      cases queued <;> simp only [backlog, hphase] <;> exact Backlog.less_of_run hless
  · exact Backlog.less_of_runs (runs_lt_of_wake_none _ _ _)

end Engine

end CosmeticFilter
