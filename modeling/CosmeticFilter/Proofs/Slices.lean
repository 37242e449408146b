/-
What the slices of a run keep.

A slice does two things: it begins the evaluation of a candidate, or it takes an evaluation
one pull on and enters what the pull gives.  A condition that both of them keep is kept by
the slice, wherever it stops.

An invariant of runs has three parts, one for the candidates, one for what has been found,
and one for an evaluation that is under way beside what has been found.  Between two slices
the page may have become another, so the steps are asked for on the page of one slice only.
-/
import CosmeticFilter.Proofs.Slicing

namespace CosmeticFilter.Run

variable {N S κ : Type} [DecidableEq N] [Clock κ]

/-- A condition on runs, part by part. -/
structure Invariant (N : Type) where
  candidate : Candidate N → Prop
  findings : Findings N → Prop
  /-- An evaluation of the candidate, with what was found so far. -/
  evaluation : Candidate N → Evaluation N → Findings N → Prop

namespace Invariant

variable {inv : Invariant N}

/-- The condition holds of a run. -/
structure Holds (inv : Invariant N) (run : Run N) : Prop where
  waiting : ∀ candidate ∈ run.waiting, inv.candidate candidate
  current : ∀ candidate evaluation, run.current = some (candidate, evaluation) →
    inv.candidate candidate ∧ inv.evaluation candidate evaluation run.findings
  findings : inv.findings run.findings

/-- Whatever a slice does keeps the condition. -/
structure Kept (inv : Invariant N) (slice : Slice N S) : Prop where
  begin : ∀ {candidate findings}, inv.candidate candidate → inv.findings findings →
    inv.evaluation candidate (slice.begin candidate) findings
  pull : ∀ {candidate evaluation findings}, inv.candidate candidate → inv.findings findings →
    inv.evaluation candidate evaluation findings →
      let pulled := evaluation.pull (slice.scene candidate)
      let entered := findings.entering slice.config slice.page candidate.pattern pulled
      inv.findings entered ∧ inv.evaluation candidate pulled.next entered

/-- The condition holds of what is left where a slice ends. -/
def Stands (inv : Invariant N) (findings : Findings N) : Stop N → Prop
  | .completed => True
  | .suspended waiting current => (∀ candidate ∈ waiting, inv.candidate candidate) ∧
      ∀ candidate evaluation, current = some (candidate, evaluation) →
        inv.candidate candidate ∧ inv.evaluation candidate evaluation findings

namespace Kept

variable {slice : Slice N S} (h : inv.Kept slice)

include h

theorem evaluate {candidate : Candidate N} (hcandidate : inv.candidate candidate)
    (evaluation : Evaluation N) (tally : Tally N κ) (hfindings : inv.findings tally.findings)
    (hevaluation : inv.evaluation candidate evaluation tally.findings) :
    inv.findings (evaluate slice candidate evaluation tally).2.findings ∧
    ∀ state, (evaluate slice candidate evaluation tally).1 = some (some state) →
      inv.evaluation candidate state
        (Run.evaluate slice candidate evaluation tally).2.findings := by
  fun_induction Run.evaluate slice candidate evaluation tally with
  | case1 evaluation tally pulled entered hover =>
    obtain ⟨hentered, hnext⟩ := h.pull hcandidate hfindings hevaluation
    refine ⟨hentered, fun state hstate => ?_⟩
    obtain ⟨_, -, rfl⟩ := Option.map_eq_some_iff.mp (Option.some.inj hstate)
    exact hnext
  | case2 evaluation tally pulled entered hover hitem =>
    exact ⟨(h.pull hcandidate hfindings hevaluation).1, fun state hstate => by simp at hstate⟩
  | case3 evaluation tally pulled entered hover item hitem ih =>
    obtain ⟨hentered, hnext⟩ := h.pull hcandidate hfindings hevaluation
    exact ih hentered hnext

theorem evaluateAll (candidates : List (Candidate N))
    (hcandidates : ∀ candidate ∈ candidates, inv.candidate candidate) (tally : Tally N κ)
    (hfindings : inv.findings tally.findings) :
    inv.findings (evaluateAll slice candidates tally).2.findings ∧
      inv.Stands (Run.evaluateAll slice candidates tally).2.findings
        (Run.evaluateAll slice candidates tally).1 := by
  fun_induction Run.evaluateAll slice candidates tally with
  | case1 tally => exact ⟨hfindings, trivial⟩
  | case2 candidate waiting tally later hlater ih =>
    obtain ⟨hcandidate, hwaiting⟩ := List.forall_mem_cons.mp hcandidates
    have hfirst := h.evaluate hcandidate (slice.begin candidate) tally hfindings
      (h.begin hcandidate hfindings)
    rw [hlater] at hfirst
    exact ih hwaiting hfirst.1
  | case3 candidate waiting tally state later hlater =>
    obtain ⟨hcandidate, hwaiting⟩ := List.forall_mem_cons.mp hcandidates
    have hfirst := h.evaluate hcandidate (slice.begin candidate) tally hfindings
      (h.begin hcandidate hfindings)
    rw [hlater] at hfirst
    refine ⟨hfirst.1, hwaiting, fun other evaluation hother => ?_⟩
    obtain ⟨last, rfl, heq⟩ := Option.map_eq_some_iff.mp hother
    obtain ⟨rfl, rfl⟩ := Prod.mk.inj heq
    exact ⟨hcandidate, hfirst.2 last rfl⟩

theorem proceed {run : Run N} (hrun : inv.Holds run) (tally : Tally N κ)
    (hsame : tally.findings = run.findings) :
    inv.findings (proceed slice run tally).2.findings ∧
      inv.Stands (Run.proceed slice run tally).2.findings
        (Run.proceed slice run tally).1 := by
  have hfindings : inv.findings tally.findings := hsame ▸ hrun.findings
  unfold Run.proceed
  split
  · exact h.evaluateAll run.waiting hrun.waiting tally hfindings
  · rename_i candidate evaluation hcurrent
    obtain ⟨hcandidate, hevaluation⟩ := hrun.current candidate evaluation hcurrent
    have hfirst := h.evaluate hcandidate evaluation tally hfindings (hsame ▸ hevaluation)
    split
    · rename_i later hlater
      rw [hlater] at hfirst
      exact h.evaluateAll run.waiting hrun.waiting later hfirst.1
    · rename_i state later hlater
      rw [hlater] at hfirst
      refine ⟨hfirst.1, hrun.waiting, fun other evaluation hother => ?_⟩
      obtain ⟨last, rfl, heq⟩ := Option.map_eq_some_iff.mp hother
      obtain ⟨rfl, rfl⟩ := Prod.mk.inj heq
      exact ⟨hcandidate, hfirst.2 last rfl⟩

end Kept

/-- **A slice keeps** what beginning and pulling on its page keep. -/
theorem Holds.slice {run : Run N} (hrun : inv.Holds run) (page : Page N S) (config : Config)
    (clock : κ) (h : ∀ start, inv.Kept ⟨page, config, run.styles, start⟩) :
    inv.Holds (run.slice page config clock).2.1 := by
  obtain ⟨hfindings, hstop⟩ := (h (Clock.now clock).1).proceed hrun
    (⟨run.findings, (Clock.now clock).2, []⟩ : Tally N κ) rfl
  unfold Run.slice Run.sliceFrom
  simp only
  split
  · exact ⟨by simp, by simp, hfindings⟩
  · rename_i waiting current heq
    rw [heq] at hstop
    exact ⟨hstop.1, hstop.2, hfindings⟩

end Invariant

end CosmeticFilter.Run
