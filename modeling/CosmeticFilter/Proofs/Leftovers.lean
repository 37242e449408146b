/-
What a run has left.

The items of a run are those of the evaluation that is under way and of the candidates that
wait, one after the other, as long as the page stays the same.  A slice takes them from the
front.  A slice that is suspended has pulled at least once; its pulls gave items, but for one
kind of slice: the current evaluation had no items left, and to find that out took a pull,
and with it all the time of the slice.
-/
import CosmeticFilter.Proofs.Generator

namespace CosmeticFilter

variable {N S κ : Type} [DecidableEq N]

namespace Evaluation

/-- Whatever is evaluated, there is something to pull. -/
theorem items_ne_nil (scene : Scene N S) (chain : Chain) (before : String) (scope : N) :
    items scene chain before scope ≠ [] := by
  cases chain <;> simp [items]

end Evaluation

namespace Run

/-- The items of the candidate that is being evaluated. -/
def currentItems (page : Page N S) (styles : List Style) :
    Option (Candidate N × Evaluation N) → List (Item N)
  | none => []
  | some (candidate, evaluation) => evaluation.left ⟨page, styles, candidate.targets⟩

/-- The items that a run has left to give. -/
def itemsLeft (page : Page N S) (run : Run N) : List (Item N) :=
  currentItems page run.styles run.current ++
    run.waiting.flatMap (candidateItems page run.styles)

/-- What has become of a run that was not completed. -/
inductive Advanced (page : Page N S) (run later : Run N) : Prop
  /-- Items were taken. -/
  | took (taken : List (Item N)) (hsome : taken ≠ [])
      (hleft : run.itemsLeft page = taken ++ later.itemsLeft page)
  /-- The current evaluation turned out to be over. -/
  | exhausted (candidate : Candidate N) (evaluation : Evaluation N)
      (hcurrent : run.current = some (candidate, evaluation))
      (hnone : currentItems page run.styles run.current = [])
      (hover : later.current = none) (hwaiting : later.waiting = run.waiting)

variable [Clock κ]

/-- An evaluation that was suspended gave items, or had none. -/
theorem evaluate_takes (slice : Slice N S) (candidate : Candidate N) (e : Evaluation N)
    (tally : Tally N κ) {state : Option (Evaluation N)}
    (h : (evaluate slice candidate e tally).1 = some state) :
    ∃ taken, e.left (slice.scene candidate) =
        taken ++ currentItems slice.page slice.styles (state.map (candidate, ·)) ∧
      (taken = [] → e.left (slice.scene candidate) = [] ∧ state = none) := by
  fun_induction evaluate slice candidate e tally with
  | case1 e tally pulled entered hover =>
    obtain rfl := Option.some.inj h
    cases hitem : pulled.item with
    | none =>
      have hnone : e.left (slice.scene candidate) = [] := Evaluation.left_of_none hitem
      exact ⟨[], by simp [hnone, currentItems], fun _ => ⟨hnone, rfl⟩⟩
    | some item =>
      have hsome := Evaluation.left_of_some hitem
      exact ⟨[item], hsome, by simp⟩
  | case2 => simp at h
  | case3 e tally pulled entered hover item hitem ih =>
    obtain ⟨taken, htaken, -⟩ := ih h
    refine ⟨item :: taken, ?_, by simp⟩
    rw [Evaluation.left_of_some hitem, htaken, List.cons_append]

/-- The first of the candidates has items. -/
theorem evaluateAll_takes (slice : Slice N S) (candidates : List (Candidate N))
    (tally : Tally N κ) {waiting : List (Candidate N)}
    {current : Option (Candidate N × Evaluation N)}
    (h : (evaluateAll slice candidates tally).1 = .suspended waiting current) :
    ∃ taken, taken ≠ [] ∧ candidates.flatMap (candidateItems slice.page slice.styles) =
      taken ++ (currentItems slice.page slice.styles current ++
        waiting.flatMap (candidateItems slice.page slice.styles)) := by
  fun_induction evaluateAll slice candidates tally with
  | case1 => simp at h
  | case2 candidate rest tally later hlater ih =>
    obtain ⟨taken, hsome, htaken⟩ := ih h
    refine ⟨candidateItems slice.page slice.styles candidate ++ taken, by simp [hsome], ?_⟩
    rw [List.flatMap_cons, htaken, List.append_assoc]
  | case3 candidate rest tally state later hlater =>
    obtain ⟨rfl, rfl⟩ := Stop.suspended.inj h
    have hbegin : (slice.begin candidate).left (slice.scene candidate) =
        candidateItems slice.page slice.styles candidate := Evaluation.left_start ..
    obtain ⟨taken, htaken, hnone⟩ :=
      evaluate_takes slice candidate (slice.begin candidate) tally (by rw [hlater])
    refine ⟨taken, fun hnil => ?_, ?_⟩
    · rw [hbegin] at hnone
      exact Evaluation.items_ne_nil _ _ _ _ (hnone hnil).1
    · rw [List.flatMap_cons, ← hbegin, htaken, List.append_assoc]

/-- Where work on a run stops before it is completed. -/
theorem proceed_advanced (slice : Slice N S) (run : Run N) (tally : Tally N κ)
    (hstyles : run.styles = slice.styles) {waiting : List (Candidate N)}
    {current : Option (Candidate N × Evaluation N)} {later : Run N}
    (h : (proceed slice run tally).1 = .suspended waiting current)
    (hlater : later.styles = slice.styles) (hwaiting : later.waiting = waiting)
    (hcurrent : later.current = current) : Advanced slice.page run later := by
  unfold proceed at h
  split at h
  · rename_i hnone
    obtain ⟨taken, hsome, htaken⟩ := evaluateAll_takes slice _ _ h
    refine .took taken hsome ?_
    rw [itemsLeft, hnone, hstyles, currentItems, List.nil_append, htaken, itemsLeft, hlater,
      hwaiting, hcurrent]
  · rename_i candidate evaluation hsomewhere
    split at h
    · obtain ⟨taken, hsome, htaken⟩ := evaluateAll_takes slice _ _ h
      refine .took (currentItems slice.page slice.styles run.current ++ taken)
        (by simp [hsome]) ?_
      rw [itemsLeft, hstyles, htaken, List.append_assoc, itemsLeft, hlater, hwaiting, hcurrent]
    · rename_i state between hevaluate
      obtain ⟨rfl, rfl⟩ := Stop.suspended.inj h
      obtain ⟨taken, htaken, hnone⟩ :=
        evaluate_takes slice candidate evaluation tally (by rw [hevaluate])
      have hleft : currentItems slice.page slice.styles run.current =
          evaluation.left (slice.scene candidate) := by rw [hsomewhere]; rfl
      by_cases hnil : taken = []
      · obtain ⟨hover, rfl⟩ := hnone hnil
        exact .exhausted candidate evaluation hsomewhere (by rw [hstyles, hleft, hover]) hcurrent
          hwaiting
      · refine .took taken hnil ?_
        rw [itemsLeft, hstyles, hleft, htaken, List.append_assoc, itemsLeft, hlater, hwaiting,
          hcurrent]

/-- **A slice that is suspended has advanced the run.** -/
theorem slice_advanced (page : Page N S) (config : Config) (run : Run N) (clock : κ)
    (h : (run.slice page config clock).1 = false) :
    Advanced page run (run.slice page config clock).2.1 := by
  unfold slice sliceFrom at h ⊢
  simp only at h ⊢
  split at h
  · simp at h
  · rename_i waiting current hstop
    exact proceed_advanced _ run _ rfl hstop rfl rfl rfl

end Run

end CosmeticFilter
