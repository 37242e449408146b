/-
Confined evaluations on documents.

An evaluation that is pulled on a page until nothing comes any more has given all that it
had left, which for one that has just been started are the items of its chain.  The page
of a document is orderly, so confining an evaluation to targets drops the matches with an
anchor that no target is related to, and does nothing else: neither the other matches nor
their order change, on whatever level of the chain the anchors come in.
-/
import CosmeticFilter.Evaluation.Ending
import CosmeticFilter.Proofs.Generator
import CosmeticFilter.Proofs.Tree

namespace CosmeticFilter.Evaluation

variable {N S : Type} [DecidableEq N]

/-- The items that an evaluation gives when it is pulled to its end on a page that stays. -/
def exhaust (scene : Scene N S) (e : Evaluation N) : List (Item N) :=
  match _h : (e.pull scene).item with
  | none => []
  | some item => item :: exhaust scene (e.pull scene).next
termination_by e
decreasing_by exact follows_of_item _h

/-- Pulling to the end gives all that is left. -/
theorem exhaust_eq_left (scene : Scene N S) (e : Evaluation N) :
    exhaust scene e = left scene e := by
  fun_induction exhaust scene e with
  | case1 e hitem => exact (left_of_none hitem).symm
  | case2 e item hitem ih => rw [ih, left_of_some hitem]

theorem exhaust_start (scene : Scene N S) (chain : Chain) (before : String) (scope : N) :
    exhaust scene (start scene.styles chain before scope) = items scene chain before scope := by
  rw [exhaust_eq_left, left_start]

omit [DecidableEq N] in
/-- Without targets no node is pruned; with targets those are that none of them is related to. -/
theorem prunes_some (page : Page N S) (styles : List Style) (targets : List N) (n : N) :
    (Scene.mk page styles (some targets)).prunes n = !targets.any (page.related n) :=
  rfl

/--
**Confining an evaluation to targets filters its matches by their anchors.**  On every
document, the matches that come with targets are those that come without of which every
anchor contains a target or lies inside of one, in the same order.
-/
theorem confined_matches (doc : Document) (styles : List Style) (targets : List Nat)
    (chain : Chain) (before : String) (scope : Nat) :
    founds (exhaust ⟨doc.page, styles, some targets⟩ (start styles chain before scope)) =
      (founds (exhaust ⟨doc.page, styles, none⟩ (start styles chain before scope))).filter
        fun found => found.2.all fun anchor => targets.any fun target =>
          doc.contains anchor target || doc.contains target anchor := by
  have hconfined := exhaust_start ⟨doc.page, styles, some targets⟩ chain before scope
  have hfree := exhaust_start ⟨doc.page, styles, none⟩ chain before scope
  rw [hconfined, hfree, founds_items ⟨doc.page, styles, some targets⟩ doc.page_orderly]
  refine List.filter_congr fun found _ => ?_
  simp only [prunes_some, Bool.not_not]
  rfl

end CosmeticFilter.Evaluation
