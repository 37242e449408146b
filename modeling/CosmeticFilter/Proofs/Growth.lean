/-
Selectors grow to the right.

A selector is read from left to right and matched from right to left.  So what has been read
already is matched last: by the elements to the left of those that match what comes after.
In particular, where a text goes on without relating siblings, whatever the whole text
matches lies inside of an element that matches what was read before, or is this element.
-/
import CosmeticFilter.Proofs.Reading

namespace CosmeticFilter

variable {N : Type}

namespace Complex

/-! ### One more compound -/

/-- The selector with one more compound on its right. -/
def concat (sel : Complex) (comb : Combinator) (compound : Compound) : Complex :=
  { sel with rest := sel.rest ++ [(comb, compound)] }

/-- A selector is one compound, or has a last one. -/
theorem eq_concat (sel : Complex) :
    sel.rest = [] ∨ ∃ left comb compound, sel = concat left comb compound := by
  obtain ⟨first, rest⟩ := sel
  rcases List.eq_nil_or_concat rest with hrest | ⟨before, ⟨comb, compound⟩, hrest⟩
  · exact .inl hrest
  · exact .inr ⟨⟨first, before⟩, comb, compound, by simp [concat, hrest]⟩

theorem addCombinator_eq (sel : Complex) (comb : Combinator) :
    sel.addCombinator comb = sel.concat comb [] := rfl

theorem concat_addSimple (sel : Complex) (comb : Combinator) (compound : Compound)
    (cond : Simple) :
    (sel.concat comb compound).addSimple cond = sel.concat comb (compound ++ [cond]) := by
  simp [addSimple, concat]

theorem addSimple_first (first : Compound) (cond : Simple) :
    (⟨first, []⟩ : Complex).addSimple cond = ⟨first ++ [cond], []⟩ := rfl

@[simp] theorem last_concat (sel : Complex) (comb : Combinator) (compound : Compound) :
    (sel.concat comb compound).last = compound := by
  simp [last, concat]

theorem last_addSimple (sel : Complex) (cond : Simple) :
    (sel.addSimple cond).last = sel.last ++ [cond] := by
  rcases sel.eq_concat with hrest | ⟨left, comb, compound, rfl⟩
  · obtain ⟨first, rest⟩ := sel
    obtain rfl : rest = [] := hrest
    rfl
  · rw [concat_addSimple, last_concat, last_concat]

theorem fromRight_concat (left : Compound) (seen rest : List (Combinator × Compound))
    (comb : Combinator) (compound : Compound) :
    fromRight left seen (rest ++ [(comb, compound)]) =
      (compound, (comb, (fromRight left seen rest).1) :: (fromRight left seen rest).2) := by
  induction rest generalizing left seen with
  | nil => rfl
  | cons pair more ih => exact ih pair.2 ((pair.1, left) :: seen)

variable [DecidableEq N] (tree : ElementTree N) (scope : Option N)

theorem matches_first (first : Compound) (n : N) :
    (⟨first, []⟩ : Complex).matches tree scope n = first.matches tree scope n := by
  simp [Complex.matches, fromRight, matchesLeft]

/-- The last compound is met first, and the others on its left. -/
theorem matches_concat (sel : Complex) (comb : Combinator) (compound : Compound) (n : N) :
    (sel.concat comb compound).matches tree scope n =
      (compound.matches tree scope n &&
        (comb.leftOf tree n).any fun m => sel.matches tree scope m) := by
  simp only [Complex.matches, concat, fromRight_concat, matchesLeft]

/-- One more condition on an element leaves the others. -/
theorem matches_of_addSimple {sel : Complex} {cond : Simple} {n : N} (hlast : sel.last ≠ [])
    (h : (sel.addSimple cond).matches tree scope n = true) :
    sel.matches tree scope n = true := by
  have hcompound : ∀ compound : Compound, compound ≠ [] →
      Compound.matches tree scope n (compound ++ [cond]) = true →
      Compound.matches tree scope n compound = true := by
    intro compound hne hall
    simp only [Compound.matches, List.all_append, Bool.and_eq_true] at hall ⊢
    exact ⟨by simpa using hne, hall.2.1⟩
  rcases sel.eq_concat with hrest | ⟨left, comb, compound, rfl⟩
  · obtain ⟨first, rest⟩ := sel
    obtain rfl : rest = [] := hrest
    rw [addSimple_first, matches_first] at h
    rw [matches_first]
    exact hcompound first hlast h
  · rw [concat_addSimple, matches_concat, Bool.and_eq_true] at h
    rw [matches_concat, Bool.and_eq_true]
    rw [last_concat] at hlast
    exact ⟨hcompound compound hlast h.1, h.2⟩

end Complex

/-! ### Reading on -/

section Reading

variable [DecidableEq N]

/-- What has been read matches inside of what the base matches only. -/
structure Grown (tree : ElementTree N) (scope : Option N) (base : Complex)
    (state : PartialComplex) : Prop where
  last : state.sel.last ≠ []
  waiting : ∀ comb, state.waiting = some comb → comb.asksSiblings = false
  inside : ∀ n, state.sel.matches tree scope n = true →
    ∃ m, (m = n ∨ m ∈ tree.ancestors n) ∧ base.matches tree scope m = true

namespace Grown

variable {tree : ElementTree N} {scope : Option N} {base : Complex} {state : PartialComplex}

theorem start (hlast : base.last ≠ []) : Grown tree scope base ⟨base, none⟩ :=
  ⟨hlast, by simp, fun n hn => ⟨n, .inl rfl, hn⟩⟩

theorem addSimple (h : Grown tree scope base state) (cond : Simple) :
    Grown tree scope base { state with sel := state.sel.addSimple cond } :=
  ⟨by simp [Complex.last_addSimple], h.waiting, fun n hn =>
    h.inside n (Complex.matches_of_addSimple tree scope h.last hn)⟩

omit [DecidableEq N] in
/-- What stands above an ancestor of an element stands above the element. -/
theorem ancestors_trans (tree : ElementTree N) {m p n : N} (hm : m ∈ tree.ancestors p)
    (hp : p ∈ tree.ancestors n) : m ∈ tree.ancestors n := by
  induction hdepth : tree.depth n using Nat.strongRecOn generalizing n with
  | ind depth ih =>
    rw [tree.ancestors_eq] at hp ⊢
    cases hparent : tree.parent? n with
    | none => simp [hparent] at hp
    | some q =>
      simp only [hparent, List.mem_cons] at hp ⊢
      rcases hp with rfl | hp
      · exact .inr hm
      · exact .inr (ih _ (hdepth ▸ tree.depth_parent hparent) hp rfl)

omit [DecidableEq N] in
theorem mem_ancestors_of_leftOf {comb : Combinator} (hcomb : comb.asksSiblings = false) {m n : N}
    (hm : m ∈ comb.leftOf tree n) : m ∈ tree.ancestors n := by
  cases comb with
  | descendant => exact hm
  | child =>
    rw [tree.ancestors_eq]
    simp only [Combinator.leftOf, Option.mem_toList] at hm
    simp [hm]
  | adjacent | sibling => simp [Combinator.asksSiblings] at hcomb

/-- A compound on the right of what has been read. -/
theorem inside_concat (h : Grown tree scope base state) {comb : Combinator}
    (hcomb : comb.asksSiblings = false) {compound : Compound} {n : N}
    (hn : (state.sel.concat comb compound).matches tree scope n = true) :
    ∃ m, (m = n ∨ m ∈ tree.ancestors n) ∧ base.matches tree scope m = true := by
  rw [Complex.matches_concat, Bool.and_eq_true, List.any_eq_true] at hn
  obtain ⟨-, left, hleft, hmatches⟩ := hn
  have habove := mem_ancestors_of_leftOf hcomb hleft
  obtain ⟨m, hm, hbase⟩ := h.inside left hmatches
  refine ⟨m, .inr ?_, hbase⟩
  rcases hm with rfl | hm
  · exact habove
  · exact ancestors_trans tree hm habove

theorem add (h : Grown tree scope base state) (source : String) {deps : Dependencies}
    (hdeps : deps.siblings = false) {token : Token} (htoken : token.Fits deps) :
    Grown tree scope base (state.add source token) := by
  cases token with
  | blank =>
    simp only [PartialComplex.add]
    split
    · refine ⟨h.last, fun comb hcomb => ?_, h.inside⟩
      rw [← Option.some.inj hcomb]
      rfl
    · exact h
  | combinator comb =>
    have hcomb : comb.asksSiblings = false := by
      rw [Bool.eq_false_iff]
      intro hasks
      simp [htoken hasks] at hdeps
    have hnew : Grown tree scope base { state with waiting := some comb } :=
      ⟨h.last, fun other hother => Option.some.inj hother ▸ hcomb, h.inside⟩
    simp only [PartialComplex.add]
    split
    · exact hnew
    · exact hnew
    · exact h.addSimple _
  | simple cond =>
    simp only [PartialComplex.add]
    split
    · rename_i comb hcomb
      rw [Complex.addCombinator_eq, Complex.concat_addSimple]
      exact ⟨by simp, by simp, fun n hn => h.inside_concat (h.waiting comb hcomb) hn⟩
    · obtain ⟨hlast, -, hinside⟩ := h.addSimple cond
      exact ⟨hlast, by simp, hinside⟩

theorem addAll (h : Grown tree scope base state) (source : String) {deps : Dependencies}
    (hdeps : deps.siblings = false) {tokens : List Token}
    (htokens : ∀ token ∈ tokens, token.Fits deps) :
    Grown tree scope base (tokens.foldl (PartialComplex.add source) state) := by
  induction tokens generalizing state with
  | nil => exact h
  | cons token more ih =>
    obtain ⟨htoken, hmore⟩ := List.forall_mem_cons.mp htokens
    exact ih (h.add source hdeps htoken) hmore

/-- A combinator that is left over matches nothing, so that the end of the text adds nothing. -/
theorem finish (h : Grown tree scope base state) {n : N}
    (hn : state.finish.matches tree scope n = true) :
    ∃ m, (m = n ∨ m ∈ tree.ancestors n) ∧ base.matches tree scope m = true := by
  unfold PartialComplex.finish at hn
  split at hn
  · exact h.inside n hn
  · exact h.inside n hn
  · rename_i comb _ hwaiting
    exact h.inside_concat (h.waiting comb hwaiting) hn

end Grown

end Reading

end CosmeticFilter
