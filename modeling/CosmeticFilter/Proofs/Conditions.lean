/-
The conditions of a selector are its tokens.

A selector is put together from tokens, and none of them is dropped: the conditions of its
compounds are the simple tokens, in order.  The reader has only one condition to add, for a
text with two signs in a row, and the selector is not supported then.
-/
import CosmeticFilter.Proofs.Paths

namespace CosmeticFilter

/-- The condition that a token stands for. -/
def Token.simple? : Token → Option Simple
  | .simple cond => some cond
  | _ => none

namespace Complex

/-- The conditions of all compounds, from left to right. -/
def conditions (sel : Complex) : List Simple :=
  sel.compounds.flatten

theorem conditions_eq (sel : Complex) :
    sel.conditions = sel.first ++ (sel.rest.map (·.2)).flatten := rfl

theorem conditions_addSimple (sel : Complex) (cond : Simple) :
    (sel.addSimple cond).conditions = sel.conditions ++ [cond] := by
  rcases sel.eq_concat with hrest | ⟨left, comb, compound, rfl⟩
  · obtain ⟨first, rest⟩ := sel
    obtain rfl : rest = [] := hrest
    simp [addSimple_first, conditions_eq]
  · rw [concat_addSimple]
    simp [conditions_eq, concat]

theorem conditions_addCombinator (sel : Complex) (comb : Combinator) :
    (sel.addCombinator comb).conditions = sel.conditions := by
  simp [conditions_eq, addCombinator]

theorem supported_of_mem_conditions {sel : Complex} (h : sel.isSupported = true) {cond : Simple}
    (hcond : cond ∈ sel.conditions) : cond.isSupported = true := by
  obtain ⟨compound, hcompound, hmem⟩ := List.mem_flatten.mp hcond
  have hall := List.all_eq_true.mp h compound hcompound
  rw [Bool.and_eq_true] at hall
  exact List.all_eq_true.mp hall.2 cond hmem

end Complex

namespace PartialComplex

/-- The conditions that the tokens stand for were added, unless two signs in a row were met. -/
def Adds (source : String) (before : List Simple) (tokens : List Token)
    (after : List Simple) : Prop :=
  after = before ++ tokens.filterMap Token.simple? ∨ Simple.unsupported source ∈ after

theorem conditions_add (source : String) (state : PartialComplex) (token : Token) :
    Adds source state.sel.conditions [token] (state.add source token).sel.conditions := by
  cases token with
  | blank =>
    refine .inl ?_
    simp only [add]
    split <;> simp [Token.simple?]
  | combinator comb =>
    simp only [add]
    split
    · exact .inl (by simp [Token.simple?])
    · exact .inl (by simp [Token.simple?])
    · exact .inr (by simp [Complex.conditions_addSimple])
  | simple cond =>
    refine .inl ?_
    simp only [add]
    split <;> simp [Token.simple?, Complex.conditions_addSimple, Complex.conditions_addCombinator]

/-- What has been added stays. -/
theorem mem_conditions_add {cond : Simple} {source : String} {state : PartialComplex}
    (h : cond ∈ state.sel.conditions) (token : Token) :
    cond ∈ (state.add source token).sel.conditions := by
  cases token with
  | blank =>
    simp only [add]
    split <;> exact h
  | combinator comb =>
    simp only [add]
    split
    · exact h
    · exact h
    · rw [Complex.conditions_addSimple]
      exact List.mem_append_left _ h
  | simple cond =>
    simp only [add]
    split
    · rw [Complex.conditions_addSimple, Complex.conditions_addCombinator]
      exact List.mem_append_left _ h
    · rw [Complex.conditions_addSimple]
      exact List.mem_append_left _ h

theorem conditions_addAll (source : String) (tokens : List Token) (state : PartialComplex) :
    Adds source state.sel.conditions tokens
      (tokens.foldl (add source) state).sel.conditions := by
  induction tokens generalizing state with
  | nil => exact .inl (by simp)
  | cons token more ih =>
    rw [List.foldl_cons]
    rcases conditions_add source state token with hadded | hbad
    · refine (ih (state.add source token)).imp_left fun hmore => ?_
      rw [hmore, hadded, List.append_assoc, ← List.filterMap_append, List.singleton_append]
    · have hstays : ∀ (tokens : List Token) (state : PartialComplex),
          Simple.unsupported source ∈ state.sel.conditions →
          Simple.unsupported source ∈ (tokens.foldl (add source) state).sel.conditions := by
        intro tokens
        induction tokens with
        | nil => exact fun _ h => h
        | cons token more ih => exact fun state h => ih _ (mem_conditions_add h token)
      exact .inr (hstays more _ hbad)

theorem conditions_finish (state : PartialComplex) :
    state.finish.conditions = state.sel.conditions := by
  unfold finish
  split
  · rfl
  · rfl
  · exact Complex.conditions_addCombinator _ _

end PartialComplex

namespace Complex

/-- **The conditions of a supported selector are the simple tokens of its text**, in order. -/
theorem conditions_parse {text : String} (h : (Complex.parse text).isSupported = true) :
    (Complex.parse text).conditions = (Token.all text.toList).filterMap Token.simple? := by
  have hadds := PartialComplex.conditions_addAll text (Token.all text.toList) .empty
  have hfinish : (Complex.parse text).conditions =
      ((Token.all text.toList).foldl (PartialComplex.add text) .empty).sel.conditions :=
    PartialComplex.conditions_finish _
  rw [← hfinish] at hadds
  rcases hadds with hall | hbad
  · rw [hall]
    rfl
  · exact absurd (supported_of_mem_conditions h hbad) (by simp [Simple.isSupported])

/-- The empty text has no conditions. -/
theorem parse_empty : Complex.parse "" = ⟨[], []⟩ := by
  have htokens : Token.all "".toList = [] := Token.all_nil
  rw [Complex.parse, ofTokens, htokens]
  rfl

theorem supported_of_mem_all {text : String} (h : (Complex.parse text).isSupported = true)
    {cond : Simple} (hcond : .simple cond ∈ Token.all text.toList) : cond.isSupported = true := by
  refine supported_of_mem_conditions h ?_
  rw [conditions_parse h]
  exact List.mem_filterMap.mpr ⟨.simple cond, hcond, rfl⟩

end Complex

end CosmeticFilter
