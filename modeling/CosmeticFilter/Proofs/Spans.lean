/-
What a selector says, from left to right.

The matcher starts at the element in question and looks for elements on its left.  Told the
other way round, a selector is matched by a row of elements, one for each compound, each of
which stands to the next as the combinator between them asks.  The element in question is the
last one of the row.

Two selectors with a combinator between them are matched by two rows, one behind the other.
-/
import CosmeticFilter.Proofs.Joining

namespace CosmeticFilter

open CosmeticFilter.Text

/-! ### Rows of elements -/

namespace Complex

variable {N : Type} [DecidableEq N] {tree : ElementTree N} {scope : Option N}

/-- A row of elements, from one to another, meets the compounds and the combinators between. -/
def Spans (tree : ElementTree N) (scope : Option N) :
    Compound → List (Combinator × Compound) → N → N → Prop
  | first, [], m, n => Compound.matches tree scope m first = true ∧ m = n
  | first, (comb, next) :: more, m, n => Compound.matches tree scope m first = true ∧
    ∃ right, m ∈ comb.leftOf tree right ∧ Spans tree scope next more right n

/-- Two rows with a combinator between them are one row. -/
theorem spans_append {first next : Compound} {rest more : List (Combinator × Compound)}
    {comb : Combinator} {m n : N} :
    Spans tree scope first (rest ++ (comb, next) :: more) m n ↔
      ∃ left, Spans tree scope first rest m left ∧
        ∃ right, left ∈ comb.leftOf tree right ∧ Spans tree scope next more right n := by
  induction rest generalizing first m with
  | nil =>
    simp only [List.nil_append, Spans]
    constructor
    · rintro ⟨hfirst, right, hleft, hspans⟩
      exact ⟨m, ⟨hfirst, rfl⟩, right, hleft, hspans⟩
    · rintro ⟨left, ⟨hfirst, rfl⟩, right, hleft, hspans⟩
      exact ⟨hfirst, right, hleft, hspans⟩
  | cons pair more ih =>
    simp only [List.cons_append, Spans, ih]
    constructor
    · rintro ⟨hfirst, right, hright, left, hspans, hbehind⟩
      exact ⟨left, ⟨hfirst, right, hright, hspans⟩, hbehind⟩
    · rintro ⟨left, ⟨hfirst, right, hright, hspans⟩, hbehind⟩
      exact ⟨hfirst, right, hright, left, hspans, hbehind⟩

/-- The last element of the row meets the last compound. -/
theorem spans_concat {first : Compound} {rest : List (Combinator × Compound)} {comb : Combinator}
    {compound : Compound} {m n : N} :
    Spans tree scope first (rest ++ [(comb, compound)]) m n ↔
      ∃ left, Spans tree scope first rest m left ∧ left ∈ comb.leftOf tree n ∧
        Compound.matches tree scope n compound = true := by
  rw [spans_append]
  refine exists_congr fun left => and_congr_right fun _ => ?_
  constructor
  · rintro ⟨right, hleft, hlast, rfl⟩
    exact ⟨hleft, hlast⟩
  · rintro ⟨hleft, hlast⟩
    exact ⟨n, hleft, hlast, rfl⟩

/-- **An element matches** if a row of elements that the selector asks for ends in it. -/
theorem matches_iff_spans (sel : Complex) (n : N) :
    sel.matches tree scope n = true ↔ ∃ m, Spans tree scope sel.first sel.rest m n := by
  obtain ⟨first, rest⟩ := sel
  induction rest using List.reverseRecOn generalizing n with
  | nil => simp [matches_first, Spans]
  | append_singleton rest pair ih =>
    obtain ⟨comb, compound⟩ := pair
    have hconcat := matches_concat tree scope ⟨first, rest⟩ comb compound n
    rw [show (⟨first, rest ++ [(comb, compound)]⟩ : Complex) = concat ⟨first, rest⟩ comb compound
      from rfl, hconcat, Bool.and_eq_true, List.any_eq_true]
    simp only [concat, spans_concat, ih]
    constructor
    · rintro ⟨hlast, left, hleft, m, hspans⟩
      exact ⟨m, left, hspans, hleft, hlast⟩
    · rintro ⟨m, left, hspans, hleft, hlast⟩
      exact ⟨hlast, left, hleft, m, hspans⟩

/-! ### Selectors in front of others -/

/-- Something on the left of a row matches the selector in front. -/
theorem matches_join (left right : Complex) (comb : Combinator) (n : N) :
    (left.join comb right).matches tree scope n = true ↔
      ∃ l, left.matches tree scope l = true ∧
        ∃ m, l ∈ comb.leftOf tree m ∧ Spans tree scope right.first right.rest m n := by
  simp only [matches_iff_spans, join, spans_append]
  constructor
  · rintro ⟨start, l, hspans, hbehind⟩
    exact ⟨l, ⟨start, hspans⟩, hbehind⟩
  · rintro ⟨l, ⟨start, hspans⟩, hbehind⟩
    exact ⟨start, l, hspans, hbehind⟩

end Complex

end CosmeticFilter
