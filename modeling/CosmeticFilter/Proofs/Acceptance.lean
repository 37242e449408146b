/-
Which texts are selectors.

The reader takes token after token and keeps a combinator waiting: blanks may put one there, a
sign replaces what blanks have put there, and the end of the text drops it or leaves an empty
compound.  All this comes to a short grammar of the tokens.  A selector is compounds with
separators between them, and maybe blanks at both ends; a compound is one or more conditions; a
separator is blanks, or one sign with or without blanks beside it.

What the grammar derives is read as it says, by the states that the reader goes through.  The
other way round, a text is followed token by token: wherever the grammar does not go on, the
reader has met two signs in a row, or a sign at one end of the text, and the selector cannot
become supported any more.
-/
import CosmeticFilter.Proofs.Roundtrip
import CosmeticFilter.Proofs.Standard

namespace CosmeticFilter

open CosmeticFilter.Text

/-! ### The grammar -/

namespace Token

/-- Blanks, or nothing. -/
def IsGap (tokens : List Token) : Prop :=
  tokens = [] ∨ tokens = [.blank]

/-- The tokens between two compounds, and the combinator that they stand for. -/
inductive Separates : List Token → Combinator → Prop
  | blank : Separates [.blank] .descendant
  | sign {before after : List Token} (comb : Combinator) (hbefore : IsGap before)
      (hafter : IsGap after) : Separates (before ++ .combinator comb :: after) comb

/-- Compounds, each with the separator in front of it. -/
inductive SpellsRest : List Token → List (Combinator × Compound) → Prop
  | nil : SpellsRest [] []
  | cons {sep tokens : List Token} {comb : Combinator} {compound : Compound}
      {rest : List (Combinator × Compound)} (hsep : Separates sep comb) (hfilled : compound ≠ [])
      (hrest : SpellsRest tokens rest) :
      SpellsRest (sep ++ (compound.map .simple ++ tokens)) ((comb, compound) :: rest)

/-- The tokens are those of the selector, with or without blanks at the ends. -/
def Spells (tokens : List Token) (sel : Complex) : Prop :=
  ∃ lead tail trail, IsGap lead ∧ IsGap trail ∧ sel.first ≠ [] ∧ SpellsRest tail sel.rest ∧
    tokens = lead ++ (sel.first.map .simple ++ (tail ++ trail))

/-- The longest stretches of conditions, in order. -/
def runs (tokens : List Token) : List Compound :=
  ((tokens.splitOnP fun token => token.simple?.isNone).map (·.filterMap simple?)).filter
    (!·.isEmpty)

/-! ### Stretches of conditions -/

theorem runs_cons {token : Token} (h : token.simple? = none) (more : List Token) :
    runs (token :: more) = runs more := by
  simp [runs, List.splitOnP_cons_eq_if_modifyHead, h]

/-- Conditions in front of another token are a stretch of their own. -/
theorem runs_append {compound : Compound} (hfilled : compound ≠ []) {rest : List Token}
    (hrest : ∀ token ∈ rest.head?, token.simple? = none) :
    runs (compound.map .simple ++ rest) = compound :: runs rest := by
  have hsimple : ∀ token ∈ compound.map Token.simple, token.simple?.isNone = false := by
    intro token htoken
    obtain ⟨cond, -, rfl⟩ := List.mem_map.mp htoken
    rfl
  have hback : (compound.map Token.simple).filterMap simple? = compound := by
    simp [List.filterMap_map, Function.comp_def, simple?]
  cases rest with
  | nil =>
    rw [List.append_nil, runs, List.splitOnP_eq_singleton hsimple]
    simp [runs, hback, hfilled]
  | cons token more =>
    have htoken : token.simple? = none := hrest token rfl
    have hsplit := List.splitOnP_append_cons_of_forall_mem hsimple token (by simp [htoken]) more
    rw [runs_cons htoken, runs, hsplit]
    simp [runs, hback, hfilled]

theorem runs_gap {gap : List Token} (h : IsGap gap) (rest : List Token) :
    runs (gap ++ rest) = runs rest := by
  rcases h with rfl | rfl
  · rfl
  · exact runs_cons rfl rest

theorem head_gap {gap : List Token} (h : IsGap gap) :
    ∀ token ∈ gap.head?, token.simple? = none := by
  rcases h with rfl | rfl <;> simp [simple?]

theorem Separates.runs {sep : List Token} {comb : Combinator} (h : Separates sep comb)
    (rest : List Token) : Token.runs (sep ++ rest) = Token.runs rest := by
  cases h with
  | blank => exact runs_cons rfl rest
  | sign _ hbefore hafter =>
    rw [List.append_assoc, runs_gap hbefore, List.cons_append, runs_cons rfl, runs_gap hafter]

theorem Separates.head {sep : List Token} {comb : Combinator} (h : Separates sep comb)
    (rest : List Token) : ∀ token ∈ (sep ++ rest).head?, token.simple? = none := by
  cases h with
  | blank => simp [simple?]
  | sign _ hbefore _ => rcases hbefore with rfl | rfl <;> simp [simple?]

theorem SpellsRest.head {tail trail : List Token} {rest : List (Combinator × Compound)}
    (h : SpellsRest tail rest) (htrail : IsGap trail) :
    ∀ token ∈ (tail ++ trail).head?, token.simple? = none := by
  cases h with
  | nil => exact head_gap htrail
  | cons hsep =>
    rw [List.append_assoc]
    exact hsep.head _

theorem SpellsRest.runs {tail trail : List Token} {rest : List (Combinator × Compound)}
    (h : SpellsRest tail rest) (htrail : IsGap trail) :
    Token.runs (tail ++ trail) = rest.map (·.2) := by
  induction h with
  | nil =>
    have hnone := runs_gap htrail []
    rwa [List.append_nil] at hnone
  | cons hsep hfilled hrest ih =>
    rw [List.append_assoc, List.append_assoc, hsep.runs,
      runs_append hfilled (hrest.head htrail), ih]
    rfl

/-- The compounds are the longest stretches of conditions. -/
theorem Spells.runs {tokens : List Token} {sel : Complex} (h : Spells tokens sel) :
    Token.runs tokens = sel.compounds := by
  obtain ⟨lead, tail, trail, hlead, htrail, hfirst, hrest, rfl⟩ := h
  rw [runs_gap hlead, runs_append hfirst (hrest.head htrail), hrest.runs htrail]
  rfl

/-! ### The conditions -/

theorem SpellsRest.filled {tail : List Token} {rest : List (Combinator × Compound)}
    (h : SpellsRest tail rest) : ∀ pair ∈ rest, pair.2 ≠ [] := by
  induction h with
  | nil => simp
  | cons _ hfilled _ ih => exact List.forall_mem_cons.mpr ⟨hfilled, ih⟩

theorem Spells.filled {tokens : List Token} {sel : Complex} (h : Spells tokens sel) :
    ∀ compound ∈ sel.compounds, compound ≠ [] := by
  obtain ⟨lead, tail, trail, -, -, hfirst, hrest, -⟩ := h
  refine List.forall_mem_cons.mpr ⟨hfirst, fun compound hcompound => ?_⟩
  obtain ⟨pair, hpair, rfl⟩ := List.mem_map.mp hcompound
  exact hrest.filled pair hpair

theorem SpellsRest.mem {tail : List Token} {rest : List (Combinator × Compound)}
    (h : SpellsRest tail rest) : ∀ pair ∈ rest, ∀ cond ∈ pair.2, .simple cond ∈ tail := by
  induction h with
  | nil => simp
  | cons _ _ _ ih =>
    refine List.forall_mem_cons.mpr ⟨fun cond hcond => ?_, fun pair hpair cond hcond => ?_⟩
    · exact List.mem_append_right _ (List.mem_append_left _ (List.mem_map_of_mem hcond))
    · exact List.mem_append_right _ (List.mem_append_right _ (ih pair hpair cond hcond))

/-- Each condition is one of the tokens. -/
theorem Spells.mem {tokens : List Token} {sel : Complex} (h : Spells tokens sel) :
    ∀ cond ∈ sel.conditions, .simple cond ∈ tokens := by
  obtain ⟨lead, tail, trail, -, -, -, hrest, rfl⟩ := h
  intro cond hcond
  refine List.mem_append_right _ ?_
  rw [Complex.conditions_eq] at hcond
  rcases List.mem_append.mp hcond with hcond | hcond
  · exact List.mem_append_left _ (List.mem_map_of_mem hcond)
  · obtain ⟨compound, hcompound, hmem⟩ := List.mem_flatten.mp hcond
    obtain ⟨pair, hpair, rfl⟩ := List.mem_map.mp hcompound
    exact List.mem_append_right _ (List.mem_append_left _ (hrest.mem pair hpair cond hmem))

end Token

/-! ### What the grammar derives is read -/

namespace PartialComplex

variable {source : String} {sel : Complex}

theorem addAll_gap_waiting {gap : List Token} (h : Token.IsGap gap) (comb : Combinator) :
    gap.foldl (add source) ⟨sel, some comb⟩ = ⟨sel, some comb⟩ := by
  rcases h with rfl | rfl <;> rfl

/-- Behind a separator its combinator waits. -/
theorem addAll_separates {sep : List Token} {comb : Combinator} (h : Token.Separates sep comb)
    (hlast : sel.last ≠ []) : sep.foldl (add source) ⟨sel, none⟩ = ⟨sel, some comb⟩ := by
  cases h with
  | blank => simp [add, hlast]
  | @sign before after _ hbefore hafter =>
    have hsign : (before ++ [Token.combinator comb]).foldl (add source) ⟨sel, none⟩ =
        ⟨sel, some comb⟩ := by
      rcases hbefore with rfl | rfl
      · rfl
      · simp [add, hlast]
    rw [List.append_cons, List.foldl_append, hsign, addAll_gap_waiting hafter]

theorem addAll_spellsRest {tail : List Token} {rest : List (Combinator × Compound)}
    (h : Token.SpellsRest tail rest) (hlast : sel.last ≠ []) :
    tail.foldl (add source) ⟨sel, none⟩ = ⟨⟨sel.first, sel.rest ++ rest⟩, none⟩ := by
  induction h generalizing sel with
  | nil => simp
  | cons hsep hfilled _ ih =>
    rw [List.foldl_append, List.foldl_append, addAll_separates hsep hlast,
      addAll_waiting _ hfilled, ih (by simpa using hfilled)]
    simp [Complex.concat]

/-- **Tokens of a selector** are read as the selector. -/
theorem ofTokens_spells {tokens : List Token} (h : Token.Spells tokens sel) :
    Complex.ofTokens source tokens = sel := by
  obtain ⟨lead, tail, trail, hlead, htrail, hfirst, hrest, rfl⟩ := h
  have hlast : (⟨sel.first, []⟩ : Complex).last ≠ [] := hfirst
  have hstart : lead.foldl (add source) .empty = .empty := by
    rcases hlead with rfl | rfl <;> rfl
  rw [Complex.ofTokens, List.foldl_append, hstart, List.foldl_append, empty, addAll_compound,
    foldl_addSimple_first, List.nil_append, List.foldl_append, addAll_spellsRest hrest hlast]
  -- Blanks at the end wait for a compound that does not come.
  rcases htrail with rfl | rfl
  · rfl
  · simp only [List.nil_append, List.foldl_cons, List.foldl_nil, add]
    split <;> rfl

end PartialComplex

/-! ### Tokens of a text -/

namespace Token

/-- Blanks are one token each time, and a sign is one of the three. -/
structure Orderly (tokens : List Token) : Prop where
  blanks : tokens.IsChain fun first second => first = .blank → second ≠ .blank
  signs : ∀ comb, .combinator comb ∈ tokens → comb ≠ .descendant

theorem Orderly.tail {token : Token} {more : List Token} (h : Orderly (token :: more)) :
    Orderly more :=
  ⟨(List.isChain_cons.mp h.blanks).2, fun comb hcomb => h.signs comb (List.mem_cons_of_mem _ hcomb)⟩

theorem next?_combinator {cs rest : List Char} {comb : Combinator}
    (h : next? cs = some (.combinator comb, rest)) : comb ≠ .descendant := by
  cases cs with
  | nil => cases h
  | cons c after =>
    unfold next? at h
    simp only at h
    split at h
    · cases (Prod.mk.inj (Option.some.inj h)).1
    · split at h <;> cases (Prod.mk.inj (Option.some.inj h)).1 <;> decide

/-- Blanks are read as long as they go on. -/
theorem next?_blank {cs rest : List Char} (h : next? cs = some (.blank, rest)) :
    ∀ token after, next? rest = some (token, after) → token ≠ .blank := by
  have hhead : rest.head?.all (fun c => !isBlank c) = true := by
    cases cs with
    | nil => cases h
    | cons c behind =>
      unfold next? at h
      simp only at h
      split at h
      · obtain ⟨-, rfl⟩ := Prod.mk.inj (Option.some.inj h)
        have hnot := List.head?_dropWhile_not isBlank behind
        cases hdrop : (behind.dropWhile isBlank).head? <;> simp_all
      · split at h <;> cases (Prod.mk.inj (Option.some.inj h)).1
  rintro token after hnext rfl
  cases rest with
  | nil => cases hnext
  | cons c behind =>
    have hc : isBlank c = false := by simpa using hhead
    unfold next? at hnext
    simp only [hc, Bool.false_eq_true, if_false] at hnext
    split at hnext <;> cases (Prod.mk.inj (Option.some.inj hnext)).1

theorem orderly_all (cs : List Char) : Orderly (all cs) := by
  fun_induction all cs with
  | case1 => exact ⟨.nil, by simp⟩
  | case2 cs token rest hnext ih =>
    refine ⟨List.isChain_cons.mpr ⟨fun second hsecond => ?_, ih.blanks⟩, fun comb hcomb => ?_⟩
    · rintro rfl
      rw [all_eq] at hsecond
      split at hsecond
      · cases hsecond
      · rename_i later more hlater
        obtain rfl := Option.some.inj hsecond
        exact next?_blank hnext later more hlater
    · rcases List.mem_cons.mp hcomb with rfl | hcomb
      · exact next?_combinator hnext
      · exact ih.signs comb hcomb

/-- Behind blanks, if there are any, there is nothing, a sign or a condition. -/
theorem Orderly.exists_gap {tokens : List Token} (h : Orderly tokens) :
    ∃ gap rest, IsGap gap ∧ tokens = gap ++ rest ∧
      (rest = [] ∨ (∃ comb more, rest = .combinator comb :: more ∧ comb ≠ .descendant ∧
        Orderly more) ∨ ∃ cond more, rest = .simple cond :: more ∧ Orderly more) := by
  have hkinds : ∀ rest, Orderly rest → (∀ token ∈ rest.head?, token ≠ .blank) →
      (rest = [] ∨ (∃ comb more, rest = .combinator comb :: more ∧ comb ≠ .descendant ∧
        Orderly more) ∨ ∃ cond more, rest = .simple cond :: more ∧ Orderly more) := by
    intro rest hrest hhead
    cases rest with
    | nil => exact .inl rfl
    | cons token more =>
      cases token with
      | blank => exact absurd rfl (hhead .blank rfl)
      | combinator comb =>
        exact .inr (.inl ⟨comb, more, rfl, hrest.signs comb List.mem_cons_self, hrest.tail⟩)
      | simple cond => exact .inr (.inr ⟨cond, more, rfl, hrest.tail⟩)
  by_cases hblank : tokens.head? = some .blank
  · obtain ⟨more, rfl⟩ := List.head?_eq_some_iff.mp hblank
    exact ⟨[.blank], more, .inr rfl, rfl, hkinds more h.tail fun token htoken =>
      (List.isChain_cons.mp h.blanks).1 token htoken rfl⟩
  · exact ⟨[], tokens, .inl rfl, rfl, hkinds tokens h fun token htoken heq =>
      hblank (heq ▸ htoken)⟩

/-! ### Following the reader -/

/-- Behind a condition the tokens go on as those of a selector. -/
def GoesOn (tokens : List Token) : Prop :=
  ∃ (compound : Compound) (rest : List (Combinator × Compound)) (tail trail : List Token),
    IsGap trail ∧ SpellsRest tail rest ∧ tokens = compound.map .simple ++ (tail ++ trail)

theorem goesOn_gap {trail : List Token} (h : IsGap trail) : GoesOn trail :=
  ⟨[], [], [], trail, h, .nil, rfl⟩

theorem GoesOn.simple {tokens : List Token} (h : GoesOn tokens) (cond : Simple) :
    GoesOn (.simple cond :: tokens) := by
  obtain ⟨compound, rest, tail, trail, htrail, hrest, rfl⟩ := h
  exact ⟨cond :: compound, rest, tail, trail, htrail, hrest, rfl⟩

theorem GoesOn.separated {tokens sep : List Token} (h : GoesOn tokens) {comb : Combinator}
    (hsep : Separates sep comb) (cond : Simple) : GoesOn (sep ++ .simple cond :: tokens) := by
  obtain ⟨compound, rest, tail, trail, htrail, hrest, rfl⟩ := h
  refine ⟨[], (comb, cond :: compound) :: rest, _, trail, htrail,
    .cons hsep (List.cons_ne_nil _ _) hrest, ?_⟩
  simp

end Token

namespace PartialComplex

open Token

variable {source : String} {sel : Complex} {tokens : List Token}

/-- Behind a sign a condition has to follow, maybe with blanks in front. -/
theorem exists_simple_of_waiting {comb : Combinator} (hsign : comb ≠ .descendant)
    (hread : Orderly tokens)
    (h : (tokens.foldl (add source) ⟨sel, some comb⟩).finish.isSupported = true) :
    ∃ gap cond rest, IsGap gap ∧ tokens = gap ++ .simple cond :: rest ∧ Orderly rest ∧
      (rest.foldl (add source) ⟨sel.concat comb [cond], none⟩).finish.isSupported = true := by
  -- Two signs in a row leave a condition that is not supported.
  have hrefused : ∀ (other : Combinator) (more : List Token),
      (((Token.combinator other) :: more).foldl (add source) ⟨sel, some comb⟩).finish.isSupported =
        false := by
    intro other more
    have htwice : add source ⟨sel, some comb⟩ (.combinator other) =
        ⟨sel.addSimple (.unsupported source), some comb⟩ := by
      cases comb <;> first | rfl | exact absurd rfl hsign
    rw [List.foldl_cons, htwice]
    exact (Leading.addAll (.inr (by simp [Complex.conditions_addSimple])) more).not_supported
  -- A sign at the end leaves an empty compound.
  have hdangling : (⟨sel, some comb⟩ : PartialComplex).finish.isSupported = false := by
    have hfinish : (⟨sel, some comb⟩ : PartialComplex).finish = sel.concat comb [] := by
      cases comb <;> first | rfl | exact absurd rfl hsign
    simp [hfinish, Complex.isSupported, Complex.compounds, Complex.concat]
  have htaken : ∀ (cond : Simple) (rest : List Token),
      ((Token.simple cond) :: rest).foldl (add source) ⟨sel, some comb⟩ =
        rest.foldl (add source) ⟨sel.concat comb [cond], none⟩ := by
    intro cond rest
    rw [List.foldl_cons]
    simp [add, Complex.addCombinator_eq, Complex.concat_addSimple]
  obtain ⟨gap, behind, hgap, rfl, hbehind⟩ := hread.exists_gap
  rw [List.foldl_append, addAll_gap_waiting hgap] at h
  rcases hbehind with rfl | ⟨other, more, rfl, -, -⟩ | ⟨cond, rest, rfl, hrest⟩
  · exact absurd h (by simp [hdangling])
  · exact absurd h (Bool.eq_false_iff.mp (hrefused other more))
  · rw [htaken] at h
    exact ⟨gap, cond, rest, hgap, rfl, hrest, h⟩

/-- Behind a condition a supported selector goes on as the grammar says. -/
theorem goesOn_of_supported (hread : Orderly tokens) (hlast : sel.last ≠ [])
    (h : (tokens.foldl (add source) ⟨sel, none⟩).finish.isSupported = true) : GoesOn tokens := by
  induction hlength : tokens.length using Nat.strongRecOn generalizing tokens sel with
  | ind length ih =>
    subst hlength
    obtain ⟨gap, behind, hgap, rfl, hbehind⟩ := hread.exists_gap
    rcases hbehind with rfl | ⟨comb, more, rfl, hsign, hmore⟩ | ⟨cond, more, rfl, hmore⟩
    · rw [List.append_nil]
      exact goesOn_gap hgap
    · have hwaits : (gap ++ [Token.combinator comb]).foldl (add source) ⟨sel, none⟩ =
          ⟨sel, some comb⟩ := addAll_separates (.sign comb hgap (.inl rfl)) hlast
      rw [List.append_cons, List.foldl_append, hwaits] at h
      obtain ⟨after, cond, rest, hafter, rfl, hbehind, hrest⟩ :=
        exists_simple_of_waiting hsign hmore h
      have hshorter : rest.length <
          (gap ++ .combinator comb :: (after ++ .simple cond :: rest)).length := by
        simp only [List.length_append, List.length_cons]
        omega
      have hgoes := ih rest.length hshorter hbehind (by simp) hrest rfl
      simpa using hgoes.separated (.sign comb hgap hafter) cond
    · rcases hgap with rfl | rfl
      · refine GoesOn.simple (ih more.length (by simp) hmore ?_ h rfl) cond
        simp [Complex.last_addSimple]
      · have htaken : [.blank, .simple cond].foldl (add source) ⟨sel, none⟩ =
            ⟨sel.concat .descendant [cond], none⟩ := by
          simp [add, hlast, Complex.addCombinator_eq, Complex.concat_addSimple]
        have hsplit : [Token.blank] ++ .simple cond :: more = [.blank, .simple cond] ++ more := rfl
        rw [hsplit, List.foldl_append, htaken] at h
        have hgoes := ih more.length (by simp) hmore (by simp) h rfl
        exact hgoes.separated .blank cond

/-- A supported selector is one that the grammar derives. -/
theorem exists_spells {text : String} (h : (Complex.parse text).isSupported = true) :
    ∃ sel, Spells (all text.toList) sel := by
  have hread := orderly_all text.toList
  have hleads : leads (all text.toList) = false := by
    by_contra hleads
    rw [Complex.not_supported_of_leads (by simpa using hleads)] at h
    cases h
  have hbegins : ∀ (lead : List Token) (cond : Simple) (more : List Token), IsGap lead →
      all text.toList = lead ++ .simple cond :: more → Orderly more →
      ∃ sel, Spells (all text.toList) sel := by
    intro lead cond more hlead htokens hmore
    have hstart : (all text.toList).foldl (add text) .empty =
        more.foldl (add text) ⟨⟨[cond], []⟩, none⟩ := by
      rw [htokens]
      rcases hlead with rfl | rfl <;> rfl
    rw [Complex.parse, Complex.ofTokens, hstart] at h
    have hlast : (⟨[cond], []⟩ : Complex).last ≠ [] := List.cons_ne_nil cond []
    obtain ⟨compound, rest, tail, trail, htrail, hrest, rfl⟩ := goesOn_of_supported hmore hlast h
    exact ⟨⟨cond :: compound, rest⟩, lead, tail, trail, hlead, htrail,
      List.cons_ne_nil cond compound, hrest, htokens⟩
  rw [Complex.parse, Complex.ofTokens] at h
  generalize all text.toList = tokens at *
  obtain ⟨gap, behind, hgap, rfl, hbehind⟩ := hread.exists_gap
  rcases hbehind with rfl | ⟨comb, more, rfl, -, -⟩ | ⟨cond, more, rfl, hmore⟩
  · rcases hgap with rfl | rfl <;> cases h
  · rcases hgap with rfl | rfl <;> cases hleads
  · exact hbegins gap cond more hgap rfl hmore

end PartialComplex

/-! ### Acceptance -/

namespace Complex

/-- What the grammar derives is supported, if its conditions are. -/
theorem supported_of_spells {tokens : List Token} {sel : Complex} (h : Token.Spells tokens sel)
    (hconds : ∀ cond, .simple cond ∈ tokens → cond.isSupported = true) :
    sel.isSupported = true := by
  refine List.all_eq_true.mpr fun compound hcompound => ?_
  rw [Bool.and_eq_true, Bool.not_eq_true', List.isEmpty_eq_false_iff, List.all_eq_true]
  refine ⟨h.filled compound hcompound, fun cond hcond => hconds cond (h.mem cond ?_)⟩
  exact List.mem_flatten.mpr ⟨compound, hcompound, hcond⟩

/--
**Acceptance is a grammar of tokens.**  A text stands for a supported selector if and only if all
conditions among its tokens are supported, and the tokens are those of a selector: compounds with
separators between them.  It stands for that selector then, whose compounds are the longest
stretches of conditions, and whose combinators are the separators, in order.
-/
theorem accepted_iff_spelt (text : String) :
    let tokens := Token.all text.toList
    ((Complex.parse text).isSupported = true ↔
      (∀ cond, .simple cond ∈ tokens → cond.isSupported = true) ∧
        ∃ sel, Token.Spells tokens sel) ∧
    ∀ sel, Token.Spells tokens sel →
      Complex.parse text = sel ∧ sel.compounds = Token.runs tokens := by
  intro tokens
  have hread : ∀ sel, Token.Spells tokens sel → Complex.parse text = sel :=
    fun sel hsel => PartialComplex.ofTokens_spells hsel
  refine ⟨⟨fun hsupported => ⟨fun _ => supported_of_mem_all hsupported,
    PartialComplex.exists_spells hsupported⟩, ?_⟩,
    fun sel hsel => ⟨hread sel hsel, hsel.runs.symm⟩⟩
  rintro ⟨hconds, sel, hsel⟩
  rw [hread sel hsel]
  exact supported_of_spells hsel hconds

/-- Three compounds, with a sign behind blanks and with blanks between them. -/
theorem accepted_iff_spelt_path :
    let text := " div.box  >p span "
    let sel : Complex := ⟨[.type "div", .class "box"],
      [(.child, [.type "p"]), (.descendant, [.type "span"])]⟩
    Token.Spells (Token.all text.toList) sel ∧ (Complex.parse text).isSupported = true ∧
      Complex.parse text = sel ∧ sel.compounds = Token.runs (Token.all text.toList) := by
  intro text sel
  have htokens : Token.all text.toList =
      [.blank, .simple (.type "div"), .simple (.class "box"), .blank, .combinator .child,
        .simple (.type "p"), .blank, .simple (.type "span"), .blank] := by
    cbv
  have hspan : Token.SpellsRest [.blank, .simple (.type "span")]
      [(.descendant, [.type "span"])] :=
    @Token.SpellsRest.cons _ _ _ [.type "span"] _ .blank (List.cons_ne_nil _ _) .nil
  have htail : Token.SpellsRest [.blank, .combinator .child, .simple (.type "p"), .blank,
      .simple (.type "span")] sel.rest :=
    @Token.SpellsRest.cons _ _ _ [.type "p"] _ (.sign .child (.inr rfl) (.inl rfl))
      (List.cons_ne_nil _ _) hspan
  have hspells : Token.Spells (Token.all text.toList) sel :=
    ⟨[.blank], _, [.blank], .inr rfl, .inr rfl, by simp [sel], htail, htokens⟩
  obtain ⟨haccepted, hread⟩ := accepted_iff_spelt text
  refine ⟨hspells, haccepted.mpr ⟨?_, sel, hspells⟩, hread sel hspells⟩
  rw [htokens]
  simp [Simple.isSupported]

end Complex

end CosmeticFilter
