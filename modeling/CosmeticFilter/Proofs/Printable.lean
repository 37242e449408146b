/-
What is read can be written.

A condition can be written if its name is one, in small letters where case does not count, if
its place is a number of a machine word, and if its value fits between quotes of one kind or
does without.  Each condition that is read is of this sort, for the reader takes names as long
as they go on, and values up to the sign that ends them.

Conditions are written without anything between them.  So a type must not stand behind a name,
or both would be read as one.  In what was read none does, for a name that could go on is read
on, and between two conditions of one compound there is nothing else.
-/
import CosmeticFilter.Proofs.Conditions
import CosmeticFilter.Selector.Printer
import Mathlib

namespace CosmeticFilter

open CosmeticFilter.Text

/-! ### Names and values -/

namespace Token

theorem isNameChar_toLower {c : Char} (h : isNameChar c = true) : isNameChar c.toLower = true := by
  by_cases hupper : c.isUpper = true
  · have halpha : c.toLower.isAlpha = true := by
      rw [Char.isAlpha_toLower_eq_isAlpha, Char.isAlpha, hupper, Bool.true_or]
    simp [isNameChar, Char.isAlphanum, halpha]
  · rwa [Char.toLower_eq_of_not_isUpper hupper]

/-- The text has none of the letters A to Z. -/
def IsSmall (name : String) : Prop :=
  ∀ c ∈ name.toList, c.isUpper = false

theorem IsSmall.lower_eq {name : String} (h : IsSmall name) : lower name = name := by
  have hsame : name.toList.map Char.toLower = name.toList := by
    refine (List.map_congr_left fun c hc => ?_).trans (List.map_id name.toList)
    exact Char.toLower_eq_of_not_isUpper (by simp [h c hc])
  rw [lower, hsame, String.ofList_toList]

theorem isSmall_lower (name : String) : IsSmall (lower name) := by
  intro c hc
  rw [lower, String.toList_ofList] at hc
  obtain ⟨d, -, rfl⟩ := List.mem_map.mp hc
  exact Char.isUpper_toLower_eq_false d

theorem IsName.lower {name : String} (h : IsName name) : IsName (lower name) := by
  refine ⟨?_, ?_⟩
  · rw [Text.lower, String.toList_ofList]
    simpa using h.filled
  · rw [Text.lower, String.toList_ofList]
    intro c hc
    obtain ⟨d, hd, rfl⟩ := List.mem_map.mp hc
    exact isNameChar_toLower (h.letters d hd)

/-- What is read as a name is one, if it is not empty. -/
theorem isName_of_readName {cs : List Char} (h : (readName cs).1.isEmpty = false) :
    IsName (readName cs).1 := by
  refine ⟨?_, ?_⟩
  · intro hnil
    rw [String.toList_eq_nil_iff.mp hnil] at h
    simp at h
  · rw [readName, String.toList_ofList]
    exact fun c hc => List.all_eq_true.mp List.all_takeWhile c hc

end Token

/-- The value fits between double quotes, between single quotes, or without quotes. -/
def FitsQuotes (value : String) : Prop :=
  '"' ∉ value.toList ∨ '\'' ∉ value.toList ∨
    ((∀ c ∈ value.toList, isBlank c = false ∧ c ≠ ']') ∧
      ∀ c ∈ value.toList.head?, c ≠ '"' ∧ c ≠ '\'')

/-- A value that was read fits in the way in which it was read. -/
theorem Token.fitsQuotes_readValue (cs : List Char) : FitsQuotes (readValue cs).1 := by
  have hquoted : ∀ (q : Char) (rest : List Char), q ∉ rest.takeWhile (· != q) := by
    intro q rest hq
    simpa using List.all_eq_true.mp List.all_takeWhile q hq
  unfold readValue
  split
  · exact .inl (by simp)
  · rename_i q rest
    split
    · rename_i hq
      rcases hq with rfl | rfl
      · exact .inl (by simpa using hquoted '"' rest)
      · exact .inr (.inl (by simpa using hquoted '\'' rest))
    · rename_i hq
      rw [not_or] at hq
      refine .inr (.inr ⟨fun c hc => ?_, fun c hc => ?_⟩)
      · rw [String.toList_ofList] at hc
        have hplain := List.all_eq_true.mp List.all_takeWhile c hc
        simpa using hplain
      · rw [String.toList_ofList, List.takeWhile_cons] at hc
        split at hc
        · obtain rfl : q = c := by simpa using hc
          exact hq
        · simp at hc

/-! ### Conditions -/

namespace Simple

open Token

/-- The condition can be written so that it is read back. -/
def IsPrintable : Simple → Prop
  | .universal | .root | .scope => True
  | .type name | .attribute name => IsName name ∧ IsSmall name
  | .class name | .id name => IsName name
  | .attributeIs name value => IsName name ∧ IsSmall name ∧ FitsQuotes value
  | .nthChild position => 1 ≤ position ∧ position ≤ maxWord
  | .unsupported _ => False

def isType : Simple → Bool
  | .type _ => true
  | _ => false

/-- The text of the condition ends like a name. -/
def endsInName (cond : Simple) : Bool :=
  cond.print.toList.getLast?.any isNameChar

/-- The second condition is not taken for the end of a name in the first one. -/
def MayPrecede (first second : Simple) : Prop :=
  first.endsInName = true → second.isType = false

theorem endsInName_of_last {cond : Simple} (front : List Char) (c : Char)
    (h : cond.print.toList = front ++ [c]) : cond.endsInName = isNameChar c := by
  rw [endsInName, h, List.getLast?_concat, Option.any_some]

theorem endsInName_attribute (name : String) : (Simple.attribute name).endsInName = false :=
  endsInName_of_last ('[' :: name.toList) ']' (by simp [print])

theorem endsInName_attributeIs (name value : String) :
    (Simple.attributeIs name value).endsInName = false :=
  endsInName_of_last ('[' :: (name.toList ++ '=' :: (printValue value).toList)) ']'
    (by simp [print])

theorem endsInName_nthChild (position : Nat) : (Simple.nthChild position).endsInName = false :=
  endsInName_of_last (":nth-child(".toList ++ Nat.toDigits 10 position) ')' (by simp [print])

theorem IsPrintable.isSupported {cond : Simple} (h : cond.IsPrintable) :
    cond.isSupported = true := by
  cases cond with
  | unsupported => exact h.elim
  | _ => rfl

end Simple

/-- Each condition can be written, no compound is empty, and names end where they should. -/
structure Complex.IsPrintable (sel : Complex) : Prop where
  filled : ∀ compound ∈ sel.compounds, compound ≠ []
  printable : ∀ cond ∈ sel.conditions, cond.IsPrintable
  apart : ∀ compound ∈ sel.compounds, compound.IsChain Simple.MayPrecede

theorem Complex.IsPrintable.isSupported {sel : Complex} (h : sel.IsPrintable) :
    sel.isSupported = true := by
  refine List.all_eq_true.mpr fun compound hcompound => ?_
  rw [Bool.and_eq_true, Bool.not_eq_true', List.isEmpty_eq_false_iff, List.all_eq_true]
  refine ⟨h.filled compound hcompound, fun cond hcond => ?_⟩
  exact (h.printable cond (List.mem_flatten.mpr ⟨compound, hcompound, hcond⟩)).isSupported

/-! ### Reading conditions -/

namespace Token

theorem readNamed_isPrintable {sign : String} {make : String → Simple}
    (hmake : ∀ text, IsName text → (make text).IsPrintable) {cs : List Char}
    (h : (readNamed sign make cs).1.isSupported = true) :
    (readNamed sign make cs).1.IsPrintable := by
  unfold readNamed at h ⊢
  simp only at h ⊢
  split at h
  · simp [Simple.isSupported] at h
  · rename_i hname
    rw [if_neg hname]
    exact hmake _ (isName_of_readName (by simpa using hname))

theorem readType_isPrintable {c : Char} {cs : List Char}
    (h : (readType c cs).1.isSupported = true) : (readType c cs).1.IsPrintable := by
  unfold readType at h ⊢
  split
  · rename_i hc
    refine ⟨(isName_of_readName ?_).lower, isSmall_lower _⟩
    simp [readName, hc]
  · rename_i hc
    simp [hc, Simple.isSupported] at h

theorem readAttribute_isPrintable {cs : List Char}
    (h : (readAttribute cs).1.isSupported = true) : (readAttribute cs).1.IsPrintable := by
  rw [readAttribute_eq] at h ⊢
  simp only at h ⊢
  have hvalue : ∀ cs value, (afterEquals cs).1 = some value → FitsQuotes value := by
    intro cs value hsome
    unfold afterEquals at hsome
    split at hsome
    · exact Option.some.inj hsome ▸ fitsQuotes_readValue _
    · cases hsome
  split
  · rename_i after hclose
    simp only [hclose] at h
    split at h
    · simp [Simple.isSupported] at h
    · rename_i hname
      have hread := (isName_of_readName (by simpa using hname)).lower
      rw [if_neg hname]
      split
      · rename_i text htext
        exact ⟨hread, isSmall_lower _, hvalue _ _ htext⟩
      · exact ⟨hread, isSmall_lower _⟩
  · rename_i hother
    split at h
    · rename_i after hclose
      exact absurd hclose (hother after)
    · simp [Simple.isSupported] at h

theorem pseudoClass?_isPrintable {name : String} {argument : Option (List Char)} {cond : Simple}
    (h : pseudoClass? name argument = some cond) : cond.IsPrintable := by
  unfold pseudoClass? at h
  split at h
  · exact Option.some.inj h ▸ trivial
  · exact Option.some.inj h ▸ trivial
  · split at h
    · rename_i text n hread
      obtain rfl := Option.some.inj h
      have hlimit : n + 1 ≤ maxWord := by
        unfold readNatural? at hread
        simp only at hread
        split at hread <;> split at hread <;> simp_all [Option.filter_eq_some_iff]
      exact ⟨Nat.le_add_left 1 n, hlimit⟩
    · cases h
  · cases h

theorem readPseudo_isPrintable {cs : List Char}
    (h : (readPseudo cs).1.isSupported = true) : (readPseudo cs).1.IsPrintable := by
  unfold readPseudo at h ⊢
  split
  · simp [Simple.isSupported] at h
  · simp only at h ⊢
    split
    · split
      · exact pseudoClass?_isPrintable ‹_›
      · simp_all [Simple.isSupported]
    · split
      · exact pseudoClass?_isPrintable ‹_›
      · simp_all [Simple.isSupported]

/-- **A condition that is read can be written.** -/
theorem next?_isPrintable {cs rest : List Char} {cond : Simple}
    (hnext : next? cs = some (.simple cond, rest)) (hsupported : cond.isSupported = true) :
    cond.IsPrintable := by
  have hclass : ∀ name, IsName name → (Simple.class name).IsPrintable := fun _ h => h
  have hid : ∀ name, IsName name → (Simple.id name).IsPrintable := fun _ h => h
  cases cs with
  | nil => cases hnext
  | cons c after =>
    unfold next? at hnext
    simp only at hnext
    split at hnext
    · cases (Prod.mk.inj (Option.some.inj hnext)).1
    · split at hnext <;> cases (Prod.mk.inj (Option.some.inj hnext)).1
      · trivial
      · exact readNamed_isPrintable hclass hsupported
      · exact readNamed_isPrintable hid hsupported
      · exact readAttribute_isPrintable hsupported
      · exact readPseudo_isPrintable hsupported
      · exact readType_isPrintable hsupported

theorem all_isPrintable {cs : List Char} {cond : Simple}
    (hcond : cond ∈ (all cs).filterMap simple?) (hsupported : cond.isSupported = true) :
    cond.IsPrintable := by
  fun_induction all cs with
  | case1 => cases hcond
  | case2 cs token rest hnext ih =>
    rw [List.filterMap_cons] at hcond
    split at hcond
    · exact ih hcond
    · rename_i first hfirst
      rcases List.mem_cons.mp hcond with rfl | hlater
      · cases token <;> cases hfirst
        exact next?_isPrintable hnext hsupported
      · exact ih hlater

/-! ### Ends of names -/

/-- A name is read as long as it goes on. -/
theorem head_readName (cs : List Char) : ∀ c ∈ (readName cs).2.head?, isNameChar c = false := by
  intro c hc
  have hhead := List.head?_dropWhile_not isNameChar cs
  rw [readName, Option.mem_def] at hc
  simpa [hc] using hhead

/-- The reader stands behind the whole name when the condition that it has read ends in one. -/
def EndsRead (read : Simple × List Char) : Prop :=
  read.1.isSupported = true → read.1.endsInName = true →
    ∀ c ∈ read.2.head?, isNameChar c = false

theorem readNamed_endsRead (sign : String) (make : String → Simple) (cs : List Char) :
    EndsRead (readNamed sign make cs) :=
  fun _ _ => head_readName cs

theorem readType_endsRead (c : Char) (cs : List Char) : EndsRead (readType c cs) := by
  unfold readType
  split
  · exact fun _ _ => head_readName (c :: cs)
  · exact fun hsupported _ => by simp [Simple.isSupported] at hsupported

theorem readAttribute_cases (cs : List Char) :
    (∃ text, (readAttribute cs).1 = .unsupported text) ∨
      (∃ name, (readAttribute cs).1 = .attribute name) ∨
      ∃ name value, (readAttribute cs).1 = .attributeIs name value := by
  rw [readAttribute_eq]
  simp only
  split
  · split
    · exact .inl ⟨_, rfl⟩
    · split
      · exact .inr (.inr ⟨_, _, rfl⟩)
      · exact .inr (.inl ⟨_, rfl⟩)
  · exact .inl ⟨_, rfl⟩

theorem readAttribute_endsRead (cs : List Char) : EndsRead (readAttribute cs) := by
  intro hsupported hends
  rcases readAttribute_cases cs with ⟨text, hcond⟩ | ⟨name, hcond⟩ | ⟨name, value, hcond⟩ <;>
    rw [hcond] at hsupported hends
  · simp [Simple.isSupported] at hsupported
  · simp [Simple.endsInName_attribute] at hends
  · simp [Simple.endsInName_attributeIs] at hends

/-- Pseudo-classes of the subset are read to the end of the name, or of the argument. -/
theorem readPseudo_cases (cs : List Char) :
    (∃ text, (readPseudo cs).1 = .unsupported text) ∨
      (∃ position, (readPseudo cs).1 = .nthChild position) ∨
      (readPseudo cs).1.isType = false ∧ (readPseudo cs).2 = (readName cs).2 := by
  unfold readPseudo
  split
  · exact .inl ⟨_, rfl⟩
  · simp only
    split
    · split
      · rename_i found hfound
        unfold pseudoClass? at hfound
        split at hfound
        · rename_i heq
          cases heq
        · rename_i heq
          cases heq
        · split at hfound <;> cases hfound
          exact .inr (.inl ⟨_, rfl⟩)
        · cases hfound
      · exact .inl ⟨_, rfl⟩
    · split
      · rename_i found hfound
        refine .inr (.inr ⟨?_, rfl⟩)
        unfold pseudoClass? at hfound
        split at hfound
        · cases hfound
          rfl
        · cases hfound
          rfl
        · rename_i heq
          cases heq
        · cases hfound
      · exact .inl ⟨_, rfl⟩

theorem readPseudo_endsRead (cs : List Char) : EndsRead (readPseudo cs) := by
  intro hsupported hends
  rcases readPseudo_cases cs with ⟨text, hcond⟩ | ⟨position, hcond⟩ | ⟨-, hrest⟩
  · simp [hcond, Simple.isSupported] at hsupported
  · simp [hcond, Simple.endsInName_nthChild] at hends
  · rw [hrest]
    exact head_readName cs

/-- Behind a name that was read no name goes on. -/
theorem next?_endsRead {cs rest : List Char} {cond : Simple}
    (hnext : next? cs = some (.simple cond, rest)) : EndsRead (cond, rest) := by
  cases cs with
  | nil => cases hnext
  | cons c after =>
    unfold next? at hnext
    simp only at hnext
    split at hnext
    · cases (Prod.mk.inj (Option.some.inj hnext)).1
    · split at hnext <;> obtain ⟨hcond, rfl⟩ := Prod.mk.inj (Option.some.inj hnext) <;> cases hcond
      · have huniversal : Simple.universal.endsInName = false := by decide
        exact fun _ hends => absurd hends (by simp [huniversal])
      · exact readNamed_endsRead _ _ after
      · exact readNamed_endsRead _ _ after
      · exact readAttribute_endsRead after
      · exact readPseudo_endsRead after
      · exact readType_endsRead c after

/-- Only a name is read as a type. -/
theorem next?_isType {cs rest : List Char} {cond : Simple}
    (hnext : next? cs = some (.simple cond, rest)) (hhead : ∀ c ∈ cs.head?, isNameChar c = false) :
    cond.isType = false := by
  cases cs with
  | nil => cases hnext
  | cons c after =>
    have hc : isNameChar c = false := hhead c rfl
    unfold next? at hnext
    simp only at hnext
    split at hnext
    · cases (Prod.mk.inj (Option.some.inj hnext)).1
    · split at hnext <;> obtain ⟨hcond, rfl⟩ := Prod.mk.inj (Option.some.inj hnext) <;> cases hcond
      · rfl
      · unfold readNamed
        simp only
        split <;> rfl
      · unfold readNamed
        simp only
        split <;> rfl
      · rcases readAttribute_cases after with ⟨_, hcond⟩ | ⟨_, hcond⟩ | ⟨_, _, hcond⟩ <;>
          exact hcond ▸ rfl
      · rcases readPseudo_cases after with ⟨_, hcond⟩ | ⟨_, hcond⟩ | ⟨hcond, -⟩
        · exact hcond ▸ rfl
        · exact hcond ▸ rfl
        · exact hcond
      · simp [readType, hc, Simple.isType]

/-- No type is read right behind a name. -/
def MayPrecede : Token → Token → Prop
  | .simple first, .simple second => first.isSupported = true → first.MayPrecede second
  | _, _ => True

theorem all_mayPrecede (cs : List Char) : (all cs).IsChain MayPrecede := by
  fun_induction all cs with
  | case1 => exact .nil
  | case2 cs token rest hnext ih =>
    refine List.isChain_cons.mpr ⟨fun second hsecond => ?_, ih⟩
    rw [all_eq] at hsecond
    split at hsecond
    · cases hsecond
    · rename_i later more hlater
      obtain rfl := Option.some.inj hsecond
      cases token with
      | simple cond =>
        cases later with
        | simple other =>
          exact fun hsupported hends => next?_isType hlater (next?_endsRead hnext hsupported hends)
        | _ => trivial
      | _ => trivial

end Token

/-! ### Reading selectors -/

namespace Complex

theorem compounds_concat (sel : Complex) (comb : Combinator) (compound : Compound) :
    (sel.concat comb compound).compounds = sel.compounds ++ [compound] := by
  simp [compounds, concat]

/-- One more condition is added to the last compound only. -/
theorem forall_compounds_addSimple {sel : Complex} {P : Compound → Prop} {cond : Simple}
    (h : ∀ compound ∈ sel.compounds, P compound) (hlast : P (sel.last ++ [cond])) :
    ∀ compound ∈ (sel.addSimple cond).compounds, P compound := by
  rcases sel.eq_concat with hrest | ⟨left, comb, compound, rfl⟩
  · obtain ⟨first, rest⟩ := sel
    obtain rfl : rest = [] := hrest
    exact List.forall_mem_singleton.mpr hlast
  · rw [compounds_concat, List.forall_mem_append] at h
    rw [last_concat] at hlast
    rw [concat_addSimple, compounds_concat, List.forall_mem_append]
    exact ⟨h.1, List.forall_mem_singleton.mpr hlast⟩

theorem last_mem_compounds (sel : Complex) : sel.last ∈ sel.compounds := by
  rcases sel.eq_concat with hrest | ⟨left, comb, compound, rfl⟩
  · simp [last, compounds, hrest]
  · simp [compounds_concat]

end Complex

/-- The second condition may stand behind the first one, if that is supported. -/
def Simple.Follows (first second : Simple) : Prop :=
  first.isSupported = true → first.MayPrecede second

namespace PartialComplex

/-- Conditions of a compound may stand together, and the last one was read last. -/
structure Apart (state : PartialComplex) (read : Option Token) : Prop where
  compounds : ∀ compound ∈ state.sel.compounds, compound.IsChain Simple.Follows
  goesOn : state.waiting = none → ∀ cond ∈ state.sel.last.getLast?, read = some (.simple cond)

theorem Apart.add {state : PartialComplex} {read : Option Token} (h : state.Apart read)
    (source : String) {token : Token} (htoken : ∀ before ∈ read, before.MayPrecede token) :
    (state.add source token).Apart (some token) := by
  have hadd : ∀ cond : Simple, (∀ before ∈ state.sel.last.getLast?, before.Follows cond) →
      ∀ compound ∈ (state.sel.addSimple cond).compounds, compound.IsChain Simple.Follows := by
    intro cond hcond
    refine Complex.forall_compounds_addSimple h.compounds (List.isChain_append.mpr ?_)
    refine ⟨h.compounds _ state.sel.last_mem_compounds, .singleton _, fun before hbefore => ?_⟩
    simpa using hcond before hbefore
  cases token with
  | blank =>
    simp only [PartialComplex.add]
    split
    · exact ⟨h.compounds, fun hnone => by cases hnone⟩
    · rename_i hstays
      refine ⟨h.compounds, fun hnone cond hcond => ?_⟩
      have hempty : state.sel.last = [] := by simpa [hnone] using hstays
      simp [hempty] at hcond
  | combinator comb =>
    simp only [PartialComplex.add]
    split
    · exact ⟨h.compounds, fun hnone => by cases hnone⟩
    · exact ⟨h.compounds, fun hnone => by cases hnone⟩
    · rename_i waiting _ hwaiting
      exact ⟨hadd _ fun before _ _ _ => rfl, fun hnone => by simp [hwaiting] at hnone⟩
  | simple cond =>
    have hlast : ∀ sel : Complex, ∀ other ∈ (sel.addSimple cond).last.getLast?,
        some (Token.simple cond) = some (.simple other) := by
      intro sel other hother
      rw [Complex.last_addSimple, List.getLast?_concat] at hother
      rw [Option.some.inj hother]
    simp only [PartialComplex.add]
    split
    · refine ⟨?_, fun _ => hlast _⟩
      rw [Complex.addCombinator_eq, Complex.concat_addSimple, Complex.compounds_concat,
        List.forall_mem_append]
      exact ⟨h.compounds, List.forall_mem_singleton.mpr (.singleton _)⟩
    · rename_i hwaiting
      refine ⟨hadd cond fun before hbefore => ?_, fun _ => hlast _⟩
      exact htoken _ (h.goesOn hwaiting before hbefore)

theorem Apart.addAll {state : PartialComplex} {read : Option Token} (h : state.Apart read)
    (source : String) {tokens : List Token}
    (htokens : (read.toList ++ tokens).IsChain Token.MayPrecede) :
    ∃ last, (tokens.foldl (PartialComplex.add source) state).Apart last := by
  induction tokens generalizing state read with
  | nil => exact ⟨read, h⟩
  | cons token more ih =>
    obtain ⟨-, hmore, hjoin⟩ := List.isChain_append.mp htokens
    refine ih (h.add source fun before hbefore => ?_) hmore
    obtain rfl : read = some before := hbefore
    exact hjoin before rfl token rfl

theorem Apart.finish {state : PartialComplex} {read : Option Token} (h : state.Apart read) :
    ∀ compound ∈ state.finish.compounds, compound.IsChain Simple.Follows := by
  unfold PartialComplex.finish
  split
  · exact h.compounds
  · exact h.compounds
  · rw [Complex.addCombinator_eq, Complex.compounds_concat, List.forall_mem_append]
    exact ⟨h.compounds, List.forall_mem_singleton.mpr .nil⟩

end PartialComplex

/-- **What is read can be written**, if it is supported. -/
theorem Complex.isPrintable_parse {text : String} (h : (Complex.parse text).isSupported = true) :
    (Complex.parse text).IsPrintable where
  filled := by
    intro compound hcompound
    have hsome := List.all_eq_true.mp h compound hcompound
    rw [Bool.and_eq_true, Bool.not_eq_true', List.isEmpty_eq_false_iff] at hsome
    exact hsome.1
  printable := by
    intro cond hcond
    have hsupported := supported_of_mem_conditions h hcond
    rw [conditions_parse h] at hcond
    exact Token.all_isPrintable hcond hsupported
  apart := by
    intro compound hcompound
    have hempty : PartialComplex.empty.Apart none :=
      ⟨List.forall_mem_singleton.mpr .nil, fun _ cond hcond => by cases hcond⟩
    obtain ⟨last, hlast⟩ := hempty.addAll text (Token.all_mayPrecede text.toList)
    have hfollows : compound.IsChain Simple.Follows := hlast.finish compound hcompound
    refine hfollows.imp_of_mem_imp fun first second hfirst _ hfollows => ?_
    exact hfollows (supported_of_mem_conditions h (List.mem_flatten.mpr ⟨_, hcompound, hfirst⟩))

end CosmeticFilter
