/-
What a selector can ask is written in its text.

A chain judges by the characters of its texts which changes of a document matter to it:
without a tilde or a plus sign no selector relates siblings, and without a dot, a hash or a
pair of brackets none asks for attributes.  Here this is followed through the reading of
selectors.  Every token is read off an ending of the text, so what a token needs in front
of it is in the text; and the parts of a selector list are stretches of the whole.
-/
import CosmeticFilter.Chain.Basic
import CosmeticFilter.Document.Page
import Mathlib.Data.List.DropRight
import Mathlib.Data.List.Infix

namespace CosmeticFilter

open CosmeticFilter.Text

/-! ### Characters that matter -/

/-- The characters of a selector that asks for attributes. -/
def asksAttributes (cs : List Char) : Bool :=
  cs.any (fun c => c == '#' || c == '.') || hasBrackets cs

/-- The characters of a selector that relates siblings. -/
def asksSiblings (cs : List Char) : Bool :=
  cs.any fun c => c == '~' || c == '+'

theorem hasBrackets_cons (c : Char) (cs : List Char) :
    hasBrackets (c :: cs) = if c = '[' then cs.tail.contains ']' else hasBrackets cs := by
  unfold hasBrackets
  by_cases hc : c = '['
  · rw [if_pos hc, List.dropWhile_cons_of_neg (by simp [hc])]
    cases cs <;> rfl
  · rw [if_neg hc, List.dropWhile_cons_of_pos (by simp [hc])]

theorem hasBrackets_iff {cs : List Char} :
    hasBrackets cs = true ↔
      ∃ front inside back, cs = front ++ '[' :: (inside ++ ']' :: back) ∧ inside ≠ [] := by
  induction cs with
  | nil => simp [hasBrackets]
  | cons c cs ih =>
    rw [hasBrackets_cons]
    by_cases hc : c = '['
    · rw [if_pos hc, List.contains_iff_mem]
      constructor
      · intro h
        cases cs with
        | nil => simp at h
        | cons x rest =>
          obtain ⟨inside, back, hrest⟩ := List.append_of_mem (show ']' ∈ rest from h)
          exact ⟨[], x :: inside, back, by simp [hc, hrest], by simp⟩
      · rintro ⟨front, inside, back, heq, hne⟩
        cases front with
        | nil =>
          obtain ⟨x, more, rfl⟩ := List.exists_cons_of_ne_nil hne
          obtain ⟨-, rfl⟩ := List.cons.inj heq
          simp
        | cons y front =>
          obtain ⟨-, rfl⟩ := List.cons.inj heq
          cases front <;> simp
    · rw [if_neg hc, ih]
      constructor
      · rintro ⟨front, inside, back, rfl, hne⟩
        exact ⟨c :: front, inside, back, rfl, hne⟩
      · rintro ⟨front, inside, back, heq, hne⟩
        cases front with
        | nil => exact absurd (List.cons.inj heq).1 hc
        | cons y front => exact ⟨front, inside, back, (List.cons.inj heq).2, hne⟩

theorem asksAttributes_of_part {part cs : List Char} (hpart : part <:+: cs)
    (h : asksAttributes part = true) : asksAttributes cs = true := by
  unfold asksAttributes at h ⊢
  rw [Bool.or_eq_true] at h ⊢
  rcases h with h | h
  · obtain ⟨c, hc, hsign⟩ := List.any_eq_true.mp h
    exact .inl (List.any_eq_true.mpr ⟨c, hpart.subset hc, hsign⟩)
  · right
    obtain ⟨before, after, rfl⟩ := hpart
    obtain ⟨front, inside, back, rfl, hne⟩ := hasBrackets_iff.mp h
    exact hasBrackets_iff.mpr ⟨before ++ front, inside, back ++ after, by simp, hne⟩

theorem asksSiblings_of_part {part cs : List Char} (hpart : part <:+: cs)
    (h : asksSiblings part = true) : asksSiblings cs = true := by
  obtain ⟨c, hc, hsign⟩ := List.any_eq_true.mp h
  exact List.any_eq_true.mpr ⟨c, hpart.subset hc, hsign⟩

/-! ### Tokens -/

namespace Token

theorem readArgument_suffix (depth : Nat) (quote : Option Char) (cs : List Char) :
    (readArgument depth quote cs).rest <:+ cs := by
  fun_induction readArgument depth quote cs with
  | case1 | case2 => exact List.nil_suffix
  | case3 depth quote c rest ih =>
    have hrest : rest <:+ '\\' :: c :: rest :=
      (List.suffix_cons c rest).trans (List.suffix_cons _ _)
    exact List.IsSuffix.trans ih hrest
  | case4 | case5 | case6 | case8 | case9 =>
    rename_i ih
    exact List.IsSuffix.trans ih (List.suffix_cons _ _)
  | case7 => exact List.suffix_cons _ _

theorem readNamed_suffix (sign : String) (make : String → Simple) (cs : List Char) :
    (readNamed sign make cs).2 <:+ cs :=
  List.dropWhile_suffix _

theorem readType_suffix (c : Char) (cs : List Char) : (readType c cs).2 <:+ c :: cs := by
  unfold readType
  split
  · exact List.dropWhile_suffix _
  · exact List.suffix_cons c cs

theorem readPseudo_suffix (cs : List Char) : (readPseudo cs).2 <:+ cs := by
  unfold readPseudo
  split
  · exact (List.dropWhile_suffix _).trans (List.suffix_cons _ _)
  · have hname : (readName cs).2 <:+ cs := List.dropWhile_suffix _
    simp only
    split
    · rename_i inner hinner
      have harg : (readArgument 0 none inner).rest <:+ cs :=
        ((readArgument_suffix 0 none inner).trans (List.suffix_cons '(' inner)).trans
          (hinner ▸ hname)
      split <;> exact harg
    · split <;> exact hname

theorem readValue_suffix (cs : List Char) : (readValue cs).2 <:+ cs := by
  unfold readValue
  split
  · exact List.suffix_rfl
  · split
    · exact ((List.drop_suffix _ _).trans (List.dropWhile_suffix _)).trans (List.suffix_cons _ _)
    · exact List.dropWhile_suffix _

/-- The equals sign and the value behind a name, if they are there, and the rest. -/
def afterEquals (cs : List Char) : Option String × List Char :=
  match cs.dropWhile isBlank with
  | '=' :: more => (some (readValue (more.dropWhile isBlank)).1,
      (readValue (more.dropWhile isBlank)).2)
  | other => (none, other)

theorem afterEquals_suffix (cs : List Char) : (afterEquals cs).2 <:+ cs := by
  have hblank : cs.dropWhile isBlank <:+ cs := List.dropWhile_suffix _
  unfold afterEquals
  split
  · rename_i more hmore
    rw [hmore] at hblank
    exact ((readValue_suffix _).trans (List.dropWhile_suffix _)).trans
      ((List.suffix_cons '=' more).trans hblank)
  · exact hblank

theorem readAttribute_eq (cs : List Char) :
    readAttribute cs =
      let name := readName (cs.dropWhile isBlank)
      let value := afterEquals name.2
      match value.2.dropWhile isBlank with
      | ']' :: after =>
        if name.1.isEmpty then
          (.unsupported (String.ofList (between ('[' :: cs) after)), after)
        else
          match value.1 with
          | some text => (.attributeIs (lower name.1) text, after)
          | none => (.attribute (lower name.1), after)
      | other =>
        (.unsupported (String.ofList (between ('[' :: cs) (afterBracket other))),
          afterBracket other) := by
  rfl

theorem readAttribute_suffix (cs : List Char) : (readAttribute cs).2 <:+ cs := by
  have hvalue : (afterEquals (readName (cs.dropWhile isBlank)).2).2.dropWhile isBlank <:+ cs :=
    ((List.dropWhile_suffix _).trans (afterEquals_suffix _)).trans
      ((List.dropWhile_suffix _).trans (List.dropWhile_suffix _))
  rw [readAttribute_eq]
  simp only
  split
  · rename_i after hclose
    rw [hclose] at hvalue
    have hafter : after <:+ cs := (List.suffix_cons ']' after).trans hvalue
    split
    · exact hafter
    · split <;> exact hafter
  · exact ((List.drop_suffix _ _).trans (List.dropWhile_suffix _)).trans hvalue

end Token

/-! ### What a selector asks -/

/-- The condition is about attributes. -/
def Simple.asksAttributes : Simple → Bool
  | .class _ | .id _ | .attribute _ | .attributeIs .. => true
  | _ => false

/-- The combinator relates siblings. -/
def Combinator.asksSiblings : Combinator → Bool
  | .adjacent | .sibling => true
  | _ => false

/-- The text asks for nothing beyond the dependencies. -/
structure Fits (deps : Dependencies) (cs : List Char) : Prop where
  attributes : asksAttributes cs = true → deps.attributes = true
  siblings : asksSiblings cs = true → deps.siblings = true

theorem Fits.of_part {deps : Dependencies} {part cs : List Char} (h : Fits deps cs)
    (hpart : part <:+: cs) : Fits deps part :=
  ⟨fun hasks => h.attributes (asksAttributes_of_part hpart hasks),
    fun hasks => h.siblings (asksSiblings_of_part hpart hasks)⟩

namespace Token

/-- The token asks for nothing beyond the dependencies. -/
def Fits (deps : Dependencies) : Token → Prop
  | .blank => True
  | .combinator comb => comb.asksSiblings = true → deps.siblings = true
  | .simple cond => cond.asksAttributes = true → deps.attributes = true

theorem readNamed_asks {c : Char} (hc : c = '#' ∨ c = '.') (cs : List Char) :
    CosmeticFilter.asksAttributes (c :: cs) = true := by
  rcases hc with rfl | rfl <;> simp [CosmeticFilter.asksAttributes]

theorem readType_asks (c : Char) (cs : List Char) :
    (readType c cs).1.asksAttributes = false := by
  unfold readType
  split <;> rfl

theorem pseudoClass?_asks {name : String} {argument : Option (List Char)} {simple : Simple}
    (h : pseudoClass? name argument = some simple) : simple.asksAttributes = false := by
  unfold pseudoClass? at h
  split at h
  · rw [← Option.some.inj h]
    rfl
  · rw [← Option.some.inj h]
    rfl
  · split at h
    · rw [← Option.some.inj h]
      rfl
    · simp at h
  · simp at h

theorem readPseudo_asks (cs : List Char) : (readPseudo cs).1.asksAttributes = false := by
  unfold readPseudo
  split
  · rfl
  · simp only
    split
    · split
      · exact pseudoClass?_asks ‹_›
      · rfl
    · split
      · exact pseudoClass?_asks ‹_›
      · rfl

/-- What asks for an attribute by its name has brackets around the name. -/
theorem readAttribute_asks {cs : List Char} (h : (readAttribute cs).1.asksAttributes = true) :
    CosmeticFilter.asksAttributes ('[' :: cs) = true := by
  have hvalue : (afterEquals (readName (cs.dropWhile isBlank)).2).2.dropWhile isBlank <:+
      (readName (cs.dropWhile isBlank)).2 :=
    (List.dropWhile_suffix _).trans (afterEquals_suffix _)
  rw [readAttribute_eq] at h
  simp only at h
  split at h
  · rename_i after hclose
    split at h
    · simp [Simple.asksAttributes] at h
    · rename_i hname
      rw [hclose] at hvalue
      -- The name takes a character, so that the closing bracket is not the first one.
      have hbracket : ']' ∈ cs.tail := by
        cases hblank : cs.dropWhile isBlank with
        | nil => simp [hblank, readName] at hname
        | cons c rest =>
          rw [hblank] at hname hvalue
          have hc : isNameChar c = true := by
            by_contra hc
            simp [readName, hc] at hname
          have hrest : (readName (c :: rest)).2 <:+ rest := by
            simp only [readName, List.dropWhile_cons, hc, if_true]
            exact List.dropWhile_suffix _
          have hmem : ']' ∈ rest := (hvalue.trans hrest).subset List.mem_cons_self
          have htail : rest <:+ cs.tail := by
            have hcs : c :: rest <:+ cs := hblank ▸ List.dropWhile_suffix _
            obtain ⟨front, rfl⟩ := hcs
            cases front with
            | nil => exact List.suffix_rfl
            | cons x front => exact ⟨front ++ [c], by simp⟩
          exact htail.subset hmem
      unfold CosmeticFilter.asksAttributes
      rw [Bool.or_eq_true, hasBrackets_cons, if_pos rfl]
      exact .inr (List.contains_iff_mem.mpr hbracket)
  · simp [Simple.asksAttributes] at h

/-- A token is read off the front of the text, and asks for what the text asks for. -/
theorem next?_fits {deps : Dependencies} {cs rest : List Char} {token : Token}
    (h : CosmeticFilter.Fits deps cs) (hnext : next? cs = some (token, rest)) :
    token.Fits deps ∧ rest <:+ cs := by
  cases cs with
  | nil => simp [next?] at hnext
  | cons c after =>
    have hcons : after <:+ c :: after := List.suffix_cons c after
    unfold next? at hnext
    simp only at hnext
    split at hnext
    · obtain ⟨rfl, rfl⟩ := Prod.mk.inj (Option.some.inj hnext)
      exact ⟨trivial, (List.dropWhile_suffix _).trans hcons⟩
    · split at hnext <;> obtain ⟨rfl, rfl⟩ := Prod.mk.inj (Option.some.inj hnext)
      · exact ⟨by simp [Fits, Simple.asksAttributes], hcons⟩
      · exact ⟨by simp [Fits, Combinator.asksSiblings], hcons⟩
      · exact ⟨fun _ => h.siblings (by simp [asksSiblings]), hcons⟩
      · exact ⟨fun _ => h.siblings (by simp [asksSiblings]), hcons⟩
      · exact ⟨fun _ => h.attributes (readNamed_asks (.inr rfl) after),
          (readNamed_suffix _ _ _).trans hcons⟩
      · exact ⟨fun _ => h.attributes (readNamed_asks (.inl rfl) after),
          (readNamed_suffix _ _ _).trans hcons⟩
      · exact ⟨fun hasks => h.attributes (readAttribute_asks hasks),
          (readAttribute_suffix _).trans hcons⟩
      · exact ⟨fun hasks => by simp [readPseudo_asks] at hasks, (readPseudo_suffix _).trans hcons⟩
      · exact ⟨fun hasks => by simp [readType_asks] at hasks, readType_suffix _ _⟩

theorem next?_suffix {cs rest : List Char} {token : Token}
    (hnext : next? cs = some (token, rest)) : rest <:+ cs := by
  have hall : CosmeticFilter.Fits ⟨true, true, true, true⟩ cs := ⟨fun _ => rfl, fun _ => rfl⟩
  exact (next?_fits hall hnext).2

theorem eq_nil_of_next? {cs : List Char} (h : next? cs = none) : cs = [] := by
  cases cs with
  | nil => rfl
  | cons c rest =>
    unfold next? at h
    simp only at h
    split at h
    · cases h
    · split at h <;> cases h

theorem all_eq (cs : List Char) :
    all cs = match next? cs with
      | none => []
      | some (token, rest) => token :: all rest := by
  rw [all]
  split
  · rename_i hnone
    rw [hnone]
  · rename_i hsome
    rw [hsome]

/-- No token asks for anything that the text does not ask for. -/
theorem all_fits {deps : Dependencies} {cs : List Char} (h : CosmeticFilter.Fits deps cs) :
    ∀ token ∈ all cs, token.Fits deps := by
  fun_induction all cs with
  | case1 => simp
  | case2 cs token rest hnext ih =>
    obtain ⟨hfits, hrest⟩ := next?_fits h hnext
    intro other hother
    rcases List.mem_cons.mp hother with rfl | hother
    · exact hfits
    · exact ih (h.of_part hrest.isInfix) other hother

end Token

/-! ### Selectors -/

/-- No condition and no combinator of the selector asks for anything beyond the dependencies. -/
structure Complex.Fits (deps : Dependencies) (sel : Complex) : Prop where
  first : ∀ simple ∈ sel.first, simple.asksAttributes = true → deps.attributes = true
  compounds : ∀ pair ∈ sel.rest, ∀ simple ∈ pair.2,
    simple.asksAttributes = true → deps.attributes = true
  combinators : ∀ pair ∈ sel.rest, pair.1.asksSiblings = true → deps.siblings = true

namespace Complex

variable {deps : Dependencies} {sel : Complex}

theorem Fits.addSimple (h : sel.Fits deps) {simple : Simple}
    (hsimple : simple.asksAttributes = true → deps.attributes = true) :
    (sel.addSimple simple).Fits deps := by
  unfold Complex.addSimple
  split
  · refine ⟨fun other hother => ?_, h.compounds, h.combinators⟩
    rcases List.mem_append.mp hother with hother | hother
    · exact h.first other hother
    · rwa [List.mem_singleton.mp hother]
  · rename_i comb compound before hreverse
    have hrest : sel.rest = before.reverse ++ [(comb, compound)] := by
      rw [← List.reverse_reverse sel.rest, hreverse, List.reverse_cons]
    have hold : ∀ pair ∈ before.reverse, pair ∈ sel.rest := fun pair hpair => by
      rw [hrest]
      exact List.mem_append_left _ hpair
    have hlast : (comb, compound) ∈ sel.rest := by simp [hrest]
    refine ⟨h.first, fun pair hpair => ?_, fun pair hpair => ?_⟩
    · rcases List.mem_append.mp hpair with hpair | hpair
      · exact h.compounds pair (hold pair hpair)
      · obtain rfl := List.mem_singleton.mp hpair
        intro other hother
        rcases List.mem_append.mp hother with hother | hother
        · exact h.compounds _ hlast other hother
        · rwa [List.mem_singleton.mp hother]
    · rcases List.mem_append.mp hpair with hpair | hpair
      · exact h.combinators pair (hold pair hpair)
      · obtain rfl := List.mem_singleton.mp hpair
        exact h.combinators (comb, compound) hlast

theorem Fits.addCombinator (h : sel.Fits deps) {comb : Combinator}
    (hcomb : comb.asksSiblings = true → deps.siblings = true) :
    (sel.addCombinator comb).Fits deps := by
  refine ⟨h.first, fun pair hpair => ?_, fun pair hpair => ?_⟩
  · rcases List.mem_append.mp hpair with hpair | hpair
    · exact h.compounds pair hpair
    · obtain rfl := List.mem_singleton.mp hpair
      simp
  · rcases List.mem_append.mp hpair with hpair | hpair
    · exact h.combinators pair hpair
    · obtain rfl := List.mem_singleton.mp hpair
      exact hcomb

end Complex

/-- So it is for what has been read of a selector. -/
structure PartialComplex.Fits (deps : Dependencies) (state : PartialComplex) : Prop where
  sel : state.sel.Fits deps
  waiting : ∀ comb, state.waiting = some comb → comb.asksSiblings = true → deps.siblings = true

theorem PartialComplex.Fits.add {deps : Dependencies} {state : PartialComplex}
    (h : state.Fits deps) (source : String) {token : Token} (htoken : token.Fits deps) :
    (state.add source token).Fits deps := by
  have hunsupported : (Simple.unsupported source).asksAttributes = true →
      deps.attributes = true := by simp [Simple.asksAttributes]
  cases token with
  | blank =>
    simp only [PartialComplex.add]
    split
    · refine ⟨h.sel, fun comb hcomb hasks => ?_⟩
      obtain rfl := Option.some.inj hcomb
      simp [Combinator.asksSiblings] at hasks
    · exact h
  | combinator comb =>
    have hnew : (PartialComplex.mk state.sel (some comb)).Fits deps :=
      ⟨h.sel, fun other hother => Option.some.inj hother ▸ htoken⟩
    simp only [PartialComplex.add]
    split
    · exact hnew
    · exact hnew
    · exact ⟨h.sel.addSimple hunsupported, h.waiting⟩
  | simple simple =>
    simp only [PartialComplex.add]
    split
    · rename_i comb hcomb
      exact ⟨(h.sel.addCombinator (h.waiting comb hcomb)).addSimple htoken, by simp⟩
    · exact ⟨h.sel.addSimple htoken, by simp⟩

theorem Complex.parse_fits {deps : Dependencies} {source : String}
    (h : CosmeticFilter.Fits deps source.toList) : (Complex.parse source).Fits deps := by
  have hfold : ∀ (tokens : List Token) (state : PartialComplex), state.Fits deps →
      (∀ token ∈ tokens, token.Fits deps) →
      (tokens.foldl (PartialComplex.add source) state).Fits deps := by
    intro tokens
    induction tokens with
    | nil => exact fun _ hstate _ => hstate
    | cons token more ih =>
      intro state hstate htokens
      obtain ⟨htoken, hmore⟩ := List.forall_mem_cons.mp htokens
      exact ih _ (hstate.add source htoken) hmore
  have hlast := hfold _ .empty ⟨⟨by simp [PartialComplex.empty], by simp [PartialComplex.empty],
    by simp [PartialComplex.empty]⟩, by simp [PartialComplex.empty]⟩ (Token.all_fits h)
  unfold Complex.parse Complex.ofTokens PartialComplex.finish
  split
  · exact hlast.sel
  · exact hlast.sel
  · rename_i comb _ hwaiting
    exact hlast.sel.addCombinator (hlast.waiting comb hwaiting)

/-! ### White space at the ends -/

theorem trimRight_front (cs : List Char) : trimRight cs <+: cs := by
  rw [← List.reverse_suffix, trimRight, List.reverse_reverse]
  exact List.dropWhile_suffix _

theorem trim_part (cs : List Char) : trim cs <:+: cs := by
  have hleft : trimLeft cs <:+ cs := List.dropWhile_suffix _
  exact (trimRight_front (trimLeft cs)).isInfix.trans hleft.isInfix

theorem exists_white_behind (cs : List Char) :
    ∃ tail, cs = trimRight cs ++ tail ∧ ∀ c ∈ tail, isWhite c = true := by
  refine ⟨(cs.reverse.takeWhile isWhite).reverse, ?_, fun c hc => ?_⟩
  · rw [trimRight, ← List.reverse_append, List.takeWhile_append_dropWhile, List.reverse_reverse]
  · exact List.all_eq_true.mp List.all_takeWhile c (List.mem_reverse.mp hc)

theorem trimRight_append {front back : List Char} {c : Char} (hc : isWhite c = false) :
    trimRight (front ++ c :: back) = front ++ c :: trimRight back := by
  have hfront : (c :: front.reverse).dropWhile isWhite = c :: front.reverse :=
    List.dropWhile_cons_of_neg (by simp [hc])
  have hreverse : (front ++ c :: back).reverse = back.reverse ++ c :: front.reverse := by simp
  rw [trimRight, hreverse, List.dropWhile_append, hfront]
  split
  · rename_i hempty
    rw [trimRight, List.isEmpty_iff.mp hempty]
    simp
  · rw [trimRight]
    simp

theorem trimLeft_append {front : List Char} (hfilled : trimLeft front ≠ []) (back : List Char) :
    trimLeft (front ++ back) = trimLeft front ++ back := by
  rw [trimLeft, List.dropWhile_append, if_neg]
  · rfl
  · exact mt List.isEmpty_iff.mp hfilled

theorem trimLeft_white {front : List Char} (hwhite : ∀ c ∈ front, isWhite c = true)
    (back : List Char) : trimLeft (front ++ back) = trimLeft back :=
  List.dropWhile_append_of_pos hwhite

theorem trim_trimLeft (cs : List Char) : trim (trimLeft cs) = trim cs := by
  rw [trim, trim, trimLeft, trimLeft, List.dropWhile_idempotent]

/-- What is left at the front is not white. -/
theorem isWhite_of_dropWhile {cs more : List Char} {c : Char}
    (h : cs.dropWhile isWhite = c :: more) : isWhite c = false := by
  have hhead := List.head?_dropWhile_not isWhite cs
  simpa [h] using hhead

theorem trim_trim (cs : List Char) : trim (trim cs) = trim cs := by
  have hright : ∀ cs : List Char, trimRight (trimRight cs) = trimRight cs := by
    intro cs
    rw [trimRight, trimRight, List.reverse_reverse, List.dropWhile_idempotent]
  rw [trim, trim]
  cases hleft : trimLeft cs with
  | nil => rfl
  | cons c rest =>
    have hc := isWhite_of_dropWhile hleft
    have hfront : trimRight (c :: rest) = c :: trimRight rest := @trimRight_append [] _ _ hc
    have hstay : trimLeft (c :: trimRight rest) = c :: trimRight rest :=
      List.dropWhile_cons_of_neg (by simp [hc])
    rw [hfront, hstay, ← hfront, hright]

/-- White space is taken off behind a text that has none at its ends. -/
theorem trim_append {front : List Char} (back : List Char) {c d : Char} {more before : List Char}
    (hhead : front = c :: more) (hc : isWhite c = false) (hlast : front = before ++ [d])
    (hd : isWhite d = false) : trim (front ++ back) = front ++ trimRight back := by
  have hleft : trimLeft (front ++ back) = front ++ back := by
    rw [trimLeft, hhead, List.cons_append, List.dropWhile_cons_of_neg (by simp [hc])]
  rw [trim, hleft, hlast, List.append_assoc, List.singleton_append, trimRight_append hd,
    List.append_assoc, List.singleton_append]

/-! ### Selector lists -/

namespace SelectorList

/-- The first part of a text is how it begins, and the others are stretches of it. -/
theorem splitFrom_part (n : Nesting) (cs : List Char) :
    ∃ first more, splitFrom n cs = first :: more ∧ first <+: cs ∧ ∀ part ∈ more, part <:+: cs := by
  have hcons : ∀ (c : Char) (parts : List (List Char)) (rest : List Char),
      (∃ first more, parts = first :: more ∧ first <+: rest ∧ ∀ part ∈ more, part <:+: rest) →
      ∃ first more, consFirst c parts = first :: more ∧ first <+: c :: rest ∧
        ∀ part ∈ more, part <:+: c :: rest := by
    rintro c _ rest ⟨first, more, rfl, hfirst, hmore⟩
    exact ⟨c :: first, more, rfl, List.cons_prefix_cons.mpr ⟨rfl, hfirst⟩,
      fun part hpart => (hmore part hpart).trans (List.suffix_cons c rest).isInfix⟩
  fun_induction splitFrom n cs with
  | case1 => exact ⟨[], [], rfl, List.nil_prefix, by simp⟩
  | case2 => exact ⟨['\\'], [], rfl, List.prefix_rfl, by simp⟩
  | case3 n c rest ih => exact hcons _ _ _ (hcons _ _ _ ih)
  | case4 n c rest _ _ _ ih =>
    obtain ⟨first, more, heq, hfirst, hmore⟩ := ih
    refine ⟨[], splitFrom n rest, rfl, List.nil_prefix, fun part hpart => ?_⟩
    have hcomma : rest <:+: c :: rest := (List.suffix_cons c rest).isInfix
    rw [heq] at hpart
    rcases List.mem_cons.mp hpart with rfl | hpart
    · exact hfirst.isInfix.trans hcomma
    · exact (hmore part hpart).trans hcomma
  | case5 n c rest _ _ _ ih => exact hcons _ _ _ ih

theorem parse_fits {deps : Dependencies} {text : String} (h : Fits deps text.toList) :
    ∀ sel ∈ SelectorList.parse text, sel.Fits deps := by
  intro sel hsel
  obtain ⟨_, hpiece, rfl⟩ := List.mem_map.mp hsel
  obtain ⟨part, hpart, rfl⟩ := List.mem_map.mp hpiece
  have hinfix : part <:+: text.toList := by
    obtain ⟨first, more, heq, hfirst, hmore⟩ := splitFrom_part .top text.toList
    rw [heq] at hpart
    rcases List.mem_cons.mp hpart with rfl | hpart
    · exact hfirst.isInfix
    · exact hmore part hpart
  refine Complex.parse_fits ?_
  simp only [trimmed, String.toList_ofList]
  exact h.of_part ((trim_part part).trans hinfix)

end SelectorList

/-! ### Texts without signs -/

/-- No character of the text asks for anything. -/
abbrev Inert (cs : List Char) : Prop :=
  ∀ c ∈ cs, c ∉ ['#', '.', '[', '~', '+']

theorem Inert.of_all {cs : List Char}
    (h : (cs.all fun c => !(['#', '.', '[', '~', '+'].contains c)) = true) : Inert cs := by
  intro c hc hsign
  simpa [hsign] using List.all_eq_true.mp h c hc

theorem Inert.append {front back : List Char} (hfront : Inert front) (hback : Inert back) :
    Inert (front ++ back) := fun c hc =>
  (List.mem_append.mp hc).elim (hfront c) (hback c)

theorem Inert.asksAttributes {front : List Char} (h : Inert front) (cs : List Char) :
    CosmeticFilter.asksAttributes (front ++ cs) = CosmeticFilter.asksAttributes cs := by
  induction front with
  | nil => rfl
  | cons c front ih =>
    have hc := h c List.mem_cons_self
    simp only [List.mem_cons, List.not_mem_nil, or_false, not_or] at hc
    have hfront := ih fun d hd => h d (List.mem_cons_of_mem _ hd)
    unfold CosmeticFilter.asksAttributes at hfront ⊢
    rw [List.cons_append, List.any_cons, hasBrackets_cons, if_neg hc.2.2.1, Bool.or_assoc, hfront]
    simp [hc.1, hc.2.1]

theorem Inert.asksSiblings {front : List Char} (h : Inert front) (cs : List Char) :
    CosmeticFilter.asksSiblings (front ++ cs) = CosmeticFilter.asksSiblings cs := by
  unfold CosmeticFilter.asksSiblings
  rw [List.any_append, Bool.or_eq_right_iff_imp]
  intro hasks
  obtain ⟨c, hc, hsign⟩ := List.any_eq_true.mp hasks
  have hnone := h c hc
  simp only [List.mem_cons, List.not_mem_nil, or_false, not_or] at hnone
  simp [hnone.2.2.2.1, hnone.2.2.2.2] at hsign

/-- Text in front that asks for nothing does not matter. -/
theorem Inert.fits {deps : Dependencies} {front cs : List Char} (h : Inert front)
    (hcs : Fits deps cs) : Fits deps (front ++ cs) :=
  ⟨fun hasks => hcs.attributes (h.asksAttributes cs ▸ hasks),
    fun hasks => hcs.siblings (h.asksSiblings cs ▸ hasks)⟩

theorem Fits.nil {deps : Dependencies} : Fits deps [] :=
  ⟨by simp [asksAttributes, hasBrackets], by simp [asksSiblings]⟩

theorem Fits.of_inert {deps : Dependencies} {cs : List Char} (h : Inert cs) : Fits deps cs :=
  List.append_nil cs ▸ h.fits Fits.nil

/-- Where attributes matter anyway, texts may be joined. -/
theorem Fits.append {deps : Dependencies} {front back : List Char} (hfront : Fits deps front)
    (hattributes : deps.attributes = true) (hback : Fits deps back) :
    Fits deps (front ++ back) := by
  refine ⟨fun _ => hattributes, fun hasks => ?_⟩
  unfold asksSiblings at hasks
  rw [List.any_append, Bool.or_eq_true] at hasks
  exact hasks.elim hfront.siblings hback.siblings

/-- A star behind the text asks for nothing. -/
theorem Fits.star {deps : Dependencies} {cs : List Char} (h : Fits deps cs) :
    Fits deps (cs ++ ['*']) := by
  refine ⟨fun hasks => h.attributes ?_, fun hasks => h.siblings ?_⟩
  · unfold asksAttributes at hasks ⊢
    rw [Bool.or_eq_true] at hasks ⊢
    refine hasks.imp (by simp [List.any_append]) fun hbrackets => ?_
    obtain ⟨front, inside, back, heq, hne⟩ := hasBrackets_iff.mp hbrackets
    rcases List.eq_nil_or_concat back with rfl | ⟨back, c, rfl⟩
    · have hcs : cs ++ ['*'] = (front ++ '[' :: inside) ++ [']'] := by simp [heq]
      simpa using (List.append_inj' hcs rfl).2
    · have hcs : cs ++ ['*'] = (front ++ '[' :: (inside ++ ']' :: back)) ++ [c] := by simp [heq]
      exact hasBrackets_iff.mpr ⟨front, inside, back, (List.append_inj' hcs rfl).1, hne⟩
  · simpa [asksSiblings, List.any_append] using hasks

/-- What a query looks for is what its text asks for. -/
theorem queryList_fits {deps : Dependencies} {text : String} (h : Fits deps text.toList) :
    ∀ sel ∈ Document.Family.queryList (trimmed text), sel.Fits deps := by
  have htrimmed : Fits deps (trimmed text).toList := by
    simp only [trimmed, String.toList_ofList]
    exact h.of_part (trim_part _)
  unfold Document.Family.queryList
  split
  · refine SelectorList.parse_fits ?_
    rw [String.toList_append]
    refine Inert.fits (.of_all ?_) htrimmed
    decide
  · exact SelectorList.parse_fits htrimmed

end CosmeticFilter
