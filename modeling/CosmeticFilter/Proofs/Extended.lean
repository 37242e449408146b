/-
Where the start of an extended pseudo-class can stand.

The search for `:name(` goes through a text from left to right and knows nothing of tokens.
In a text that reads as a standard selector there is only one place where it can find
something: inside of an attribute value.  For no other token of the subset has a colon, a
name and a parenthesis in a row, but for that of `:nth-child`, whose name is not extended.

The lemmas take the tokens off the front of the text one by one.  What is not passed over
character by character is a text up to a `Stop`, a character that ends whatever it meets.
-/
import CosmeticFilter.Chain.Parser
import CosmeticFilter.Proofs.Conditions

namespace CosmeticFilter

open CosmeticFilter.Text

/-- The start of an extended pseudo-class stands somewhere in the text. -/
def isExtended (cs : List Char) : Bool :=
  (findPseudo? cs).isSome

/-- No pseudo-class goes on across the character. -/
structure Stop (c : Char) : Prop where
  name : isPseudoChar c = false
  paren : c ≠ '('

/-! ### Finding -/

theorem isExtended_cons (c : Char) (cs : List Char) :
    isExtended (c :: cs) = ((c == ':' && (pseudoAt? cs).isSome) || isExtended cs) := by
  unfold isExtended
  rw [findPseudo?]
  by_cases hc : c = ':'
  · rw [if_pos hc]
    cases pseudoAt? cs <;> simp [hc]
  · simp [hc]

/-- Only from a colon on something is found. -/
theorem isExtended_cons_of_ne {c : Char} (hc : c ≠ ':') (cs : List Char) :
    isExtended (c :: cs) = isExtended cs := by
  simp [isExtended_cons, hc]

theorem isExtended_append {front : List Char} (h : ':' ∉ front) (cs : List Char) :
    isExtended (front ++ cs) = isExtended cs := by
  induction front with
  | nil => rfl
  | cons c front ih =>
    rw [List.mem_cons, not_or] at h
    rw [List.cons_append, isExtended_cons_of_ne (Ne.symm h.1), ih h.2]

theorem isExtended_of_not_mem {cs : List Char} (h : ':' ∉ cs) : isExtended cs = false := by
  rw [← List.append_nil cs, isExtended_append h]
  rfl

theorem isExtended_dropWhile {p : Char → Bool} (hp : p ':' = false) (cs : List Char) :
    isExtended (cs.dropWhile p) = isExtended cs := by
  induction cs with
  | nil => rfl
  | cons c cs ih =>
    rw [List.dropWhile_cons]
    split
    · rename_i hc
      have hcolon : c ≠ ':' := by
        rintro rfl
        simp [hp] at hc
      rw [ih, isExtended_cons_of_ne hcolon]
    · rfl

theorem pseudoAt?_eq (cs : List Char) :
    pseudoAt? cs = match cs.dropWhile isPseudoChar with
      | '(' :: after =>
        (PseudoClass.named? (cs.takeWhile isPseudoChar)).map fun kind =>
          ⟨[], kind, cs.takeWhile isPseudoChar, after⟩
      | _ => none := rfl

/-- What stands behind a stop makes no difference to a pseudo-class in front of it. -/
theorem pseudoAt?_isSome_stop {c : Char} (hc : Stop c) (front back : List Char) :
    (pseudoAt? (front ++ c :: back)).isSome = (pseudoAt? front).isSome := by
  have hstop : (c :: back).takeWhile isPseudoChar = [] ∧
      (c :: back).dropWhile isPseudoChar = c :: back := by
    simp [hc.name]
  rw [pseudoAt?_eq, pseudoAt?_eq, List.takeWhile_append, List.dropWhile_append, hstop.1, hstop.2]
  by_cases hall : (front.dropWhile isPseudoChar).isEmpty = true
  · have hnil := List.isEmpty_iff.mp hall
    rw [if_pos hall, hnil]
    split
    · rename_i hcons
      exact absurd (List.cons.inj hcons).1 hc.paren
    · rfl
  · rw [if_neg hall]
    have hshort : (front.takeWhile isPseudoChar).length ≠ front.length := by
      intro hlength
      have hsplit := congrArg List.length
        (List.takeWhile_append_dropWhile (p := isPseudoChar) (l := front))
      rw [List.length_append, hlength] at hsplit
      exact hall (List.isEmpty_iff.mpr (List.length_eq_zero_iff.mp (by omega)))
    rw [if_neg hshort]
    cases hdrop : front.dropWhile isPseudoChar with
    | nil => simp [hdrop] at hall
    | cons d rest =>
      rw [List.cons_append]
      by_cases hd : d = '('
      · subst hd
        simp
      · split
        · rename_i hcons
          exact absurd (List.cons.inj hcons).1 hd
        · split
          · rename_i hcons
            exact absurd (List.cons.inj hcons).1 hd
          · rfl

/-- What is found in a text is found on one side of a stop. -/
theorem isExtended_stop {c : Char} (hc : Stop c) (front back : List Char) :
    isExtended (front ++ c :: back) = (isExtended front || isExtended (c :: back)) := by
  induction front with
  | nil => simp [isExtended, findPseudo?]
  | cons d front ih =>
    rw [List.cons_append, isExtended_cons, isExtended_cons, pseudoAt?_isSome_stop hc, ih,
      Bool.or_assoc]

/-! ### Tokens -/

namespace Token

theorem stop_of_isBlank {c : Char} (h : isBlank c = true) : Stop c := by
  simp only [isBlank, Bool.or_eq_true, beq_iff_eq] at h
  rcases h with (((rfl | rfl) | rfl) | rfl) | rfl <;> exact ⟨by decide, by decide⟩

theorem readName_extended (cs : List Char) : isExtended (readName cs).2 = isExtended cs :=
  isExtended_dropWhile rfl cs

theorem dropWhile_isBlank_extended (cs : List Char) :
    isExtended (cs.dropWhile isBlank) = isExtended cs :=
  isExtended_dropWhile rfl cs

theorem readType_extended {c : Char} {cs : List Char}
    (h : (readType c cs).1.isSupported = true) :
    isExtended (readType c cs).2 = isExtended (c :: cs) := by
  unfold readType at h ⊢
  split
  · exact readName_extended (c :: cs)
  · rename_i hc
    simp [hc, Simple.isSupported] at h

/-- What is read as an argument is cut out of the text exactly. -/
theorem readArgument_eq (depth : Nat) (quote : Option Char) (cs : List Char) :
    cs = (readArgument depth quote cs).text ++
      if (readArgument depth quote cs).closed then ')' :: (readArgument depth quote cs).rest
      else (readArgument depth quote cs).rest := by
  fun_induction readArgument depth quote cs with
  | case1 => rfl
  | case2 => rfl
  | case3 depth quote c rest ih =>
    simp only [Argument.cons, List.cons_append]
    exact congrArg _ (congrArg _ ih)
  | case7 => simp_all
  | case4 | case5 | case6 | case8 | case9 =>
    rename_i ih
    simp only [Argument.cons, List.cons_append]
    exact congrArg _ ih

/-- Only digits and a plus sign are read as a number. -/
theorem mem_of_readNatural? {limit n : Nat} {cs : List Char} (h : readNatural? limit cs = some n)
    {c : Char} (hc : c ∈ cs) : c = '+' ∨ ('0' ≤ c ∧ c ≤ '9') := by
  have hdigits : ∀ (cs : List Char) (acc n : Nat), readDigits? acc cs = some n →
      ∀ c ∈ cs, '0' ≤ c ∧ c ≤ '9' := by
    intro cs
    induction cs with
    | nil => simp
    | cons d rest ih =>
      intro acc n hread c hc
      rw [readDigits?, digitValue?] at hread
      by_cases hd : '0' ≤ d ∧ d ≤ '9'
      · rw [if_pos hd] at hread
        rcases List.mem_cons.mp hc with rfl | hc
        · exact hd
        · exact ih _ _ hread c hc
      · simp [if_neg hd] at hread
  unfold readNatural? at h
  simp only at h
  split at h
  · rename_i rest
    split at h
    · simp at h
    · obtain ⟨hread, -⟩ := Option.filter_eq_some_iff.mp h
      rcases List.mem_cons.mp hc with rfl | hc
      · exact .inl rfl
      · exact .inr (hdigits _ _ _ hread c hc)
  · split at h
    · simp at h
    · obtain ⟨hread, -⟩ := Option.filter_eq_some_iff.mp h
      exact .inr (hdigits _ _ _ hread c hc)

/-- Trimming takes away white characters only. -/
theorem mem_trim_or_isWhite {cs : List Char} {c : Char} (hc : c ∈ cs) :
    c ∈ trim cs ∨ isWhite c = true := by
  have hdrop : ∀ cs : List Char, c ∈ cs → c ∈ cs.dropWhile isWhite ∨ isWhite c = true := by
    intro cs
    induction cs with
    | nil => simp
    | cons d rest ih =>
      intro hmem
      rw [List.dropWhile_cons]
      by_cases hd : isWhite d = true
      · rw [if_pos hd]
        rcases List.mem_cons.mp hmem with rfl | hmem
        · exact .inr hd
        · exact ih hmem
      · rw [if_neg hd]
        exact .inl hmem
  rcases hdrop cs hc with hleft | hwhite
  · refine (hdrop _ (List.mem_reverse.mpr hleft)).imp_left fun hright => ?_
    exact List.mem_reverse.mpr hright
  · exact .inr hwhite

/-- Only a number, with white characters around it, is an argument of the subset. -/
theorem pseudoClass?_argument {name : String} {text : List Char} {cond : Simple}
    (h : pseudoClass? name (some text) = some cond) :
    name = "nth-child" ∧ (∃ position, cond = .nthChild position) ∧
      ∀ c ∈ text, isWhite c = true ∨ c = '+' ∨ ('0' ≤ c ∧ c ≤ '9') := by
  unfold pseudoClass? at h
  split at h
  · rename_i heq
    cases heq
  · rename_i heq
    cases heq
  · rename_i hname heq
    obtain rfl := Option.some.inj heq
    split at h
    · rename_i n hread
      refine ⟨rfl, ⟨n + 1, (Option.some.inj h).symm⟩, fun c hc => ?_⟩
      rcases mem_trim_or_isWhite hc with hmem | hwhite
      · exact .inr (mem_of_readNatural? hread hmem)
      · exact .inl hwhite
    · cases h
  · cases h

theorem isNameChar_of_isPseudoChar {c : Char} (h : isPseudoChar c = true) :
    isNameChar c = true := by
  simp only [isPseudoChar, Bool.or_eq_true, beq_iff_eq, or_assoc] at h
  exact isNameChar_of_letter (h.imp_right Or.symm)

/-- The name of a pseudo-class is read as a name. -/
theorem readName_of_pseudoAt? {cs : List Char} {found : FoundPseudo}
    (h : pseudoAt? cs = some found) :
    readName cs = (String.ofList found.name, '(' :: found.after) ∧
      PseudoClass.named? found.name = some found.kind := by
  rw [pseudoAt?_eq] at h
  split at h
  · rename_i after hdrop
    obtain ⟨kind, hkind, rfl⟩ := Option.map_eq_some_iff.mp h
    refine ⟨?_, hkind⟩
    have hname : ∀ c ∈ cs.takeWhile isPseudoChar, isNameChar c = true := fun c hc =>
      isNameChar_of_isPseudoChar (List.all_eq_true.mp List.all_takeWhile c hc)
    have hsplit := List.takeWhile_append_dropWhile (p := isPseudoChar) (l := cs)
    rw [hdrop] at hsplit
    have hparen : isNameChar '(' = false := by decide
    unfold readName
    conv_lhs => rw [← hsplit]
    rw [List.takeWhile_append_of_pos hname, List.dropWhile_append_of_pos hname,
      List.takeWhile_cons_of_neg (by simp [hparen]), List.dropWhile_cons_of_neg (by simp [hparen]),
      List.append_nil]
  · cases h

/-- The name of the one pseudo-class with an argument is not an extended one. -/
theorem pseudoAt?_of_nthChild {cs : List Char} (h : lower (readName cs).1 = "nth-child") :
    pseudoAt? cs = none := by
  cases hfound : pseudoAt? cs with
  | none => rfl
  | some found =>
    obtain ⟨hname, hkind⟩ := readName_of_pseudoAt? hfound
    have hlower : found.name.map Char.toLower = "nth-child".toList := by
      rw [hname, lower, String.toList_ofList] at h
      rw [← h, String.toList_ofList]
    have hnone : PseudoClass.named? found.name = none := by
      unfold PseudoClass.named?
      simp only [hlower]
      decide
    simp [hnone] at hkind

theorem readArgument_extended {depth : Nat} {quote : Option Char} {cs : List Char}
    (h : ':' ∉ (readArgument depth quote cs).text) :
    isExtended (readArgument depth quote cs).rest = isExtended cs := by
  conv_rhs => rw [readArgument_eq depth quote cs, isExtended_append h]
  split
  · rw [isExtended_cons_of_ne (by decide)]
  · rfl

theorem readPseudo_extended {cs : List Char} (h : (readPseudo cs).1.isSupported = true) :
    isExtended (readPseudo cs).2 = isExtended (':' :: cs) := by
  rw [isExtended_cons, beq_self_eq_true, Bool.true_and]
  unfold readPseudo at h ⊢
  split
  · simp [Simple.isSupported] at h
  · simp only at h ⊢
    split
    · rename_i inner hinner
      rw [hinner] at h
      simp only at h
      split
      · rename_i cond hcond
        obtain ⟨hname, -, hletters⟩ := pseudoClass?_argument hcond
        have hcolon : ':' ∉ (readArgument 0 none inner).text := by
          intro hmem
          rcases hletters ':' hmem with hwhite | hplus | ⟨-, hnine⟩
          · exact absurd hwhite (by decide)
          · exact absurd hplus (by decide)
          · exact absurd hnine (by decide)
        rw [pseudoAt?_of_nthChild hname, ← readName_extended cs, hinner,
          isExtended_cons_of_ne (by decide), ← readArgument_extended hcolon]
        rfl
      · rename_i hnone
        simp [hnone, Simple.isSupported] at h
    · rename_i hparen
      have hat : pseudoAt? cs = none := by
        cases hfound : pseudoAt? cs with
        | none => rfl
        | some found =>
          rw [(readName_of_pseudoAt? hfound).1] at hparen
          exact absurd rfl (hparen found.after)
      rw [hat, ← readName_extended cs]
      split <;> rfl

/-- A value that no extended pseudo-class starts in is passed over. -/
theorem readValue_extended {cs after : List Char}
    (hclose : (readValue cs).2.dropWhile isBlank = ']' :: after)
    (hvalue : isExtended (readValue cs).1.toList = false) :
    isExtended (readValue cs).2 = isExtended cs := by
  cases cs with
  | nil => cases hclose
  | cons q rest =>
    simp only [readValue] at hclose hvalue ⊢
    split at hclose
    · rename_i hq
      rw [if_pos hq] at hvalue ⊢
      have hstop : Stop q := by rcases hq with rfl | rfl <;> exact ⟨by decide, by decide⟩
      have hcolon : q ≠ ':' := by rcases hq with rfl | rfl <;> decide
      have hsplit := List.takeWhile_append_dropWhile (p := (· != q)) (l := rest)
      rw [String.toList_ofList] at hvalue
      cases hdrop : rest.dropWhile (· != q) with
      | nil =>
        simp only [hdrop] at hclose
        cases hclose
      | cons c back =>
        have hc : c = q := by
          have hhead := List.head?_dropWhile_not (· != q) rest
          simpa [hdrop] using hhead
        subst hc
        rw [hdrop] at hsplit
        rw [isExtended_cons_of_ne hcolon, ← hsplit, isExtended_stop hstop, hvalue, Bool.false_or,
          isExtended_cons_of_ne hcolon]
        rfl
    · rename_i hq
      rw [if_neg hq] at hvalue ⊢
      generalize hplain : (fun c => !isBlank c && c != ']') = plain at *
      have hsplit := List.takeWhile_append_dropWhile (p := plain) (l := q :: rest)
      rw [String.toList_ofList] at hvalue
      cases hdrop : (q :: rest).dropWhile plain with
      | nil =>
        simp only [hdrop] at hclose
        cases hclose
      | cons c back =>
        have hhead : plain c = false := by
          have hnot := List.head?_dropWhile_not plain (q :: rest)
          simpa [hdrop] using hnot
        have hstop : Stop c := by
          rw [← hplain] at hhead
          by_cases hblank : isBlank c = true
          · exact stop_of_isBlank hblank
          · obtain rfl : c = ']' := by simpa [hblank] using hhead
            exact ⟨by decide, by decide⟩
        rw [hdrop] at hsplit
        conv_rhs => rw [← hsplit, isExtended_stop hstop, hvalue, Bool.false_or]

/-- The name in brackets and what follows it up to the value have no colon. -/
theorem afterEquals_extended {cs after : List Char}
    (hclose : (afterEquals cs).2.dropWhile isBlank = ']' :: after)
    (hvalue : ∀ value, (afterEquals cs).1 = some value → isExtended value.toList = false) :
    isExtended (afterEquals cs).2 = isExtended cs := by
  rw [← dropWhile_isBlank_extended cs]
  unfold afterEquals at hclose hvalue ⊢
  split
  · rename_i more hmore
    simp only [hmore] at hclose hvalue
    rw [hmore, isExtended_cons_of_ne (by decide), ← dropWhile_isBlank_extended more]
    exact readValue_extended hclose (hvalue _ rfl)
  · rfl

end Token

/-- The condition is supported, and no value starts an extended pseudo-class. -/
def Simple.isStandard : Simple → Bool
  | .unsupported _ => false
  | .attributeIs _ value => !isExtended value.toList
  | _ => true

namespace Token

theorem readAttribute_extended {cs : List Char} (h : (readAttribute cs).1.isStandard = true) :
    isExtended (readAttribute cs).2 = isExtended ('[' :: cs) := by
  rw [isExtended_cons_of_ne (by decide), ← dropWhile_isBlank_extended cs,
    ← readName_extended (cs.dropWhile isBlank)]
  rw [readAttribute_eq] at h ⊢
  simp only at h ⊢
  generalize readName (cs.dropWhile isBlank) = name at h ⊢
  split
  · rename_i after hclose
    have hafter : isExtended after = isExtended (afterEquals name.2).2 := by
      rw [← dropWhile_isBlank_extended (afterEquals name.2).2, hclose,
        isExtended_cons_of_ne (by decide)]
    simp only [hclose] at h
    split at h
    · simp [Simple.isStandard] at h
    · rename_i hname
      rw [if_neg hname]
      have hvalue : ∀ value, (afterEquals name.2).1 = some value →
          isExtended value.toList = false := by
        intro value hsome
        simpa [hsome, Simple.isStandard] using h
      rw [← afterEquals_extended hclose hvalue, ← hafter]
      split <;> rfl
  · rename_i hother
    split at h
    · rename_i after hclose
      exact absurd hclose (hother after)
    · simp [Simple.isStandard] at h

theorem isSupported_of_isStandard {cond : Simple} (h : cond.isStandard = true) :
    cond.isSupported = true := by
  cases cond <;> simp_all [Simple.isStandard, Simple.isSupported]

/-- **A token that is standard** is passed over, and nothing is found in it. -/
theorem next?_extended {cs rest : List Char} {token : Token}
    (hnext : next? cs = some (token, rest))
    (hstandard : ∀ cond, token.simple? = some cond → cond.isStandard = true) :
    isExtended rest = isExtended cs := by
  cases cs with
  | nil => cases hnext
  | cons c after =>
    unfold next? at hnext
    simp only at hnext
    split at hnext
    · rename_i hblank
      obtain ⟨rfl, rfl⟩ := Prod.mk.inj (Option.some.inj hnext)
      have hcolon : c ≠ ':' := by
        rintro rfl
        exact absurd hblank (by decide)
      rw [dropWhile_isBlank_extended, isExtended_cons_of_ne hcolon]
    · split at hnext <;> obtain ⟨rfl, rfl⟩ := Prod.mk.inj (Option.some.inj hnext)
      · rw [isExtended_cons_of_ne (by decide)]
      · rw [isExtended_cons_of_ne (by decide)]
      · rw [isExtended_cons_of_ne (by decide)]
      · rw [isExtended_cons_of_ne (by decide)]
      · rw [isExtended_cons_of_ne (by decide)]
        exact readName_extended after
      · rw [isExtended_cons_of_ne (by decide)]
        exact readName_extended after
      · exact readAttribute_extended (hstandard _ rfl)
      · exact readPseudo_extended (isSupported_of_isStandard (hstandard _ rfl))
      · exact readType_extended (isSupported_of_isStandard (hstandard _ rfl))

/-- Nothing is found in a text whose tokens are all standard. -/
theorem all_extended {cs : List Char}
    (h : ∀ cond ∈ (all cs).filterMap simple?, cond.isStandard = true) :
    isExtended cs = false := by
  fun_induction all cs with
  | case1 cs hnext =>
    obtain rfl := eq_nil_of_next? hnext
    rfl
  | case2 cs token rest hnext ih =>
    have hfirst : ∀ cond, token.simple? = some cond → cond.isStandard = true := fun cond hcond =>
      h cond (by simp [hcond])
    rw [← next?_extended hnext hfirst]
    refine ih fun cond hcond => h cond ?_
    rw [List.filterMap_cons]
    split
    · exact hcond
    · exact List.mem_cons_of_mem _ hcond

end Token

end CosmeticFilter
