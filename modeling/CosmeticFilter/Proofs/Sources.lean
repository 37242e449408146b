/-
What a token is read from.

What is no condition of the subset becomes an unsupported one that keeps its source, so that it
can be shown to whoever wrote it.  One kind of token never is a condition and yet keeps nothing: a
pseudo-class with an argument that nothing closes, if the text ends in a backslash with nothing to
escape.

Such a token is known by its source alone.  It starts with a colon, and it ends in an odd number of
backslashes: they escape one another in pairs, and one is left over.
-/
import CosmeticFilter.Proofs.Commas
import CosmeticFilter.Proofs.Lookahead
import Mathlib.Data.List.DropRight

namespace CosmeticFilter

open CosmeticFilter.Text

/-! ### An escape of nothing -/

namespace Text

theorem rtakeWhile_append (p : Char → Bool) (front back : List Char) :
    (front ++ back).rtakeWhile p =
      if back.all p then front.rtakeWhile p ++ back else back.rtakeWhile p := by
  unfold List.rtakeWhile
  rw [List.reverse_append]
  split
  · rename_i hall
    have hpass : ∀ c ∈ back.reverse, p c = true := fun c hc =>
      List.all_eq_true.mp hall c (List.mem_reverse.mp hc)
    rw [List.takeWhile_append_of_pos hpass, List.reverse_append, List.reverse_reverse]
  · rename_i hstop
    have hdrop : back.reverse.dropWhile p ≠ [] := by
      intro hnil
      rw [List.dropWhile_eq_nil_iff] at hnil
      exact hstop (List.all_eq_true.mpr fun c hc => hnil c (List.mem_reverse.mpr hc))
    rw [takeWhile_stays hdrop]

end Text

namespace Token

/-- The text ends in a backslash that no other one escapes. -/
def endsEscaping (cs : List Char) : Bool :=
  (cs.rtakeWhile (· == '\\')).length % 2 == 1

/-- The source of a pseudo-class ends in a backslash that escapes nothing. -/
def isDangling (source : List Char) : Bool :=
  source.head? == some ':' && endsEscaping source

theorem endsEscaping_of_not_mem {cs : List Char} (h : '\\' ∉ cs) : endsEscaping cs = false := by
  have hnone : cs.rtakeWhile (· == '\\') = [] := by
    refine List.eq_nil_iff_forall_not_mem.mpr fun c hc => h ?_
    have heq : c = '\\' := by simpa using List.mem_rtakeWhile_imp hc
    exact heq ▸ (List.rtakeWhile_suffix _ _).subset hc
  rw [endsEscaping, hnone]
  rfl

theorem endsEscaping_behind {c : Char} (hc : c ≠ '\\') (front back : List Char) :
    endsEscaping (front ++ c :: back) = endsEscaping back := by
  have hall : (c :: back).all (· == '\\') = false := by simp [hc]
  have hsingle : [c].rtakeWhile (· == '\\') = [] := by simp [List.rtakeWhile, hc]
  have hfront : (front ++ c :: back).rtakeWhile (· == '\\') =
      back.rtakeWhile (· == '\\') := by
    rw [rtakeWhile_append, hall, if_neg Bool.false_ne_true, ← List.singleton_append,
      rtakeWhile_append, hsingle, List.nil_append]
    split
    · rename_i hback
      exact (List.rtakeWhile_eq_self_iff.mpr (List.all_eq_true.mp hback)).symm
    · rfl
  rw [endsEscaping, hfront, endsEscaping]

/-- A backslash and the character that it escapes do not count. -/
theorem endsEscaping_escape (c : Char) (back : List Char) :
    endsEscaping ('\\' :: c :: back) = endsEscaping back := by
  by_cases hc : c = '\\'
  · subst hc
    unfold endsEscaping
    rw [← List.singleton_append, ← List.singleton_append (l := back), ← List.append_assoc,
      rtakeWhile_append]
    split
    · rename_i hback
      rw [List.rtakeWhile_eq_self_iff.mpr (List.all_eq_true.mp hback), List.length_append]
      have htwo : (['\\'] ++ ['\\']).rtakeWhile (· == '\\') = ['\\', '\\'] := by decide
      rw [htwo, List.length_cons, List.length_singleton, Nat.add_mod_left]
    · rfl
  · exact endsEscaping_behind hc ['\\'] back

/-- An argument that nothing closes may end in an escape of nothing. -/
theorem readArgument_dangling (depth : Nat) (quote : Option Char) (cs : List Char) :
    (readArgument depth quote cs).dangling =
      (!(readArgument depth quote cs).closed && endsEscaping cs) := by
  have hletter : ∀ {c : Char} {rest : List Char}, (c = '\\' → rest = [] → False) →
      (∀ d more, c = '\\' → rest = d :: more → False) →
      endsEscaping (c :: rest) = endsEscaping rest := fun hend hescape =>
    endsEscaping_behind (SelectorList.ne_backslash hend hescape) [] _
  fun_induction readArgument depth quote cs with
  | case1 => rfl
  | case2 => decide
  | case3 depth quote c rest ih => rw [endsEscaping_escape]; exact ih
  | case7 => rfl
  | case4 depth c rest hend hescape _ ih => rw [hletter hend hescape]; exact ih
  | case5 depth c rest hend hescape _ ih => rw [hletter hend hescape]; exact ih
  | case6 depth rest hend hescape _ ih => rw [hletter hend hescape]; exact ih
  | case8 rest outer hend hescape _ _ ih => rw [hletter hend hescape]; exact ih
  | case9 depth c rest hend hescape _ _ _ ih => rw [hletter hend hescape]; exact ih

theorem readName_eq (cs : List Char) : cs = cs.takeWhile isNameChar ++ (readName cs).2 :=
  List.takeWhile_append_dropWhile.symm

theorem not_mem_name (cs : List Char) : '\\' ∉ cs.takeWhile isNameChar := fun hmem =>
  absurd (List.all_eq_true.mp List.all_takeWhile _ hmem) (by decide)

/-- Only what starts with a colon dangles. -/
theorem isDangling_of_ne {c : Char} (hc : c ≠ ':') (cs rest : List Char) :
    isDangling (between (c :: cs) rest) = false := by
  have hhead : (between (c :: cs) rest).head? ≠ some ':' := by
    unfold between
    cases (c :: cs).length - rest.length with
    | zero => simp
    | succ n => simpa using hc
  simp [isDangling, hhead]

/-- A name ends in no backslash. -/
theorem isDangling_name (front : List Char) (hfront : '\\' ∉ front) (cs : List Char) :
    isDangling (between (front ++ cs) (readName cs).2) = false := by
  have hsource : '\\' ∉ front ++ cs.takeWhile isNameChar := fun hmem =>
    (List.mem_append.mp hmem).elim hfront (not_mem_name cs)
  have hparts : front ++ cs = front ++ cs.takeWhile isNameChar ++ (readName cs).2 := by
    rw [List.append_assoc, ← readName_eq]
  rw [hparts, between_append, isDangling, endsEscaping_of_not_mem hsource, Bool.and_false]

/-- What an opening parenthesis follows is read with the argument behind it. -/
theorem readPseudo_open {cs inner : List Char} (hinner : (readName cs).2 = '(' :: inner) :
    let arg := readArgument 0 none inner
    readPseudo cs =
      ((pseudoClass? (lower (readName cs).1) (some arg.text)).getD
        (.unsupported (String.ofList
          (if arg.dangling then [] else between (':' :: cs) arg.rest))), arg.rest) := by
  unfold readPseudo
  split
  · cases hinner
  · simp only [hinner]
    cases pseudoClass? (lower (readName cs).1) (some (readArgument 0 none inner).text) <;> rfl

theorem readPseudo_bare {cs : List Char} (hcolon : cs.head? ≠ some ':')
    (hparen : (readName cs).2.head? ≠ some '(') :
    readPseudo cs =
      ((pseudoClass? (lower (readName cs).1) none).getD
        (.unsupported (String.ofList (between (':' :: cs) (readName cs).2))), (readName cs).2) := by
  unfold readPseudo
  split
  · exact absurd rfl hcolon
  · simp only
    split
    · rename_i inner hinner
      exact absurd (by rw [hinner]; rfl) hparen
    · cases pseudoClass? (lower (readName cs).1) none <;> rfl

/-- Whether a pseudo-class dangles is up to its argument. -/
theorem isDangling_argument {cs inner : List Char} (hinner : (readName cs).2 = '(' :: inner) :
    isDangling (between (':' :: cs) (readArgument 0 none inner).rest) =
      (readArgument 0 none inner).dangling := by
  have hparts := readArgument_eq 0 none inner
  have hcs := readName_eq cs
  rw [hinner] at hcs
  rw [readArgument_dangling]
  by_cases hclosed : (readArgument 0 none inner).closed = true
  · rw [if_pos hclosed] at hparts
    rw [hclosed]
    generalize readArgument 0 none inner = arg at hparts
    have hsource : ':' :: cs =
        ':' :: (cs.takeWhile isNameChar ++ '(' :: arg.text) ++ [')'] ++ arg.rest := by
      conv_lhs => rw [hcs, hparts]
      simp
    rw [hsource, between_append, isDangling, endsEscaping_behind (by decide)]
    exact Bool.and_false _
  · have hopen := Bool.eq_false_iff.mpr hclosed
    rw [readArgument_open hopen, hopen, between, List.length_nil, Nat.sub_zero, List.take_length,
      isDangling, List.head?_cons, beq_self_eq_true, hcs, ← List.cons_append,
      endsEscaping_behind (by decide)]
    rfl

/-- An argument that ends in an escape of nothing is no number. -/
theorem pseudoClass?_dangling {name : String} {inner : List Char}
    (h : (readArgument 0 none inner).dangling = true) :
    pseudoClass? name (some (readArgument 0 none inner).text) = none := by
  have hparts := readArgument_eq 0 none inner
  rw [readArgument_dangling, Bool.and_eq_true, Bool.not_eq_true'] at h
  obtain ⟨hopen, hescape⟩ := h
  rw [hopen, if_neg Bool.false_ne_true, readArgument_open hopen, List.append_nil] at hparts
  have hmember : '\\' ∈ (readArgument 0 none inner).text := by
    by_contra hnone
    rw [← hparts] at hnone
    rw [endsEscaping_of_not_mem hnone] at hescape
    cases hescape
  refine Option.eq_none_iff_forall_ne_some.mpr fun cond hsome => ?_
  exact absurd ((pseudoClass?_argument hsome).2.2 '\\' hmember) (by decide)

/-! ### What is unsupported keeps its source -/

theorem pseudoClass?_ne_unsupported (name : String) (argument : Option (List Char))
    (text : String) : pseudoClass? name argument ≠ some (.unsupported text) := by
  unfold pseudoClass?
  split
  · simp
  · simp
  · split <;> simp
  · simp

theorem readNamed_unsupported {c : Char} {make : String → Simple} {cs : List Char} {text : String}
    (hmake : ∀ name text, make name ≠ .unsupported text)
    (h : (readNamed (String.ofList [c]) make cs).1 = .unsupported text) :
    text = String.ofList (between (c :: cs) (readNamed (String.ofList [c]) make cs).2) := by
  have hname := readName_eq cs
  unfold readNamed at h ⊢
  simp only at h ⊢
  split at h
  · rename_i hempty
    have hnil : cs.takeWhile isNameChar = [] := by
      simpa [readName, String.isEmpty_iff] using hempty
    rw [hnil, List.nil_append] at hname
    rw [← hname, ← Simple.unsupported.inj h]
    exact congrArg String.ofList (between_append [c] cs).symm
  · exact absurd h (hmake _ _)

theorem readType_unsupported {c : Char} {cs : List Char} {text : String}
    (h : (readType c cs).1 = .unsupported text) :
    text = String.ofList (between (c :: cs) (readType c cs).2) := by
  unfold readType at h ⊢
  by_cases hc : isNameChar c = true
  · rw [if_pos hc] at h
    cases h
  · rw [if_neg hc] at h ⊢
    rw [← Simple.unsupported.inj h]
    exact congrArg String.ofList (between_append [c] cs).symm

theorem readAttribute_unsupported {cs : List Char} {text : String}
    (h : (readAttribute cs).1 = .unsupported text) :
    text = String.ofList (between ('[' :: cs) (readAttribute cs).2) := by
  rw [readAttribute_eq] at h ⊢
  simp only at h ⊢
  split at h
  · rename_i after hafter
    split at h
    · rename_i hempty
      rw [if_pos hempty]
      exact (Simple.unsupported.inj h).symm
    · split at h <;> cases h
  · exact (Simple.unsupported.inj h).symm

/-- A pseudo-class is one of the subset, which does not dangle, or its source is what is kept. -/
theorem readPseudo_found (cs : List Char) :
    let source := between (':' :: cs) (readPseudo cs).2
    ∃ found : Option Simple,
      (readPseudo cs).1 = found.getD
        (.unsupported (String.ofList (if isDangling source then [] else source))) ∧
      (∀ text, found ≠ some (.unsupported text)) ∧
      (isDangling source = true → found = none) := by
  intro source
  by_cases hcolon : cs.head? = some ':'
  · obtain ⟨more, rfl⟩ := List.head?_eq_some_iff.mp hcolon
    have hplain : isDangling source = false := isDangling_name [':', ':'] (by decide) more
    refine ⟨none, ?_, by simp, fun _ => rfl⟩
    rw [hplain]
    rfl
  by_cases hparen : (readName cs).2.head? = some '('
  · obtain ⟨inner, hinner⟩ := List.head?_eq_some_iff.mp hparen
    have hread := readPseudo_open hinner
    have hsource : source = between (':' :: cs) (readArgument 0 none inner).rest :=
      congrArg (fun read => between (':' :: cs) read.2) hread
    have hdangling : isDangling source = (readArgument 0 none inner).dangling := by
      rw [hsource, isDangling_argument hinner]
    refine ⟨pseudoClass? (lower (readName cs).1) (some (readArgument 0 none inner).text), ?_,
      pseudoClass?_ne_unsupported _ _, fun h => pseudoClass?_dangling (hdangling ▸ h)⟩
    rw [hread, hdangling, hsource]
  · have hread := readPseudo_bare hcolon hparen
    have hsource : source = between (':' :: cs) (readName cs).2 :=
      congrArg (fun read => between (':' :: cs) read.2) hread
    have hplain : isDangling source = false := by
      rw [hsource]
      exact isDangling_name [':'] (by decide) cs
    refine ⟨pseudoClass? (lower (readName cs).1) none, ?_, pseudoClass?_ne_unsupported _ _,
      fun h => ?_⟩
    · rw [hread, hplain, hsource]
      rfl
    · exact absurd (hplain.symm.trans h) Bool.false_ne_true

theorem readPseudo_dangling {cs : List Char}
    (h : isDangling (between (':' :: cs) (readPseudo cs).2) = true) :
    (readPseudo cs).1 = .unsupported "" := by
  obtain ⟨found, hread, -, hnone⟩ := readPseudo_found cs
  rw [hread, hnone h, h]
  rfl

theorem readPseudo_unsupported {cs : List Char} {text : String}
    (h : (readPseudo cs).1 = .unsupported text)
    (hplain : isDangling (between (':' :: cs) (readPseudo cs).2) = false) :
    text = String.ofList (between (':' :: cs) (readPseudo cs).2) := by
  obtain ⟨found, hread, hfound, -⟩ := readPseudo_found cs
  rw [hread, hplain] at h
  cases found with
  | none => exact (Simple.unsupported.inj h).symm
  | some cond => exact absurd (congrArg some h) (hfound text)

/-- What starts with a colon is read as a pseudo-class, and nothing else dangles. -/
theorem next?_isDangling {cs rest : List Char} {token : Token}
    (hnext : next? cs = some (token, rest)) (h : isDangling (between cs rest) = true) :
    token = .simple (.unsupported "") := by
  cases cs with
  | nil => cases hnext
  | cons c after =>
    obtain rfl : c = ':' := by
      by_contra hc
      rw [isDangling_of_ne hc] at h
      cases h
    obtain ⟨rfl, rfl⟩ := Prod.mk.inj (Option.some.inj hnext)
    exact congrArg Token.simple (readPseudo_dangling h)

/-- **What is unsupported keeps its source**, but for a pseudo-class that dangles. -/
theorem next?_unsupported {cs rest : List Char} {text : String}
    (hnext : next? cs = some (.simple (.unsupported text), rest))
    (hplain : isDangling (between cs rest) = false) : text = String.ofList (between cs rest) := by
  cases cs with
  | nil => cases hnext
  | cons c after =>
    unfold next? at hnext
    simp only at hnext
    split at hnext
    · cases hnext
    · split at hnext <;> obtain ⟨htoken, rfl⟩ := Prod.mk.inj (Option.some.inj hnext)
      · cases htoken
      · cases htoken
      · cases htoken
      · cases htoken
      · exact readNamed_unsupported (c := '.') (by simp) (Token.simple.inj htoken)
      · exact readNamed_unsupported (c := '#') (by simp) (Token.simple.inj htoken)
      · exact readAttribute_unsupported (Token.simple.inj htoken)
      · exact readPseudo_unsupported (Token.simple.inj htoken) hplain
      · exact readType_unsupported (Token.simple.inj htoken)

/-- Only blanks are read from a blank. -/
theorem head_of_next? {cs rest : List Char} {token : Token}
    (hnext : next? cs = some (token, rest)) (htoken : token ≠ .blank) :
    ∀ c ∈ cs.head?, isBlank c = false := by
  rintro c hc
  obtain ⟨after, rfl⟩ := List.head?_eq_some_iff.mp hc
  refine Bool.eq_false_iff.mpr fun hblank => htoken ?_
  simp only [next?, if_pos hblank, Option.some.injEq, Prod.mk.injEq] at hnext
  exact hnext.1.symm

end Token

end CosmeticFilter
