/-
How far the reader looks.

A token is read off the front of a text, and what follows is left for later.  How much of it the
reader has to know?  A condition in brackets and an argument in parentheses end where they are
closed, whatever follows.  A name and blanks go on as long as they can, and may have gone on if
the text had not ended.  An argument that nothing closes takes the text to its end.

For conditions of the subset this is all there is, and a scan that keeps account of quotes and
parentheses comes out of them as it went in: in what they are read from nothing is open, but for
an argument that nothing closes, and for what an attribute value may hold.
-/
import CosmeticFilter.Proofs.Canonical

namespace CosmeticFilter

open CosmeticFilter.Text

/-! ### Stretches of a longer text -/

namespace Text

variable {p : Char → Bool} {cs : List Char}

theorem dropWhile_stays (h : cs.dropWhile p ≠ []) (back : List Char) :
    (cs ++ back).dropWhile p = cs.dropWhile p ++ back := by
  rw [List.dropWhile_append, if_neg (mt List.isEmpty_iff.mp h)]

theorem takeWhile_stays (h : cs.dropWhile p ≠ []) (back : List Char) :
    (cs ++ back).takeWhile p = cs.takeWhile p := by
  rw [List.takeWhile_append, if_neg]
  intro hlength
  have hsplit := congrArg List.length (List.takeWhile_append_dropWhile (p := p) (l := cs))
  rw [List.length_append, hlength] at hsplit
  exact h (List.length_eq_zero_iff.mp (by omega))

theorem dropWhile_of_head (h : ∀ c ∈ cs.head?, p c = false) : cs.dropWhile p = cs := by
  cases cs with
  | nil => rfl
  | cons c more => exact List.dropWhile_cons_of_neg (by simp [h c rfl])

/-- A comma ends a stretch that has none. -/
theorem dropWhile_append_comma (hcomma : p ',' = false) (cs more back : List Char) :
    ∃ left, left <:+ more ∧
      (cs ++ (more ++ ',' :: back)).dropWhile p = cs.dropWhile p ++ (left ++ ',' :: back) := by
  have hstop : (',' :: back).dropWhile p = ',' :: back :=
    List.dropWhile_cons_of_neg (by simp [hcomma])
  rw [List.dropWhile_append]
  split
  · rename_i hall
    refine ⟨more.dropWhile p, List.dropWhile_suffix _, ?_⟩
    rw [List.isEmpty_iff.mp hall, List.dropWhile_append]
    split
    · rename_i hmore
      rw [hstop, List.isEmpty_iff.mp hmore]
      rfl
    · rfl
  · exact ⟨more, List.suffix_rfl, rfl⟩

end Text

theorem isScanSign_of_isWhite {c : Char} (h : isWhite c = true) : isScanSign c = false :=
  isScanSign_of (by decide) h

namespace Token

/-! ### Attributes -/

theorem readValue_stays {cs : List Char} (h : (readValue cs).2 ≠ []) (back : List Char) :
    readValue (cs ++ back) = ((readValue cs).1, (readValue cs).2 ++ back) := by
  cases cs with
  | nil => exact absurd rfl h
  | cons q rest =>
    simp only [readValue, List.cons_append] at h ⊢
    split
    · rename_i hq
      rw [if_pos hq] at h
      have hdrop : rest.dropWhile (· != q) ≠ [] := by
        intro hnil
        simp [hnil] at h
      obtain ⟨c, after, hafter⟩ := List.exists_cons_of_ne_nil hdrop
      simp [dropWhile_stays hdrop, takeWhile_stays hdrop, hafter]
    · rename_i hq
      rw [if_neg hq] at h
      rw [← List.cons_append, dropWhile_stays h, takeWhile_stays h]

theorem afterEquals_stays {cs : List Char} (h : (afterEquals cs).2 ≠ []) (back : List Char) :
    afterEquals (cs ++ back) = ((afterEquals cs).1, (afterEquals cs).2 ++ back) := by
  have hdrop : cs.dropWhile isBlank ≠ [] := by
    intro hnil
    simp [afterEquals, hnil] at h
  unfold afterEquals at h ⊢
  rw [dropWhile_stays hdrop]
  obtain ⟨c, after, hafter⟩ := List.exists_cons_of_ne_nil hdrop
  rw [hafter] at h ⊢
  by_cases hc : c = '='
  · subst hc
    simp only [List.cons_append] at h ⊢
    have hvalue : after.dropWhile isBlank ≠ [] := by
      intro hnil
      simp [hnil, readValue] at h
    rw [dropWhile_stays hvalue, readValue_stays h]
  · simp [hc]

/-- A supported attribute is closed by a bracket. -/
theorem exists_bracket {cs : List Char} (h : (readAttribute cs).1.isSupported = true) :
    ∃ after, (afterEquals (readName (cs.dropWhile isBlank)).2).2.dropWhile isBlank =
      ']' :: after := by
  rw [readAttribute_eq] at h
  simp only at h
  split at h
  · rename_i after hclose
    exact ⟨after, hclose⟩
  · cases h

/-- An attribute ends at the bracket that closes it. -/
theorem readAttribute_stays {cs : List Char} (h : (readAttribute cs).1.isSupported = true)
    (back : List Char) :
    readAttribute (cs ++ back) = ((readAttribute cs).1, (readAttribute cs).2 ++ back) := by
  obtain ⟨after, hclose⟩ := exists_bracket h
  -- The bracket stands behind all that was read, so that no reader has come to the end of the text.
  have hvalue : (afterEquals (readName (cs.dropWhile isBlank)).2).2 ≠ [] := by
    intro hnil
    simp [hnil] at hclose
  have hname : (readName (cs.dropWhile isBlank)).2 ≠ [] := by
    intro hnil
    simp [hnil, afterEquals] at hvalue
  have hblank : cs.dropWhile isBlank ≠ [] := by
    intro hnil
    simp [hnil, readName] at hname
  have hread : readName (cs.dropWhile isBlank ++ back) =
      ((readName (cs.dropWhile isBlank)).1, (readName (cs.dropWhile isBlank)).2 ++ back) := by
    rw [readName, takeWhile_stays hname, dropWhile_stays hname, readName]
  have hend : (afterEquals (readName (cs.dropWhile isBlank)).2).2.dropWhile isBlank ≠ [] := by
    simp [hclose]
  rw [readAttribute_eq, readAttribute_eq, dropWhile_stays hblank, hread]
  simp only
  rw [afterEquals_stays hvalue, dropWhile_stays hend, hclose]
  rw [readAttribute_eq] at h
  simp only [hclose, List.cons_append] at h ⊢
  split at h
  · cases h
  · rename_i hfilled
    rw [if_neg hfilled, if_neg hfilled]
    split <;> rfl

/-- Without a value, nothing in the brackets needs care. -/
theorem exists_letters_of_attribute {cs : List Char} {name : String}
    (h : (readAttribute cs).1 = .attribute name) :
    ∃ front, cs = front ++ (readAttribute cs).2 ∧ ∀ c ∈ front, isScanSign c = false := by
  have hsupported : (readAttribute cs).1.isSupported = true := by
    rw [h]
    rfl
  obtain ⟨after, hclose⟩ := exists_bracket hsupported
  rw [readAttribute_eq] at h ⊢
  simp only [hclose] at h ⊢
  split at h
  · cases h
  · rename_i hfilled
    rw [if_neg hfilled]
    split at h
    · cases h
    · rename_i hnone
      have hvalue : (afterEquals (readName (cs.dropWhile isBlank)).2).2 =
          (readName (cs.dropWhile isBlank)).2.dropWhile isBlank := by
        unfold afterEquals at hnone ⊢
        split
        · rename_i heq
          simp [heq] at hnone
        · rfl
      rw [hvalue, List.dropWhile_idempotent] at hclose
      refine ⟨cs.takeWhile isBlank ++ ((readName (cs.dropWhile isBlank)).1.toList ++
        ((readName (cs.dropWhile isBlank)).2.takeWhile isBlank ++ [']'])), ?_, ?_⟩
      · show cs = _ ++ after
        rw [readName, String.toList_ofList, List.append_assoc, List.append_assoc, List.append_assoc,
          List.singleton_append, ← hclose, readName, List.takeWhile_append_dropWhile,
          List.takeWhile_append_dropWhile, List.takeWhile_append_dropWhile]
      · have hblanks : ∀ cs : List Char, ∀ c ∈ cs.takeWhile isBlank, isScanSign c = false :=
          fun cs c hc => isScanSign_of (by decide) (List.all_eq_true.mp List.all_takeWhile c hc)
        have hletters : ∀ c ∈ (readName (cs.dropWhile isBlank)).1.toList, isScanSign c = false :=
          fun c hc => isScanSign_of_isNameChar
            ((isName_of_readName (Bool.eq_false_iff.mpr hfilled)).letters c hc)
        simp only [List.forall_mem_append, List.forall_mem_singleton]
        exact ⟨hblanks _, hletters, hblanks _, by decide⟩

/-! ### Pseudo-classes -/

theorem scans_readArgument : Scans (fun n => readArgument n.depth n.quote) Argument.cons := by
  rintro ⟨depth, quote⟩ c rest hslash htop
  have hend : c = '\\' → rest = [] → False := fun hc _ => hslash hc
  have hescape : ∀ d more, c = '\\' → rest = d :: more → False := fun _ _ hc _ => hslash hc
  cases quote with
  | some q =>
    show readArgument depth (some q) (c :: rest) = _
    rw [readArgument.eq_4 depth c rest q hend hescape]
    by_cases hq : c = q <;> simp [SelectorList.Nesting.after, hq]
  | none =>
    cases depth with
    | zero =>
      show readArgument 0 none (c :: rest) = _
      rw [readArgument.eq_5 c rest hend hescape]
      simp only [SelectorList.Nesting.after, if_neg (htop rfl).1]
      split
      · rfl
      · split <;> rfl
    | succ outer =>
      show readArgument (outer + 1) none (c :: rest) = _
      rw [readArgument.eq_6 c rest outer hend hescape]
      simp only [SelectorList.Nesting.after]
      split
      · rfl
      · split
        · rfl
        · split <;> rfl

/-- Letters in front of an argument belong to it. -/
theorem readArgument_letters {front : List Char} (h : ∀ c ∈ front, isScanSign c = false)
    (back : List Char) :
    readArgument 0 none (front ++ back) =
      { readArgument 0 none back with text := front ++ (readArgument 0 none back).text } := by
  have hall := (Sealed.of_letters h).scan_append scans_readArgument 0 back
  have hfold : ∀ (front : List Char) (arg : Argument),
      front.foldr Argument.cons arg = { arg with text := front ++ arg.text } := by
    intro front arg
    induction front with
    | nil => rfl
    | cons c more ih => rw [List.foldr_cons, ih, Argument.cons, List.cons_append]
  rwa [hfold] at hall

theorem readArgument_closed {text : List Char} (h : ∀ c ∈ text, isScanSign c = false)
    (rest : List Char) : readArgument 0 none (text ++ ')' :: rest) = ⟨text, rest, true, false⟩ := by
  have hclose : readArgument 0 none (')' :: rest) = ⟨[], rest, true, false⟩ := by
    simp [readArgument]
  rw [readArgument_letters h, hclose, List.append_nil]

/-- A comma that nothing closes before belongs to the argument. -/
theorem readArgument_comma {text : List Char} (h : ∀ c ∈ text, isScanSign c = false)
    (back : List Char) : ',' ∈ (readArgument 0 none (text ++ ',' :: back)).text := by
  have hcomma : readArgument 0 none (',' :: back) = (readArgument 0 none back).cons ',' := by
    simp [readArgument]
  rw [readArgument_letters h, hcomma]
  exact List.mem_append_right _ List.mem_cons_self

/-- An argument that is not closed takes everything. -/
theorem readArgument_open {depth : Nat} {quote : Option Char} {cs : List Char}
    (h : (readArgument depth quote cs).closed = false) :
    (readArgument depth quote cs).rest = [] := by
  fun_induction readArgument depth quote cs with
  | case1 | case2 => rfl
  | case7 => cases h
  | case3 | case4 | case5 | case6 | case8 | case9 =>
    rename_i ih
    exact ih h

/-- No name goes on there, and no argument starts. -/
def EndsPseudo (rest : List Char) : Prop :=
  ∀ c ∈ rest.head?, isNameChar c = false ∧ c ≠ '('

theorem readPseudo_argument {name : List Char} (hname : ∀ c ∈ name, isNameChar c = true)
    (inner : List Char) :
    ∃ text, readPseudo (name ++ '(' :: inner) =
      ((pseudoClass? (lower (String.ofList name)) (some (readArgument 0 none inner).text)).getD
        (.unsupported text), (readArgument 0 none inner).rest) := by
  have hread : readName (name ++ '(' :: inner) = (String.ofList name, '(' :: inner) := by
    have hparen : isNameChar '(' = false := by decide
    rw [readName, List.takeWhile_append_of_pos hname, List.dropWhile_append_of_pos hname,
      List.takeWhile_cons_of_neg (by simp [hparen]), List.dropWhile_cons_of_neg (by simp [hparen]),
      List.append_nil]
  unfold readPseudo
  split
  · rename_i afterColons heq
    cases name with
    | nil => cases heq
    | cons c more =>
      obtain rfl := (List.cons.inj heq).1
      exact absurd (hname ':' List.mem_cons_self) (by decide)
  · rw [hread]
    simp only
    cases pseudoClass? (lower (String.ofList name)) (some (readArgument 0 none inner).text) with
    | some found => exact ⟨"", rfl⟩
    | none => exact ⟨_, rfl⟩

theorem readPseudo_plain {name : String} (hname : IsName name) {rest : List Char}
    (hrest : EndsPseudo rest) :
    ∃ text, readPseudo (name.toList ++ rest) =
      ((pseudoClass? (lower name) none).getD (.unsupported text), rest) := by
  have hread := hname.readName_append fun c hc => (hrest c hc).1
  obtain ⟨first, more, hcons, hfirst⟩ := hname.exists_head
  unfold readPseudo
  split
  · rename_i afterColons heq
    rw [hcons, List.cons_append] at heq
    obtain rfl := (List.cons.inj heq).1
    exact absurd hfirst (by decide)
  · rw [hread]
    simp only
    split
    · exact absurd rfl (hrest '(' rfl).2
    · cases pseudoClass? (lower name) none with
      | some found => exact ⟨"", rfl⟩
      | none => exact ⟨_, rfl⟩

/-- Without an argument a pseudo-class is no place. -/
theorem pseudoClass?_bare {name : String} {cond : Simple} (h : pseudoClass? name none = some cond)
    (position : Nat) : cond ≠ .nthChild position := by
  rintro rfl
  unfold pseudoClass? at h
  split at h
  · cases h
  · cases h
  · rename_i hsome
    cases hsome
  · cases h

/-- A supported pseudo-class that no argument follows has a name. -/
theorem ne_nil_of_readPseudo {name rest : List Char} (hrest : EndsPseudo rest)
    (h : (readPseudo (name ++ rest)).1.isSupported = true) : name ≠ [] := by
  rintro rfl
  have hnone : readName rest = ("", rest) := by
    cases rest with
    | nil => rfl
    | cons c more => simp [readName, (hrest c rfl).1]
  rw [List.nil_append] at h
  unfold readPseudo at h
  split at h
  · cases h
  · rw [hnone] at h
    simp only at h
    split at h
    · exact absurd rfl (hrest '(' rfl).2
    · cases h

/-- A supported pseudo-class is a name by itself, or one with an argument. -/
theorem readPseudo_forms {cs : List Char} (h : (readPseudo cs).1.isSupported = true) :
    (∃ name rest, cs = name.toList ++ rest ∧ IsName name ∧
      EndsPseudo rest ∧ (readPseudo cs).2 = rest ∧
      ∀ position, (readPseudo cs).1 ≠ .nthChild position) ∨
    ∃ name inner cond, cs = name ++ '(' :: inner ∧ (∀ c ∈ name, isNameChar c = true) ∧
      pseudoClass? (lower (String.ofList name)) (some (readArgument 0 none inner).text) =
        some cond ∧ readPseudo cs = (cond, (readArgument 0 none inner).rest) := by
  have hletters : ∀ c ∈ cs.takeWhile isNameChar, isNameChar c = true := fun c hc =>
    List.all_eq_true.mp List.all_takeWhile c hc
  have hsplit : cs.takeWhile isNameChar ++ cs.dropWhile isNameChar = cs :=
    List.takeWhile_append_dropWhile
  have hends := head_readName cs
  rw [readName] at hends
  generalize cs.takeWhile isNameChar = name at hletters hsplit
  generalize cs.dropWhile isNameChar = rest at hsplit hends
  subst hsplit
  by_cases hparen : rest.head? = some '('
  · obtain ⟨inner, rfl⟩ := List.head?_eq_some_iff.mp hparen
    obtain ⟨text, hread⟩ := readPseudo_argument hletters inner
    rw [hread] at h ⊢
    cases hcond : pseudoClass? (lower (String.ofList name))
        (some (readArgument 0 none inner).text) with
    | none =>
      rw [hcond] at h
      cases h
    | some cond => exact .inr ⟨name, inner, cond, rfl, hletters, hcond, by rw [Option.getD_some]⟩
  · have hrest : EndsPseudo rest :=
      fun c hc => ⟨hends c hc, fun heq => hparen (heq ▸ hc)⟩
    have hname : IsName (String.ofList name) :=
      ⟨by rw [String.toList_ofList]; exact ne_nil_of_readPseudo hrest h,
        by rwa [String.toList_ofList]⟩
    obtain ⟨text, hread⟩ := readPseudo_plain hname hrest
    rw [String.toList_ofList] at hread
    refine .inl ⟨String.ofList name, rest, by rw [String.toList_ofList], hname, hrest, ?_, ?_⟩
    · rw [hread]
    · rw [hread]
      cases hcond : pseudoClass? (lower (String.ofList name)) none with
      | none =>
        intro position heq
        cases heq
      | some cond => exact pseudoClass?_bare hcond

/-! ### Tokens at the front of a text -/

/-- How a token of the subset stands at the front of a text. -/
inductive Stands (cs : List Char) (token : Token) (rest : List Char) : Prop
  /-- It ends with the characters that go with its first one, and goes on if there are more. -/
  | run (c : Char) (p : Char → Bool) (after : List Char) (htext : cs = c :: after)
      (hrest : rest = after.dropWhile p) (hcomma : p ',' = false) (hfirst : isScanSign c = false)
      (hletters : ∀ d, p d = true → isScanSign d = false)
      (hplace : ∀ position, token ≠ .simple (.nthChild position))
      (hgoes : ∀ more back, (∀ d ∈ more, isWhite d = true) → ∃ longer,
        next? (c :: (after ++ (more ++ ',' :: back))) =
          some (longer, (after ++ (more ++ ',' :: back)).dropWhile p))
  /-- It is closed, and stays as it is whatever follows. -/
  | closed (front : List Char) (htext : cs = front ++ rest)
      (hsealed : (∀ name value, token ≠ .simple (.attributeIs name value)) → Sealed front)
      (hplace : ∀ position, token = .simple (.nthChild position) → front.getLast? = some ')')
      (hstays : ∀ back, next? (cs ++ back) = some (token, rest ++ back))
  /-- It is an argument that is not closed, in which there can be no comma. -/
  | opened (front argument : List Char) (position : Nat) (htext : cs = front ++ '(' :: argument)
      (hrest : rest = []) (htoken : token = .simple (.nthChild position))
      (hletters : ∀ d ∈ front ++ argument, isScanSign d = false)
      (hrefused : ∀ more back, (∀ d ∈ more, isWhite d = true) → ∃ text after,
        next? (cs ++ (more ++ ',' :: back)) = some (.simple (.unsupported text), after))

/-- A token that is read on to the first character of another kind, whatever follows. -/
theorem stands_run {c : Char} {p : Char → Bool} (after : List Char) {token : Token}
    (hcomma : p ',' = false) (hfirst : isScanSign c = false)
    (hletters : ∀ d, p d = true → isScanSign d = false)
    (hplace : ∀ position, token ≠ .simple (.nthChild position))
    (hread : ∀ cs, ∃ longer, next? (c :: cs) = some (longer, cs.dropWhile p)) :
    Stands (c :: after) token (after.dropWhile p) :=
  .run c p after rfl rfl hcomma hfirst hletters hplace fun _ _ _ => hread _

/-- A token of one character. -/
theorem stands_single {c : Char} (after : List Char) {token : Token}
    (hfirst : isScanSign c = false) (hplace : ∀ position, token ≠ .simple (.nthChild position))
    (hread : ∀ cs, next? (c :: cs) = some (token, cs)) : Stands (c :: after) token after := by
  have hstays : ∀ cs : List Char, cs.dropWhile (fun _ => false) = cs := by
    intro cs
    cases cs <;> simp
  have hrun := stands_run (p := fun _ => false) after (by rfl) hfirst (by simp) hplace
    fun cs => ⟨token, by rw [hread, hstays]⟩
  rwa [hstays] at hrun

theorem readNamed_place {sign : String} {make : String → Simple} {cs : List Char} {position : Nat}
    (hmake : ∀ name, make name ≠ .nthChild position) :
    (readNamed sign make cs).1 ≠ .nthChild position := by
  unfold readNamed
  simp only
  split
  · simp
  · exact hmake _

/-- An attribute is closed. -/
theorem readAttribute_stands {after : List Char}
    (hsupported : (readAttribute after).1.isSupported = true) :
    Stands ('[' :: after) (.simple (readAttribute after).1) (readAttribute after).2 := by
  obtain ⟨front, hfront⟩ := readAttribute_suffix after
  have hstays : ∀ back, next? ('[' :: after ++ back) =
      some (.simple (readAttribute after).1, (readAttribute after).2 ++ back) := by
    intro back
    show some (Token.simple (readAttribute (after ++ back)).1,
      (readAttribute (after ++ back)).2) = _
    rw [readAttribute_stays hsupported]
  refine .closed ('[' :: front) (by rw [List.cons_append, hfront]) (fun hvalue => ?_) ?_ hstays
  · rcases readAttribute_cases after with ⟨text, hcond⟩ | ⟨name, hcond⟩ | ⟨name, value, hcond⟩
    · rw [hcond] at hsupported
      cases hsupported
    · obtain ⟨letters, htext, hletters⟩ := exists_letters_of_attribute hcond
      obtain rfl : front = letters := List.append_cancel_right (hfront.trans htext)
      exact .letter (by decide) (.of_letters hletters)
    · exact absurd (congrArg _ hcond) (hvalue name value)
  · intro position hposition
    rcases readAttribute_cases after with ⟨text, hcond⟩ | ⟨name, hcond⟩ | ⟨name, value, hcond⟩ <;>
      rw [hcond] at hposition <;> cases hposition

theorem isScanSign_of_argument {c : Char}
    (h : isWhite c = true ∨ c = '+' ∨ ('0' ≤ c ∧ c ≤ '9')) : isScanSign c = false := by
  have hplain : ∀ c, (isWhite c || c == '+' || (decide ('0' ≤ c) && decide (c ≤ '9'))) = true →
      isScanSign c = false := fun c hc =>
    isScanSign_of (p := fun c => isWhite c || c == '+' || (decide ('0' ≤ c) && decide (c ≤ '9')))
      (by decide) hc
  refine hplain c ?_
  simpa [or_assoc] using h

/-- A name behind a colon may have gone on. -/
theorem readPseudo_goes {name : String} (hname : IsName name) {rest : List Char}
    (hrest : EndsPseudo rest) {more : List Char}
    (hmore : ∀ c ∈ more, isWhite c = true) (back : List Char) :
    (readPseudo (name.toList ++ rest ++ (more ++ ',' :: back))).2 =
      (name.toList ++ rest ++ (more ++ ',' :: back)).dropWhile isNameChar := by
  have hstop : (name.toList ++ rest).dropWhile isNameChar = rest := by
    rw [List.dropWhile_append_of_pos hname.letters, dropWhile_of_head fun c hc => (hrest c hc).1]
  obtain ⟨left, hleft, hbehind⟩ :=
    dropWhile_append_comma (by decide) (name.toList ++ rest) more back (p := isNameChar)
  rw [hstop] at hbehind
  -- What follows is a white character or the comma, if it is not what has followed before.
  have hparen : ∀ c ∈ (rest ++ (left ++ ',' :: back)).head?, c ≠ '(' := by
    cases rest with
    | cons d behind => exact fun c hc => (hrest c hc).2
    | nil =>
      cases left with
      | nil =>
        rintro c hc rfl
        cases hc
      | cons d left =>
        rintro c hc rfl
        obtain rfl : d = '(' := Option.some.inj hc
        exact absurd (hmore '(' (hleft.subset List.mem_cons_self)) (by decide)
  have hfilled : (name.toList ++ rest ++ (more ++ ',' :: back)).takeWhile isNameChar ≠ [] := by
    obtain ⟨first, others, hcons, hfirst⟩ := hname.exists_head
    simp [hcons, hfirst]
  generalize name.toList ++ rest ++ (more ++ ',' :: back) = text at *
  have hletters : ∀ c ∈ text.takeWhile isNameChar, isNameChar c = true := fun c hc =>
    List.all_eq_true.mp List.all_takeWhile c hc
  have hlonger : IsName (String.ofList (text.takeWhile isNameChar)) :=
    ⟨by rwa [String.toList_ofList], by rwa [String.toList_ofList]⟩
  have hends : EndsPseudo (text.dropWhile isNameChar) :=
    fun c hc => ⟨head_readName text c hc, hparen c (hbehind ▸ hc)⟩
  obtain ⟨other, hread⟩ := readPseudo_plain hlonger hends
  rw [String.toList_ofList, List.takeWhile_append_dropWhile] at hread
  rw [hread]

/-- The argument of a supported pseudo-class needs no care. -/
theorem letters_of_pseudoClass {name : String} {text : List Char} {cond : Simple}
    (h : pseudoClass? name (some text) = some cond) : ∀ c ∈ text, isScanSign c = false :=
  fun c hc => isScanSign_of_argument ((pseudoClass?_argument h).2.2 c hc)

/-- With a comma in it an argument is no number. -/
theorem pseudoClass?_comma {name : String} {text : List Char} (hcomma : ',' ∈ text) :
    pseudoClass? name (some text) = none := by
  refine Option.eq_none_iff_forall_ne_some.mpr fun cond hsome => ?_
  rcases (pseudoClass?_argument hsome).2.2 ',' hcomma with hwhite | hplus | ⟨hzero, -⟩
  · exact absurd hwhite (by decide)
  · exact absurd hplus (by decide)
  · exact absurd hzero (by decide)

theorem stands_bare {name : String} {rest : List Char} {cond : Simple} (hname : IsName name)
    (hrest : EndsPseudo rest) (hplace : ∀ position, cond ≠ .nthChild position) :
    Stands (':' :: (name.toList ++ rest)) (.simple cond) rest := by
  refine .run ':' isNameChar _ rfl ?_ (by decide) (by decide)
    (fun d hd => isScanSign_of_isNameChar hd)
    (fun position heq => hplace position (by simpa using heq))
    fun more back hmore =>
      ⟨.simple (readPseudo (name.toList ++ rest ++ (more ++ ',' :: back))).1, ?_⟩
  · rw [List.dropWhile_append_of_pos hname.letters, dropWhile_of_head fun c hc => (hrest c hc).1]
  · rw [← readPseudo_goes hname hrest hmore back]
    rfl

section Arguments

variable {name text : List Char} {position : Nat} (hname : ∀ c ∈ name, isNameChar c = true)
  (hcond : pseudoClass? (lower (String.ofList name)) (some text) = some (.nthChild position))

include hname hcond

theorem stands_closed (rest : List Char) :
    Stands (':' :: (name ++ '(' :: (text ++ ')' :: rest))) (.simple (.nthChild position)) rest := by
  have hletters := letters_of_pseudoClass hcond
  have hfront : ∀ c ∈ ':' :: name, isScanSign c = false :=
    List.forall_mem_cons.mpr ⟨by decide, fun c hc => isScanSign_of_isNameChar (hname c hc)⟩
  have hlast : ':' :: name ++ '(' :: (text ++ [')']) =
      (':' :: name ++ '(' :: text) ++ [')'] := by simp
  refine .closed (':' :: name ++ '(' :: (text ++ [')'])) (by simp) (fun _ => ?_)
    (fun _ _ => by rw [hlast, List.getLast?_concat]) fun back => ?_
  · exact (Sealed.of_letters hfront).append (.group (.of_letters hletters) .nil)
  · obtain ⟨other, hlonger⟩ := readPseudo_argument hname (text ++ ')' :: (rest ++ back))
    rw [readArgument_closed hletters, hcond] at hlonger
    have htext : ':' :: (name ++ '(' :: (text ++ ')' :: rest)) ++ back =
        ':' :: (name ++ '(' :: (text ++ ')' :: (rest ++ back))) := by simp
    rw [htext]
    show some (Token.simple (readPseudo _).1, (readPseudo _).2) = _
    rw [hlonger]
    rfl

theorem stands_opened :
    Stands (':' :: (name ++ '(' :: text)) (.simple (.nthChild position)) [] := by
  have hletters := letters_of_pseudoClass hcond
  have hfront : ∀ c ∈ ':' :: name, isScanSign c = false :=
    List.forall_mem_cons.mpr ⟨by decide, fun c hc => isScanSign_of_isNameChar (hname c hc)⟩
  refine .opened (':' :: name) text position rfl rfl rfl
    (List.forall_mem_append.mpr ⟨hfront, hletters⟩) fun more back hmore => ?_
  have hlonger : ∀ c ∈ text ++ more, isScanSign c = false :=
    List.forall_mem_append.mpr ⟨hletters, fun c hc => isScanSign_of_isWhite (hmore c hc)⟩
  have hmember := readArgument_comma hlonger back
  rw [List.append_assoc] at hmember
  obtain ⟨other, hread⟩ := readPseudo_argument hname (text ++ (more ++ ',' :: back))
  rw [pseudoClass?_comma hmember, Option.getD_none] at hread
  refine ⟨other, (readArgument 0 none (text ++ (more ++ ',' :: back))).rest, ?_⟩
  rw [List.cons_append, List.append_assoc, List.cons_append]
  show some (Token.simple (readPseudo _).1, (readPseudo _).2) = _
  rw [hread]

end Arguments

/-- A pseudo-class is a name, or it has an argument that is closed or not. -/
theorem readPseudo_stands {after : List Char}
    (hsupported : (readPseudo after).1.isSupported = true) :
    Stands (':' :: after) (.simple (readPseudo after).1) (readPseudo after).2 := by
  rcases readPseudo_forms hsupported with
    ⟨name, rest, rfl, hname, hrest, hread, hplace⟩ | ⟨name, inner, cond, rfl, hname, hcond, hread⟩
  · rw [hread]
    exact stands_bare hname hrest hplace
  · obtain ⟨-, ⟨position, rfl⟩, -⟩ := pseudoClass?_argument hcond
    have hinner := readArgument_eq 0 none inner
    rw [hread]
    cases hclosed : (readArgument 0 none inner).closed with
    | true =>
      rw [hclosed, if_pos rfl] at hinner
      have hstands := stands_closed hname hcond (readArgument 0 none inner).rest
      rwa [← hinner] at hstands
    | false =>
      rw [hclosed, if_neg Bool.false_ne_true, readArgument_open hclosed, List.append_nil] at hinner
      rw [← hinner] at hcond
      rw [readArgument_open hclosed]
      exact stands_opened hname hcond

theorem next?_type {c : Char} (hc : isNameChar c = true) (cs : List Char) :
    next? (c :: cs) = some (.simple (readType c cs).1, cs.dropWhile isNameChar) := by
  have hread : (readType c cs).2 = cs.dropWhile isNameChar := by
    rw [readType, if_pos hc]
    exact List.dropWhile_cons_of_pos hc
  have hblank := isBlank_of_isNameChar hc
  rw [← hread]
  unfold next?
  simp only [hblank, Bool.false_eq_true, if_false]
  split <;> first | rfl | simp [isNameChar] at hc

theorem readType_stands {c : Char} {after : List Char}
    (hsupported : (readType c after).1.isSupported = true) :
    Stands (c :: after) (.simple (readType c after).1) (readType c after).2 := by
  have hc : isNameChar c = true := by
    by_contra hc
    rw [readType, if_neg hc] at hsupported
    cases hsupported
  have hrest : (readType c after).2 = after.dropWhile isNameChar := by
    rw [readType, if_pos hc]
    exact List.dropWhile_cons_of_pos hc
  rw [hrest]
  refine stands_run after (by decide) (isScanSign_of_isNameChar hc)
    (fun d hd => isScanSign_of_isNameChar hd) (fun position heq => ?_)
    fun cs => ⟨_, next?_type hc cs⟩
  rw [readType, if_pos hc] at heq
  cases heq

/-- **Tokens of the subset** stand in one of three ways. -/
theorem next?_stands {cs rest : List Char} {token : Token} (hnext : next? cs = some (token, rest))
    (hsupported : ∀ cond, token = .simple cond → cond.isSupported = true) :
    Stands cs token rest := by
  have hname : ∀ d, isNameChar d = true → isScanSign d = false :=
    fun d hd => isScanSign_of_isNameChar hd
  cases cs with
  | nil => cases hnext
  | cons c after =>
    unfold next? at hnext
    simp only at hnext
    split at hnext
    · rename_i hblank
      obtain ⟨rfl, rfl⟩ := Prod.mk.inj (Option.some.inj hnext)
      exact stands_run after (by decide) (isScanSign_of (by decide) hblank)
        (fun d hd => isScanSign_of (by decide) hd) (by simp)
        fun cs => ⟨.blank, by simp [next?, hblank]⟩
    · split at hnext <;> obtain ⟨rfl, rfl⟩ := Prod.mk.inj (Option.some.inj hnext)
      · exact stands_single after (by decide) (by simp) fun _ => rfl
      · exact stands_single after (by decide) (by simp) fun _ => rfl
      · exact stands_single after (by decide) (by simp) fun _ => rfl
      · exact stands_single after (by decide) (by simp) fun _ => rfl
      · exact stands_run after (by decide) (by decide) hname
          (fun position heq => readNamed_place (by simp) (Token.simple.inj heq))
          fun cs => ⟨_, rfl⟩
      · exact stands_run after (by decide) (by decide) hname
          (fun position heq => readNamed_place (by simp) (Token.simple.inj heq))
          fun cs => ⟨_, rfl⟩
      · exact readAttribute_stands (hsupported _ rfl)
      · exact readPseudo_stands (hsupported _ rfl)
      · exact readType_stands (hsupported _ rfl)

end Token

end CosmeticFilter
