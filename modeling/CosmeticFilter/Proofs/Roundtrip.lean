/-
Writing and reading selectors undo each other.

Each condition is read back from the front of its text, whatever follows, as long as no name
goes on in what follows.  So the tokens of a selector that is written are its conditions, with
the blanks and signs of its combinators between the compounds, and the reader puts them together
again: the blanks around a sign count for nothing, and a blank alone opens a new compound.

What is read from a text can be written.  Written and read again it is what it was.
-/
import CosmeticFilter.Proofs.Printable

namespace CosmeticFilter

open CosmeticFilter.Text

/-! ### Conditions -/

namespace Token

/-- Neither a name nor the argument of a pseudo-class goes on in the text. -/
def EndsName (cs : List Char) : Prop :=
  ∀ c ∈ cs.head?, isNameChar c = false ∧ c ≠ '('

theorem endsName_nil : EndsName [] :=
  fun _ hc => (by cases hc)

theorem endsName_blank (cs : List Char) : EndsName (' ' :: cs) := by
  have hblank : isNameChar ' ' = false ∧ ' ' ≠ '(' := by decide
  exact fun c hc => Option.some.inj hc ▸ hblank

namespace IsName

variable {name : String} (h : IsName name)

include h

theorem dropWhile_isBlank (rest : List Char) :
    (name.toList ++ rest).dropWhile isBlank = name.toList ++ rest := by
  obtain ⟨c, more, hcons, hc⟩ := h.exists_head
  rw [hcons, List.cons_append, List.dropWhile_cons_of_neg (by simp [isBlank_of_isNameChar hc])]

theorem readNamed_append (sign : String) (make : String → Simple) {rest : List Char}
    (hrest : EndsName rest) :
    readNamed sign make (name.toList ++ rest) = (make name, rest) := by
  have hname := h.readName_append fun c hc => (hrest c hc).1
  have hfilled : name.isEmpty = false := by
    simpa [String.isEmpty_iff, ← String.toList_eq_nil_iff] using h.filled
  simp [readNamed, hname, hfilled]

/-- A pseudo-class without an argument is read to the end of its name. -/
theorem readPseudo_append {cond : Simple} (hclass : pseudoClass? (Text.lower name) none = some cond)
    {rest : List Char} (hrest : EndsName rest) : readPseudo (name.toList ++ rest) = (cond, rest) := by
  have hname := h.readName_append fun c hc => (hrest c hc).1
  rw [readPseudo]
  · simp only [hname, hclass]
    split
    · rename_i inner
      exact absurd rfl (hrest '(' rfl).2
    · rfl
  · intro after hcolon
    obtain ⟨c, more, hcons, hc⟩ := h.exists_head
    rw [hcons] at hcolon
    obtain rfl : c = ':' := (List.cons.inj hcolon).1
    simp [isNameChar] at hc

/-- A name in brackets is read up to the bracket. -/
theorem readAttribute_append (rest : List Char) :
    readAttribute (name.toList ++ ']' :: rest) = (.attribute (Text.lower name), rest) := by
  have hname : readName (name.toList ++ ']' :: rest) = (name, ']' :: rest) :=
    h.readName_append fun c hc => by
      obtain rfl : ']' = c := Option.some.inj hc
      rfl
  have hfilled : name.isEmpty = false := by
    simpa [String.isEmpty_iff, ← String.toList_eq_nil_iff] using h.filled
  have hbracket : (']' :: rest).dropWhile isBlank = ']' :: rest := rfl
  have hvalue : afterEquals (']' :: rest) = (none, ']' :: rest) := rfl
  rw [readAttribute_eq]
  simp only [h.dropWhile_isBlank, hname, hvalue, hbracket, hfilled]
  rfl

end IsName

/-- A value in quotes is read up to the second one. -/
theorem readValue_quoted {q : Char} (hq : q = '"' ∨ q = '\'') {value : String}
    (hvalue : q ∉ value.toList) (rest : List Char) :
    readValue (q :: (value.toList ++ q :: rest)) = (value, rest) := by
  have hother : ∀ c ∈ value.toList, (c != q) = true := by
    intro c hc
    rw [bne_iff_ne]
    rintro rfl
    exact hvalue hc
  unfold readValue
  simp only [if_pos hq]
  rw [List.takeWhile_append_of_pos hother, List.dropWhile_append_of_pos hother,
    List.takeWhile_cons_of_neg (by simp), List.dropWhile_cons_of_neg (by simp),
    List.append_nil, String.ofList_toList]
  rfl

/-- A value without quotes is read up to the bracket. -/
theorem readValue_bare {value : String}
    (hplain : ∀ c ∈ value.toList, isBlank c = false ∧ c ≠ ']')
    (hhead : ∀ c ∈ value.toList.head?, c ≠ '"' ∧ c ≠ '\'') (rest : List Char) :
    readValue (value.toList ++ ']' :: rest) = (value, ']' :: rest) := by
  have hbare : ∀ c ∈ value.toList, (!isBlank c && c != ']') = true := by
    intro c hc
    simp [hplain c hc]
  have hfirst : ∀ c ∈ (value.toList ++ ']' :: rest).head?, ¬(c = '"' ∨ c = '\'') := by
    cases hvalue : value.toList with
    | nil => simp
    | cons d more =>
      have hd := hhead d (by simp [hvalue])
      simpa using hd
  unfold readValue
  split
  · rename_i hnil
    simp at hnil
  · rename_i q more hcons
    rw [if_neg (hfirst q (by simp [hcons]))]
    simp only
    rw [List.takeWhile_append_of_pos hbare, List.dropWhile_append_of_pos hbare,
      List.takeWhile_cons_of_neg (by simp), List.dropWhile_cons_of_neg (by simp),
      List.append_nil, String.ofList_toList]

/-- A value that fits is read back, up to the bracket behind it. -/
theorem readValue_printValue {value : String} (h : FitsQuotes value) (rest : List Char) :
    readValue (((printValue value).toList ++ ']' :: rest).dropWhile isBlank) =
      (value, ']' :: rest) := by
  have hdouble : isBlank '"' = false := rfl
  have hsingle : isBlank '\'' = false := rfl
  unfold printValue
  split
  · rename_i hno
    have hread := readValue_quoted (.inl rfl) (show '"' ∉ value.toList by simpa using hno)
      (']' :: rest)
    simpa [hdouble] using hread
  · rename_i hdoubles
    split
    · rename_i hno
      have hread := readValue_quoted (.inr rfl) (show '\'' ∉ value.toList by simpa using hno)
        (']' :: rest)
      simpa [hsingle] using hread
    · rename_i hsingles
      obtain ⟨hplain, hhead⟩ : (∀ c ∈ value.toList, isBlank c = false ∧ c ≠ ']') ∧
          ∀ c ∈ value.toList.head?, c ≠ '"' ∧ c ≠ '\'' := by
        rcases h with hno | hno | hbare
        · exact absurd hno (by simpa using hdoubles)
        · exact absurd hno (by simpa using hsingles)
        · exact hbare
      have hfirst : (value.toList ++ ']' :: rest).dropWhile isBlank = value.toList ++ ']' :: rest := by
        cases hvalue : value.toList with
        | nil => rfl
        | cons c more =>
          have hc := (hplain c (by simp [hvalue])).1
          rw [List.cons_append, List.dropWhile_cons_of_neg (by simp [hc])]
      rw [hfirst, readValue_bare hplain hhead]

/-- So is an attribute with its value. -/
theorem IsName.readAttribute_value {name : String} (h : IsName name) {value : String}
    (hvalue : FitsQuotes value) (rest : List Char) :
    readAttribute (name.toList ++ '=' :: ((printValue value).toList ++ ']' :: rest)) =
      (.attributeIs (Text.lower name) value, rest) := by
  have hname : readName (name.toList ++ '=' :: ((printValue value).toList ++ ']' :: rest)) =
      (name, '=' :: ((printValue value).toList ++ ']' :: rest)) :=
    h.readName_append fun c hc => by
      obtain rfl : '=' = c := Option.some.inj hc
      rfl
  have hfilled : name.isEmpty = false := by
    simpa [String.isEmpty_iff, ← String.toList_eq_nil_iff] using h.filled
  have hbracket : (']' :: rest).dropWhile isBlank = ']' :: rest := rfl
  have hafter : afterEquals ('=' :: ((printValue value).toList ++ ']' :: rest)) =
      (some value, ']' :: rest) := by
    have hequals : ('=' :: ((printValue value).toList ++ ']' :: rest)).dropWhile isBlank =
        '=' :: ((printValue value).toList ++ ']' :: rest) := rfl
    rw [afterEquals, hequals]
    simp only [readValue_printValue hvalue]
  rw [readAttribute_eq]
  simp only [h.dropWhile_isBlank, hname, hafter, hbracket, hfilled]
  rfl

theorem IsName.endsInName {name : String} (h : IsName name) {cond : Simple} (front : List Char)
    (hprint : cond.print.toList = front ++ name.toList) : cond.endsInName = true := by
  obtain ⟨before, c, hlist⟩ := (List.eq_nil_or_concat name.toList).resolve_left h.filled
  rw [List.concat_eq_append] at hlist
  have hlast : cond.print.toList = (front ++ before) ++ [c] := by
    rw [hprint, hlist, List.append_assoc]
  rw [Simple.endsInName_of_last _ _ hlast]
  exact h.letters c (by simp [hlist])

theorem next?_of_read {sign : Char} {cs rest : List Char} {cond : Simple}
    {read : Simple × List Char} (hnext : next? (sign :: cs) = some (.simple read.1, read.2))
    (hread : read = (cond, rest)) : next? (sign :: cs) = some (.simple cond, rest) := by
  rw [hnext, hread]

/-- **A condition is read back** from the front of its text. -/
theorem next?_print {cond : Simple} (h : cond.IsPrintable) {rest : List Char}
    (hrest : cond.endsInName = true → EndsName rest) :
    next? (cond.print.toList ++ rest) = some (.simple cond, rest) := by
  cases cond with
  | universal => rfl
  | type name =>
    obtain ⟨hname, hsmall⟩ := h
    have hends := hrest (hname.endsInName [] rfl)
    have hnext := hname.next? fun c hc => (hends c hc).1
    rwa [hsmall.lower_eq] at hnext
  | «class» name =>
    have hname : IsName name := h
    have hends := hrest (hname.endsInName ['.'] (by simp [Simple.print]))
    rw [Simple.print, String.toList_append, List.append_assoc]
    exact next?_of_read rfl (hname.readNamed_append "." .class hends)
  | id name =>
    have hname : IsName name := h
    have hends := hrest (hname.endsInName ['#'] (by simp [Simple.print]))
    rw [Simple.print, String.toList_append, List.append_assoc]
    exact next?_of_read rfl (hname.readNamed_append "#" .id hends)
  | «attribute» name =>
    obtain ⟨hname, hsmall⟩ := h
    have hread := hname.readAttribute_append rest
    rw [hsmall.lower_eq] at hread
    have htext : (Simple.attribute name).print.toList ++ rest =
        '[' :: (name.toList ++ ']' :: rest) := by simp [Simple.print]
    rw [htext]
    exact next?_of_read rfl hread
  | attributeIs name value =>
    obtain ⟨hname, hsmall, hvalue⟩ := h
    have hread := hname.readAttribute_value hvalue rest
    rw [hsmall.lower_eq] at hread
    have htext : (Simple.attributeIs name value).print.toList ++ rest =
        '[' :: (name.toList ++ '=' :: ((printValue value).toList ++ ']' :: rest)) := by
      simp [Simple.print]
    rw [htext]
    exact next?_of_read rfl hread
  | root =>
    have hname : IsName "root" := isName_of_isTag (by decide)
    have hclass : pseudoClass? (Text.lower "root") none = some .root := by decide
    show next? (':' :: ("root".toList ++ rest)) = _
    exact next?_of_read rfl (hname.readPseudo_append hclass (hrest (by decide)))
  | «scope» =>
    have hname : IsName "scope" := isName_of_isTag (by decide)
    have hclass : pseudoClass? (Text.lower "scope") none = some .scope := by decide
    show next? (':' :: ("scope".toList ++ rest)) = _
    exact next?_of_read rfl (hname.readPseudo_append hclass (hrest (by decide)))
  | nthChild position =>
    obtain ⟨hlow, hhigh⟩ := h
    obtain ⟨before, rfl⟩ := Nat.exists_eq_add_of_le' hlow
    obtain ⟨cond, hcond, hnext⟩ := next?_place before rest
    obtain rfl := hcond.resolve_right fun hgreat => Nat.not_lt_of_le hhigh hgreat.1
    rw [← hnext]
    simp [Simple.print]
  | unsupported text => exact h.elim

/-! ### Compounds -/

/-- A condition starts with a sign of its own, and a type with its name. -/
theorem exists_head_print {cond : Simple} (h : cond.IsPrintable) :
    ∃ c more, cond.print.toList = c :: more ∧
      (c ∈ "*.#[:".toList ∨ ∃ name, cond = .type name ∧ c ∈ name.toList ∧ isNameChar c = true) := by
  cases cond with
  | universal => exact ⟨'*', [], rfl, .inl (by decide)⟩
  | type name =>
    obtain ⟨c, more, hcons, hc⟩ := h.1.exists_head
    exact ⟨c, more, hcons, .inr ⟨name, rfl, hcons ▸ List.mem_cons_self, hc⟩⟩
  | «class» name => exact ⟨'.', name.toList, by simp [Simple.print], .inl (by decide)⟩
  | id name => exact ⟨'#', name.toList, by simp [Simple.print], .inl (by decide)⟩
  | «attribute» name | attributeIs name value =>
    exact ⟨'[', _, by simp [Simple.print]; rfl, .inl (by decide)⟩
  | root | «scope» => exact ⟨':', _, rfl, .inl (by decide)⟩
  | nthChild position => exact ⟨':', _, by simp [Simple.print]; rfl, .inl (by decide)⟩
  | unsupported text => exact h.elim

theorem endsName_print {cond : Simple} (h : cond.IsPrintable) (htype : cond.isType = false)
    (rest : List Char) : EndsName (cond.print.toList ++ rest) := by
  have hsigns : ("*.#[:".toList.all fun c => !isNameChar c && c != '(') = true := by decide
  obtain ⟨c, more, hcons, hsign | ⟨name, rfl, -⟩⟩ := exists_head_print h
  · rw [hcons]
    intro d hd
    obtain rfl : c = d := Option.some.inj hd
    simpa using List.all_eq_true.mp hsigns c hsign
  · cases htype

theorem dropWhile_isBlank_print {cond : Simple} (h : cond.IsPrintable) (rest : List Char) :
    (cond.print.toList ++ rest).dropWhile isBlank = cond.print.toList ++ rest := by
  have hsigns : ("*.#[:".toList.all fun c => !isBlank c) = true := by decide
  obtain ⟨c, more, hcons, hhead⟩ := exists_head_print h
  have hc : isBlank c = false := by
    rcases hhead with hsign | ⟨-, -, -, hname⟩
    · simpa using List.all_eq_true.mp hsigns c hsign
    · exact isBlank_of_isNameChar hname
  rw [hcons, List.cons_append, List.dropWhile_cons_of_neg (by simp [hc])]

theorem print_toList (compound : Compound) :
    (Compound.print compound).toList = compound.flatMap fun cond => cond.print.toList := by
  rw [Compound.print, String.toList_join, List.flatMap_map]

/-- **Compounds are read condition by condition**, up to where no name goes on. -/
theorem all_compound {compound : Compound} (h : ∀ cond ∈ compound, cond.IsPrintable)
    (hapart : compound.IsChain Simple.MayPrecede) {rest : List Char} (hrest : EndsName rest) :
    all ((Compound.print compound).toList ++ rest) = compound.map .simple ++ all rest := by
  rw [print_toList]
  induction compound with
  | nil => rfl
  | cons cond more ih =>
    obtain ⟨hcond, hmore⟩ := List.forall_mem_cons.mp h
    obtain ⟨hjoin, hchain⟩ := List.isChain_cons.mp hapart
    have hends : cond.endsInName = true →
        EndsName ((more.flatMap fun cond => cond.print.toList) ++ rest) := by
      intro hends
      cases more with
      | nil => exact hrest
      | cons second others =>
        rw [List.flatMap_cons, List.append_assoc]
        exact endsName_print (hmore second List.mem_cons_self) (hjoin second rfl hends) _
    rw [List.flatMap_cons, List.append_assoc, all_cons (next?_print hcond hends), ih hmore hchain]
    rfl

end Token

/-! ### Selectors -/

/-- The tokens between two compounds. -/
def Combinator.tokens : Combinator → List Token
  | .descendant => [.blank]
  | comb => [.blank, .combinator comb, .blank]

/-- The tokens of a selector that is written. -/
def Complex.tokens (sel : Complex) : List Token :=
  sel.first.map .simple ++ sel.rest.flatMap fun pair => pair.1.tokens ++ pair.2.map .simple

namespace Token

theorem all_combinator (comb : Combinator) {cs : List Char} (hcs : cs.dropWhile isBlank = cs) :
    all (comb.print.toList ++ cs) = comb.tokens ++ all cs := by
  have hblank : next? (' ' :: cs) = some (.blank, cs) := by
    simp only [next?, hcs]
    rfl
  have hsign : ∀ sign other, next? (sign :: ' ' :: cs) = some (.combinator other, ' ' :: cs) →
      isBlank sign = false → all (' ' :: sign :: ' ' :: cs) =
        .blank :: .combinator other :: .blank :: all cs := by
    intro sign other hnext hnot
    have hfirst : next? (' ' :: sign :: ' ' :: cs) = some (.blank, sign :: ' ' :: cs) := by
      simp only [next?, List.dropWhile_cons, hnot]
      rfl
    rw [all_cons hfirst, all_cons hnext, all_cons hblank]
  cases comb with
  | descendant => exact all_cons hblank
  | child => exact hsign '>' .child rfl rfl
  | adjacent => exact hsign '+' .adjacent rfl rfl
  | sibling => exact hsign '~' .sibling rfl rfl

/-- What is written behind a compound is read compound by compound, up to where no name goes on. -/
theorem all_rest {rest : List (Combinator × Compound)}
    (h : ∀ pair ∈ rest, pair.2 ≠ [] ∧ (∀ cond ∈ pair.2, cond.IsPrintable) ∧
      pair.2.IsChain Simple.MayPrecede) {back : List Char} (hback : EndsName back) :
    EndsName
        ((rest.flatMap fun pair => pair.1.print.toList ++ (Compound.print pair.2).toList) ++ back) ∧
      all ((rest.flatMap fun pair => pair.1.print.toList ++ (Compound.print pair.2).toList) ++ back) =
        (rest.flatMap fun pair => pair.1.tokens ++ pair.2.map .simple) ++ all back := by
  induction rest with
  | nil => exact ⟨hback, rfl⟩
  | cons pair more ih =>
    obtain ⟨comb, compound⟩ := pair
    obtain ⟨⟨hfilled, hprintable, hapart⟩, hmore⟩ := List.forall_mem_cons.mp h
    obtain ⟨hends, hall⟩ := ih hmore
    simp only [List.flatMap_cons, List.append_assoc]
    refine ⟨?_, ?_⟩
    · cases comb <;> exact endsName_blank _
    · obtain ⟨cond, others, rfl⟩ := List.exists_cons_of_ne_nil hfilled
      have hcond := hprintable cond List.mem_cons_self
      rw [all_combinator, all_compound hprintable hapart hends, hall]
      rw [print_toList, List.flatMap_cons, List.append_assoc, dropWhile_isBlank_print hcond]

/-- A selector that is written is read, up to where no name goes on. -/
theorem all_print_append {sel : Complex} (h : sel.IsPrintable) {back : List Char}
    (hback : EndsName back) : all (sel.print.toList ++ back) = sel.tokens ++ all back := by
  have hcompound : ∀ compound ∈ sel.compounds, compound ≠ [] ∧
      (∀ cond ∈ compound, cond.IsPrintable) ∧ compound.IsChain Simple.MayPrecede :=
    fun compound hmem => ⟨h.filled compound hmem,
      fun cond hcond => h.printable cond (List.mem_flatten.mpr ⟨compound, hmem, hcond⟩),
      h.apart compound hmem⟩
  obtain ⟨-, hprintable, hapart⟩ := hcompound sel.first List.mem_cons_self
  have hpairs : ∀ pair ∈ sel.rest, pair.2 ≠ [] ∧ (∀ cond ∈ pair.2, cond.IsPrintable) ∧
      pair.2.IsChain Simple.MayPrecede := fun pair hpair =>
    hcompound pair.2 (List.mem_cons_of_mem _ (List.mem_map_of_mem hpair))
  obtain ⟨hends, hrest⟩ := all_rest hpairs hback
  have htext : sel.print.toList = (Compound.print sel.first).toList ++
      sel.rest.flatMap fun pair => pair.1.print.toList ++ (Compound.print pair.2).toList := by
    rw [Complex.print, String.toList_append, String.toList_join, List.flatMap_map]
    simp
  rw [htext, List.append_assoc, all_compound hprintable hapart hends, hrest, Complex.tokens,
    List.append_assoc]

/-- **The tokens of a selector that is written** are its conditions and combinators. -/
theorem all_print {sel : Complex} (h : sel.IsPrintable) : all sel.print.toList = sel.tokens := by
  have hall := all_print_append h endsName_nil
  rwa [List.append_nil, all_nil, List.append_nil] at hall

end Token

/-! ### Putting together -/

namespace PartialComplex

variable {source : String} {sel : Complex}

/-- The conditions of a compound are added to the last one. -/
theorem addAll_compound (compound : Compound) :
    (compound.map Token.simple).foldl (add source) ⟨sel, none⟩ =
      ⟨compound.foldl Complex.addSimple sel, none⟩ := by
  induction compound generalizing sel with
  | nil => rfl
  | cons cond more ih => exact ih

theorem foldl_addSimple_first (first compound : Compound) :
    compound.foldl Complex.addSimple ⟨first, []⟩ = ⟨first ++ compound, []⟩ := by
  induction compound generalizing first with
  | nil => simp
  | cons cond more ih => simp [Complex.addSimple_first, ih]

theorem foldl_addSimple_concat (comb : Combinator) (front compound : Compound) :
    compound.foldl Complex.addSimple (sel.concat comb front) =
      sel.concat comb (front ++ compound) := by
  induction compound generalizing front with
  | nil => simp
  | cons cond more ih => simp [Complex.concat_addSimple, ih]

/-- Behind a combinator a compound is opened. -/
theorem addAll_waiting (comb : Combinator) {compound : Compound} (hfilled : compound ≠ []) :
    (compound.map Token.simple).foldl (add source) ⟨sel, some comb⟩ =
      ⟨sel.concat comb compound, none⟩ := by
  obtain ⟨cond, more, rfl⟩ := List.exists_cons_of_ne_nil hfilled
  have hfirst : add source ⟨sel, some comb⟩ (.simple cond) = ⟨sel.concat comb [cond], none⟩ := by
    simp [add, Complex.addCombinator_eq, Complex.concat_addSimple]
  rw [List.map_cons, List.foldl_cons, hfirst, addAll_compound, foldl_addSimple_concat,
    List.singleton_append]

/-- A combinator and a compound behind it make one more compound. -/
theorem addAll_pair (hlast : sel.last ≠ []) (comb : Combinator) {compound : Compound}
    (hfilled : compound ≠ []) :
    (comb.tokens ++ compound.map Token.simple).foldl (add source) ⟨sel, none⟩ =
      ⟨sel.concat comb compound, none⟩ := by
  have hsome : sel.last.isEmpty = false := by simpa using hlast
  have hwaits : comb.tokens.foldl (add source) ⟨sel, none⟩ = ⟨sel, some comb⟩ := by
    cases comb <;> simp [Combinator.tokens, add, hsome]
  rw [List.foldl_append, hwaits, addAll_waiting comb hfilled]

theorem addAll_rest (hlast : sel.last ≠ []) {rest : List (Combinator × Compound)}
    (hfilled : ∀ pair ∈ rest, pair.2 ≠ []) :
    (rest.flatMap fun pair => pair.1.tokens ++ pair.2.map Token.simple).foldl (add source)
      ⟨sel, none⟩ = ⟨⟨sel.first, sel.rest ++ rest⟩, none⟩ := by
  induction rest generalizing sel with
  | nil => simp
  | cons pair more ih =>
    obtain ⟨hpair, hmore⟩ := List.forall_mem_cons.mp hfilled
    rw [List.flatMap_cons, List.foldl_append, addAll_pair hlast pair.1 hpair,
      ih (by simpa using hpair) hmore]
    simp [Complex.concat]

/-- **Tokens of a selector make the selector.** -/
theorem addAll_tokens (hfilled : ∀ compound ∈ sel.compounds, compound ≠ []) :
    sel.tokens.foldl (add source) .empty = ⟨sel, none⟩ := by
  obtain ⟨first, rest⟩ := sel
  obtain ⟨hfirst, hrest⟩ := List.forall_mem_cons.mp hfilled
  have hpairs : ∀ pair ∈ rest, pair.2 ≠ [] :=
    fun pair hpair => hrest pair.2 (List.mem_map_of_mem hpair)
  have hlast : (⟨first, []⟩ : Complex).last ≠ [] := hfirst
  rw [Complex.tokens, List.foldl_append, empty, addAll_compound, foldl_addSimple_first,
    List.nil_append, addAll_rest hlast hpairs]
  rfl

end PartialComplex

namespace Complex

/-- A selector that can be written is read back. -/
theorem IsPrintable.parse_print {sel : Complex} (h : sel.IsPrintable) :
    Complex.parse sel.print = sel := by
  rw [Complex.parse, ofTokens, Token.all_print h, PartialComplex.addAll_tokens h.filled]
  rfl

/--
**Writing and reading selectors undo each other.**  What is read from a text, if it is supported,
is read again from its own text.  And each selector is read back, and is supported, whose
compounds are not empty, whose conditions can be written and in which no type stands behind a
name.
-/
theorem parse_print_inverse :
    (∀ text : String, (Complex.parse text).isSupported = true →
      Complex.parse (Complex.parse text).print = Complex.parse text) ∧
    ∀ sel : Complex, sel.IsPrintable →
      Complex.parse sel.print = sel ∧ sel.isSupported = true :=
  ⟨fun _ h => (isPrintable_parse h).parse_print, fun _ h => ⟨h.parse_print, h.isSupported⟩⟩

/-- A type behind brackets, a place with a sign in front and no parenthesis at the end. -/
theorem parse_print_inverse_unclosed :
    let text := "[x]div>*:nth-child(+02"
    let sel : Complex := ⟨[.attribute "x", .type "div"], [(.child, [.universal, .nthChild 2])]⟩
    Complex.parse text = sel ∧ sel.isSupported = true ∧ sel.IsPrintable ∧
      Complex.parse (Complex.parse text).print = Complex.parse text ∧
      Complex.parse sel.print = sel := by
  intro text sel
  have hparse : Complex.parse text = sel := by cbv
  have hsupported : (Complex.parse text).isSupported = true := by
    rw [hparse]
    rfl
  have hprintable : sel.IsPrintable := hparse ▸ isPrintable_parse hsupported
  obtain ⟨hread, hwritten⟩ := parse_print_inverse
  exact ⟨hparse, (hwritten sel hprintable).2, hprintable, hread text hsupported,
    (hwritten sel hprintable).1⟩

end Complex

end CosmeticFilter
