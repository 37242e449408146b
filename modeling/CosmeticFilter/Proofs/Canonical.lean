/-
Canonical texts of selectors.

A supported selector is written in one way.  Its text is made of names and signs, of values in
double quotes, and of places in parentheses, so that it is sealed.  Names are written as they
are read, in name characters only.  Values can hold anything, and are asked to keep clear of the
characters that scans look for.

A canonical text is read back as one selector wherever it stands: by itself, and behind a sign
that makes it relative to the scope of a query.
-/
import CosmeticFilter.Proofs.Printable
import CosmeticFilter.Proofs.Sealed
import CosmeticFilter.Proofs.Standard

namespace CosmeticFilter

open CosmeticFilter.Text

/-! ### Names -/

namespace Token

theorem isScanSign_of_isNameChar {c : Char} (h : isNameChar c = true) : isScanSign c = false :=
  isScanSign_of (by decide) h

end Token

/-- The name in the condition, if it has one. -/
def Simple.name? : Simple → Option String
  | .type name | .class name | .id name | .attribute name | .attributeIs name _ => some name
  | _ => none

theorem Simple.IsPrintable.isName {cond : Simple} (h : cond.IsPrintable) {name : String}
    (hname : cond.name? = some name) : Token.IsName name := by
  cases cond <;> cases hname
  · exact h.1
  · exact h
  · exact h
  · exact h.1
  · exact h.1

/-! ### What is written -/

/-- The characters that a value must not hold to be written plainly. -/
def isValueSign (c : Char) : Bool :=
  "\"'\\:()".toList.contains c

/-- The condition can be written with its value in double quotes. -/
structure Simple.Plain (cond : Simple) : Prop where
  supported : cond.isSupported = true
  name : ∀ name, cond.name? = some name → Token.IsName name
  value : ∀ name value, cond = .attributeIs name value → ∀ c ∈ value.toList, c ≠ '"' ∧ c ≠ '\\'

/-- The text ends in a character that does not relate what stands on its sides. -/
def EndsPlain (cs : List Char) : Prop :=
  ∃ front c, cs = front ++ [c] ∧ c ≠ '>' ∧ c ≠ '+' ∧ c ≠ '~'

theorem Token.IsName.isSealed {name : String} (h : IsName name) : Sealed name.toList :=
  .of_letters fun c hc => isScanSign_of_isNameChar (h.letters c hc)

namespace Simple.Plain

variable {cond : Simple} (h : cond.Plain)

include h

theorem isSealed : Sealed cond.print.toList := by
  have hopen : Sealed "[".toList := .of_all (by decide)
  have hclose : Sealed "]".toList := .of_all (by decide)
  cases cond with
  | universal => exact .of_all (by decide)
  | type name => exact (h.name name rfl).isSealed
  | «class» name =>
    have hsign : Sealed ".".toList := .of_all (by decide)
    rw [print, String.toList_append]
    exact hsign.append (h.name name rfl).isSealed
  | id name =>
    have hsign : Sealed "#".toList := .of_all (by decide)
    rw [print, String.toList_append]
    exact hsign.append (h.name name rfl).isSealed
  | «attribute» name =>
    rw [print, String.toList_append, String.toList_append]
    exact (hopen.append (h.name name rfl).isSealed).append hclose
  | attributeIs name value =>
    have hvalue := h.value name value rfl
    have hprint : printValue value = "\"" ++ value ++ "\"" := by
      refine if_pos ?_
      rw [Bool.not_eq_true', Bool.eq_false_iff]
      intro hquote
      exact (hvalue '"' (List.contains_iff_mem.mp hquote)).1 rfl
    have hquoted : Sealed ('"' :: (value.toList ++ '"' :: [])) := .quoted hvalue .nil
    have hequals : Sealed ('=' :: ('"' :: (value.toList ++ '"' :: []))) := .letter rfl hquoted
    have hname := hopen.append (h.name name rfl).isSealed
    rw [print, hprint]
    simpa using (hname.append hequals).append hclose
  | root => exact .of_all (by decide)
  | «scope» => exact .of_all (by decide)
  | nthChild position =>
    have hdigits : Sealed (Nat.toDigits 10 position) := .of_letters fun c hc =>
      Token.isScanSign_of_isNameChar (isNameChar_of_letter
        (.inl (by simp [Char.isAlphanum, isDigit_of_mem_toDigits hc])))
    have hname : Sealed ":nth-child".toList := .of_all (by decide)
    have hgroup : Sealed (":nth-child".toList ++ '(' :: (Nat.toDigits 10 position ++ ')' :: [])) :=
      hname.append (.group hdigits .nil)
    rw [print, String.toList_append, String.toList_append, Nat.toString_eq_repr, Nat.toList_repr]
    simpa using hgroup
  | unsupported text => cases h.supported

end Simple.Plain

/-- A condition ends with a sign, a letter of a fixed name or a character of its own name. -/
theorem Simple.exists_last {cond : Simple} (hsupported : cond.isSupported = true) {P : Char → Prop}
    (hname : ∀ name, cond.name? = some name → name.toList ≠ [] ∧ ∀ c ∈ name.toList, P c)
    (hsign : ∀ c ∈ "*])te".toList, P c) : ∃ front c, cond.print.toList = front ++ [c] ∧ P c := by
  have hends : ∀ (before : String) (name : String), cond.name? = some name →
      cond.print = before ++ name → ∃ front c, cond.print.toList = front ++ [c] ∧ P c := by
    intro before name hsome hprint
    obtain ⟨hfilled, hletters⟩ := hname name hsome
    obtain ⟨front, c, hlist⟩ := (List.eq_nil_or_concat name.toList).resolve_left hfilled
    rw [List.concat_eq_append] at hlist
    refine ⟨before.toList ++ front, c, ?_, hletters c (by simp [hlist])⟩
    rw [hprint, String.toList_append, hlist, List.append_assoc]
  have hfixed : ∀ (before : String) (c : Char), c ∈ "*])te".toList →
      cond.print = before ++ String.singleton c →
      ∃ front c, cond.print.toList = front ++ [c] ∧ P c := by
    intro before c hc hprint
    exact ⟨before.toList, c, by simp [hprint], hsign c hc⟩
  cases cond with
  | universal => exact hfixed "" '*' (by decide) rfl
  | type name => exact hends "" name rfl (by simp [print])
  | «class» name => exact hends "." name rfl rfl
  | id name => exact hends "#" name rfl rfl
  | «attribute» name => exact hfixed ("[" ++ name) ']' (by decide) rfl
  | attributeIs name value =>
    exact hfixed ("[" ++ name ++ "=" ++ printValue value) ']' (by decide) rfl
  | root => exact hfixed ":roo" 't' (by decide) rfl
  | «scope» => exact hfixed ":scop" 'e' (by decide) rfl
  | nthChild position => exact hfixed (":nth-child(" ++ toString position) ')' (by decide) rfl
  | unsupported text => cases hsupported

namespace Complex

theorem print_concat (left : Complex) (comb : Combinator) (compound : Compound) :
    (left.concat comb compound).print = left.print ++ (comb.print ++ Compound.print compound) := by
  rw [← String.toList_inj]
  simp [print, concat, String.toList_join]

theorem Plain.isSealed {sel : Complex} (h : ∀ cond ∈ sel.conditions, cond.Plain) :
    Sealed sel.print.toList := by
  have hcompound : ∀ compound : Compound, (∀ cond ∈ compound, cond.Plain) →
      Sealed (Compound.print compound).toList := by
    intro compound hplain
    rw [Compound.print, String.toList_join]
    refine .flatMap fun piece hpiece => ?_
    obtain ⟨cond, hcond, rfl⟩ := List.mem_map.mp hpiece
    exact (hplain cond hcond).isSealed
  have hcombinator : ∀ comb : Combinator, Sealed comb.print.toList := by
    intro comb
    refine .of_all ?_
    cases comb <;> decide
  rw [conditions_eq] at h
  rw [print, String.toList_append, String.toList_join]
  refine (hcompound _ fun cond hcond => h cond (List.mem_append_left _ hcond)).append
    (.flatMap fun piece hpiece => ?_)
  obtain ⟨⟨comb, compound⟩, hpair, rfl⟩ := List.mem_map.mp hpiece
  rw [String.toList_append]
  refine (hcombinator comb).append (hcompound compound fun cond hcond => ?_)
  refine h cond (List.mem_append_right _ (List.mem_flatten.mpr ⟨compound, ?_, hcond⟩))
  exact List.mem_map.mpr ⟨_, hpair, rfl⟩

/-- A selector ends as its last condition does. -/
theorem exists_last {sel : Complex} (hsupported : sel.isSupported = true) {P : Char → Prop}
    (hname : ∀ cond ∈ sel.conditions, ∀ name, cond.name? = some name →
      name.toList ≠ [] ∧ ∀ c ∈ name.toList, P c)
    (hsign : ∀ c ∈ "*])te".toList, P c) : ∃ front c, sel.print.toList = front ++ [c] ∧ P c := by
  have hcompound : ∀ compound ∈ sel.compounds, ∀ before : List Char,
      ∃ front c, before ++ (Compound.print compound).toList = front ++ [c] ∧ P c := by
    intro compound hmem before
    have hfilled := List.all_eq_true.mp hsupported compound hmem
    rw [Bool.and_eq_true, Bool.not_eq_true', List.isEmpty_eq_false_iff] at hfilled
    obtain ⟨front, cond, rfl⟩ := (List.eq_nil_or_concat compound).resolve_left hfilled.1
    have hcond : cond ∈ sel.conditions := List.mem_flatten.mpr ⟨_, hmem, by simp⟩
    obtain ⟨start, c, hprint, hc⟩ :=
      Simple.exists_last (supported_of_mem_conditions hsupported hcond) (hname cond hcond) hsign
    refine ⟨before ++ ((front.map Simple.print).flatMap String.toList ++ start), c, ?_, hc⟩
    rw [Compound.print, String.toList_join, List.concat_eq_append, List.map_append,
      List.flatMap_append, List.map_singleton, List.flatMap_singleton, hprint]
    simp
  rcases sel.eq_concat with hrest | ⟨left, comb, compound, rfl⟩
  · rw [print, hrest, List.map_nil, String.toList_append]
    simpa using hcompound sel.first List.mem_cons_self []
  · rw [print_concat, String.toList_append, String.toList_append, ← List.append_assoc]
    exact hcompound compound (by simp [compounds, concat]) _

theorem Plain.endsPlain {sel : Complex} (hsupported : sel.isSupported = true)
    (h : ∀ cond ∈ sel.conditions, cond.Plain) : EndsPlain sel.print.toList := by
  have hsigns : ("*])te".toList.all fun c => c != '>' && c != '+' && c != '~') = true := by decide
  refine exists_last hsupported (fun cond hcond name hsome => ?_) fun c hc => ?_
  · have hname := (h cond hcond).name name hsome
    refine ⟨hname.filled, fun c hc => ?_⟩
    have hletter := hname.letters c hc
    refine ⟨?_, ?_, ?_⟩ <;> rintro rfl <;> exact absurd hletter (by decide)
  · simpa [and_assoc] using List.all_eq_true.mp hsigns c hc

end Complex

/-! ### White space at the ends -/

theorem trim_of_ends {cs front more : List Char} {c d : Char} (hhead : cs = c :: more)
    (hc : isWhite c = false) (hlast : cs = front ++ [d]) (hd : isWhite d = false) :
    trim cs = cs := by
  have htrim := trim_append [] hhead hc hlast hd
  rwa [show trimRight [] = [] from rfl, List.append_nil] at htrim

/-- What trimming leaves as it is has no white space at its ends. -/
theorem ends_of_trim {cs : List Char} (h : trim cs = cs) :
    (∀ c more, cs = c :: more → isWhite c = false) ∧
      ∀ front d, cs = front ++ [d] → isWhite d = false := by
  refine ⟨fun c more hcs => ?_, fun front d hcs => ?_⟩
  · -- The trimmed text is no longer than what is left when its front is trimmed.
    have hleft : trimLeft cs = cs := by
      refine (List.dropWhile_suffix isWhite).eq_of_length_le ?_
      have hfront := (trimRight_front (trimLeft cs)).length_le
      rwa [← trim, h] at hfront
    exact isWhite_of_dropWhile (hcs ▸ hleft)
  · have hback : (trimLeft cs).reverse.dropWhile isWhite = d :: front.reverse := by
      have hreverse := congrArg List.reverse (h.trans hcs)
      rwa [trim, trimRight, List.reverse_reverse, List.reverse_concat] at hreverse
    exact isWhite_of_dropWhile hback

/-! ### Texts as they are written -/

/--
A supported selector as it is written, with no white space at its ends.  What its values hold
can stand in double quotes for every scan.
-/
structure Written (text : String) : Prop where
  supported : (Complex.parse text).isSupported = true
  printed : (Complex.parse text).print = text
  trimmed : trimmed text = text
  values : ∀ name value, .attributeIs name value ∈ (Complex.parse text).conditions →
    ∀ c ∈ value.toList, c ≠ '"' ∧ c ≠ '\\'

namespace Written

variable {text : String} (h : Written text)

include h

theorem isPrintable : (Complex.parse text).IsPrintable :=
  Complex.isPrintable_parse h.supported

theorem plain : ∀ cond ∈ (Complex.parse text).conditions, cond.Plain := by
  intro cond hcond
  have hprintable := h.isPrintable.printable cond hcond
  exact ⟨hprintable.isSupported, fun name hname => hprintable.isName hname,
    fun name value heq => h.values name value (heq ▸ hcond)⟩

theorem isSealed : Sealed text.toList :=
  h.printed ▸ Complex.Plain.isSealed h.plain

theorem trim_eq : trim text.toList = text.toList := by
  have htrimmed := congrArg String.toList h.trimmed
  rwa [Text.trimmed, String.toList_ofList] at htrimmed

/-- The text ends neither in white space nor in a combinator. -/
theorem exists_last : ∃ front c, text.toList = front ++ [c] ∧ SelectorText.isSeam c = false := by
  obtain ⟨front, c, hlast, hchild, hadjacent, hsibling⟩ :=
    Complex.Plain.endsPlain h.supported h.plain
  rw [h.printed] at hlast
  have hwhite := (ends_of_trim h.trim_eq).2 front c hlast
  exact ⟨front, c, hlast, by simp [SelectorText.isSeam, hwhite, hchild, hadjacent, hsibling]⟩

theorem exists_head : ∃ c more, text.toList = c :: more ∧ isWhite c = false := by
  obtain ⟨front, d, hlast, -⟩ := h.exists_last
  obtain ⟨c, more, hcons⟩ := List.exists_cons_of_ne_nil (show text.toList ≠ [] by simp [hlast])
  exact ⟨c, more, hcons, (ends_of_trim h.trim_eq).1 c more hcons⟩

/-! Behind other text. -/

theorem complete_append (front : String) :
    SelectorText.complete (front ++ text) = front ++ text := by
  obtain ⟨before, c, hlast, hseam⟩ := h.exists_last
  have hback : (front ++ text).toList = (front.toList ++ before) ++ [c] := by
    rw [String.toList_append, hlast, List.append_assoc]
  exact SelectorText.complete_of_last hback hseam

theorem trimmed_append {front : String} {c : Char} {more : List Char}
    (hfront : front.toList = c :: more) (hc : isWhite c = false) :
    Text.trimmed (front ++ text) = front ++ text := by
  obtain ⟨before, d, hlast, hseam⟩ := h.exists_last
  have hd := SelectorText.isWhite_of_not_isSeam hseam
  have hhead : (front ++ text).toList = c :: (more ++ text.toList) := by
    rw [String.toList_append, hfront, List.cons_append]
  have hback : (front ++ text).toList = (front.toList ++ before) ++ [d] := by
    rw [String.toList_append, hlast, List.append_assoc]
  rw [Text.trimmed, trim_of_ends hhead hc hback hd, String.ofList_toList]

end Written

/-! ### Canonical texts -/

/-- A supported selector as it is written, with plain values and no white space at its ends. -/
structure Canonical (text : String) : Prop where
  supported : (Complex.parse text).isSupported = true
  printed : (Complex.parse text).print = text
  trimmed : trimmed text = text
  values : ∀ name value, .attributeIs name value ∈ (Complex.parse text).conditions →
    ∀ c ∈ value.toList, isValueSign c = false

namespace Canonical

variable {text : String} (h : Canonical text)

include h

theorem written : Written text where
  supported := h.supported
  printed := h.printed
  trimmed := h.trimmed
  values := by
    intro name value hcond c hc
    have hplain := h.values name value hcond c hc
    refine ⟨?_, ?_⟩ <;> rintro rfl <;> exact absurd hplain (by decide)

/-- Extended pseudo-classes need a colon, and a value has none. -/
theorem not_extended : isExtended text.toList = false := by
  rw [Bool.eq_false_iff]
  intro hextended
  obtain ⟨name, value, hcond, hvalue⟩ := Complex.exists_extended_value h.supported hextended
  have hcolon : ':' ∉ value.toList := fun hmem =>
    absurd (h.values name value hcond ':' hmem) (by decide)
  simp [isExtended_of_not_mem hcolon] at hvalue

theorem complete : SelectorText.complete text = text := by
  simpa using h.written.complete_append ""

end Canonical

/-- A type by itself is canonical. -/
theorem Canonical.of_type {tag : String} (hparse : Complex.parse tag = ⟨[.type tag], []⟩)
    (htrimmed : Text.trimmed tag = tag) : Canonical tag where
  supported := by
    rw [hparse]
    rfl
  printed := by
    rw [hparse]
    simp [Complex.print, Compound.print, Simple.print]
  trimmed := htrimmed
  values := by simp [hparse, Complex.conditions_eq]

/-- A sealed text without white space at its ends is one selector. -/
theorem SelectorList.parse_of_sealed {text : String} (hsealed : Sealed text.toList)
    (htrimmed : trimmed text = text) : SelectorList.parse text = [Complex.parse text] := by
  rw [SelectorList.parse, SelectorList.split, hsealed.splitFrom]
  simp [htrimmed]

end CosmeticFilter
