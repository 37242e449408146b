/-
Selectors put together.

A combinator may be spelt with blanks around its sign or without, and the descendant
combinator is blanks alone.  However it is spelt, it waits for the compound behind it.  So a
written text behind a selector and a combinator is read as it is read by itself, and joined
to what was read before.  This is how a selector relative to the scope of a query is read: as
one selector behind `:scope`.
-/
import CosmeticFilter.Proofs.Canonical
import CosmeticFilter.Proofs.Roundtrip

namespace CosmeticFilter

open CosmeticFilter.Text

/-! ### Spelling -/

namespace Combinator

/-- The character that stands for the combinator; a blank alone stands for a descendant. -/
def sign? : Combinator → Option Char
  | .descendant => none
  | .child => some '>'
  | .adjacent => some '+'
  | .sibling => some '~'

/-- The sign of the combinator with or without blanks around it, or blanks alone. -/
def IsSpelt (comb : Combinator) (cs : List Char) : Prop :=
  cs ≠ [] ∧ ∃ before after, (∀ c ∈ before ++ after, isBlank c = true) ∧
    cs = before ++ (comb.sign?.toList ++ after)

theorem next?_sign {comb : Combinator} {c : Char} (h : comb.sign? = some c) (rest : List Char) :
    isBlank c = false ∧ Token.next? (c :: rest) = some (.combinator comb, rest) := by
  cases comb <;> cases h <;> exact ⟨rfl, rfl⟩

theorem IsSpelt.letters {comb : Combinator} {cs : List Char} (h : comb.IsSpelt cs) :
    ∀ c ∈ cs, isBlank c = true ∨ c ∈ ">+~".toList := by
  obtain ⟨-, before, after, hblank, rfl⟩ := h
  intro c hc
  rcases List.mem_append.mp hc with hc | hc
  · exact .inl (hblank c (List.mem_append_left _ hc))
  · rcases List.mem_append.mp hc with hc | hc
    · refine .inr ?_
      cases comb <;> simp_all [sign?]
    · exact .inl (hblank c (List.mem_append_right _ hc))

/-- None of the characters means anything to a scan, or to a name. -/
theorem IsSpelt.plain {comb : Combinator} {cs : List Char} (h : comb.IsSpelt cs) :
    ∀ c ∈ cs, isScanSign c = false ∧ c ≠ ':' ∧ Token.isNameChar c = false ∧ c ≠ '(' := by
  have hblanks : (" \t\n\x0C\r>+~".toList.all fun c =>
      !isScanSign c && c != ':' && !Token.isNameChar c && c != '(') = true := by decide
  intro c hc
  have hmem : c ∈ " \t\n\x0C\r>+~".toList := by
    rcases h.letters c hc with hblank | hsign
    · simp only [isBlank, Bool.or_eq_true, beq_iff_eq] at hblank
      rcases hblank with (((rfl | rfl) | rfl) | rfl) | rfl <;> decide
    · exact List.mem_append_right " \t\n\x0C\r".toList hsign
  simpa [and_assoc] using List.all_eq_true.mp hblanks c hmem

end Combinator

/-! ### Reading -/

namespace Complex

/-- The selector that goes on with another one behind a combinator. -/
def join (left : Complex) (comb : Combinator) (right : Complex) : Complex :=
  ⟨left.first, left.rest ++ (comb, right.first) :: right.rest⟩

theorem isSupported_join {left right : Complex} (comb : Combinator)
    (hleft : left.isSupported = true) (hright : right.isSupported = true) :
    (left.join comb right).isSupported = true := by
  simp only [isSupported, compounds, join, List.map_append, List.map_cons, List.all_cons,
    List.all_append, Bool.and_eq_true] at hleft hright ⊢
  exact ⟨hleft.1, hleft.2, hright⟩

end Complex

theorem Written.tokens {text : String} (h : Written text) :
    Token.all text.toList = (Complex.parse text).tokens := by
  have hall := Token.all_print h.isPrintable
  rwa [h.printed] at hall

namespace Token

/-- Blanks in a row are one token. -/
theorem all_blanks {blanks cs : List Char} (hblank : ∀ c ∈ blanks, isBlank c = true)
    (hsome : blanks ≠ []) (hcs : cs.dropWhile isBlank = cs) :
    all (blanks ++ cs) = .blank :: all cs := by
  obtain ⟨c, more, rfl⟩ := List.exists_cons_of_ne_nil hsome
  obtain ⟨hc, hmore⟩ := List.forall_mem_cons.mp hblank
  refine all_cons ?_
  simp [next?, hc, List.dropWhile_append_of_pos hmore, hcs]

end Token

namespace PartialComplex

variable {source : String} {sel : Complex}

/-- Behind a compound blanks wait as a descendant combinator, if there are any. -/
theorem addAll_blanks {blanks cs : List Char} (hblank : ∀ c ∈ blanks, isBlank c = true)
    (hcs : cs.dropWhile isBlank = cs) (hlast : sel.last ≠ []) :
    (Token.all (blanks ++ cs)).foldl (add source) ⟨sel, none⟩ =
      (Token.all cs).foldl (add source)
        ⟨sel, if blanks = [] then none else some .descendant⟩ := by
  split
  · rename_i hnone
    rw [hnone, List.nil_append]
  · rename_i hsome
    rw [Token.all_blanks hblank hsome hcs, List.foldl_cons]
    simp [add, hlast]

/-- Behind a combinator blanks count for nothing. -/
theorem addAll_blanks_waiting (comb : Combinator) {blanks cs : List Char}
    (hblank : ∀ c ∈ blanks, isBlank c = true) (hcs : cs.dropWhile isBlank = cs) :
    (Token.all (blanks ++ cs)).foldl (add source) ⟨sel, some comb⟩ =
      (Token.all cs).foldl (add source) ⟨sel, some comb⟩ := by
  by_cases hsome : blanks = []
  · rw [hsome, List.nil_append]
  · rw [Token.all_blanks hblank hsome hcs, List.foldl_cons]
    rfl

/-- **However it is spelt**, a combinator waits for the compound behind it. -/
theorem addAll_spelt {comb : Combinator} {sign cs : List Char} (hspelt : comb.IsSpelt sign)
    (hcs : cs.dropWhile isBlank = cs) (hlast : sel.last ≠ []) :
    (Token.all (sign ++ cs)).foldl (add source) ⟨sel, none⟩ =
      (Token.all cs).foldl (add source) ⟨sel, some comb⟩ := by
  obtain ⟨hsome, before, after, hblank, rfl⟩ := hspelt
  obtain ⟨hbefore, hafter⟩ := List.forall_mem_append.mp hblank
  cases hsign : comb.sign? with
  | none =>
    obtain rfl : comb = .descendant := by cases comb <;> simp_all [Combinator.sign?]
    have hblanks : before ++ after ≠ [] := by simpa [hsign] using hsome
    have hread : (Token.all (before ++ after ++ cs)).foldl (add source) ⟨sel, none⟩ = _ :=
      addAll_blanks hblank hcs hlast
    rw [if_neg hblanks] at hread
    simpa [Combinator.sign?] using hread
  | some c =>
    obtain ⟨hc, hnext⟩ := Combinator.next?_sign hsign (after ++ cs)
    have hstart : (c :: (after ++ cs)).dropWhile isBlank = c :: (after ++ cs) :=
      List.dropWhile_cons_of_neg (by simp [hc])
    have htaken : add source ⟨sel, if before = [] then none else some .descendant⟩
        (.combinator comb) = ⟨sel, some comb⟩ := by
      split <;> rfl
    rw [Option.toList_some, List.singleton_append, List.append_assoc, List.cons_append,
      addAll_blanks hbefore hstart hlast, Token.all_cons hnext, List.foldl_cons, htaken,
      addAll_blanks_waiting comb hafter hcs]

/-- Tokens of a selector behind a combinator go on with the selector. -/
theorem addAll_tokens_waiting (comb : Combinator) {other : Complex}
    (hfilled : ∀ compound ∈ other.compounds, compound ≠ []) :
    other.tokens.foldl (add source) ⟨sel, some comb⟩ = ⟨sel.join comb other, none⟩ := by
  obtain ⟨first, rest⟩ := other
  obtain ⟨hfirst, hrest⟩ := List.forall_mem_cons.mp hfilled
  have hpairs : ∀ pair ∈ rest, pair.2 ≠ [] :=
    fun pair hpair => hrest pair.2 (List.mem_map_of_mem hpair)
  rw [Complex.tokens, List.foldl_append, addAll_waiting comb hfirst,
    addAll_rest (by simpa using hfirst) hpairs]
  simp [Complex.concat, Complex.join]

end PartialComplex

namespace Complex.IsPrintable

variable {other : Complex} (h : other.IsPrintable)

include h

/-- The text starts with that of a condition. -/
theorem exists_first :
    ∃ cond back, cond ∈ other.conditions ∧ other.print.toList = cond.print.toList ++ back := by
  obtain ⟨cond, more, hfirst⟩ :=
    List.exists_cons_of_ne_nil (h.filled other.first List.mem_cons_self)
  have hcond : cond ∈ other.conditions := by
    rw [conditions_eq, hfirst]
    exact List.mem_append_left _ List.mem_cons_self
  refine ⟨cond, ?_⟩
  rw [print, hfirst, String.toList_append, Token.print_toList, List.flatMap_cons,
    List.append_assoc]
  exact ⟨_, hcond, rfl⟩

theorem dropWhile_isBlank : other.print.toList.dropWhile isBlank = other.print.toList := by
  obtain ⟨cond, back, hcond, hprint⟩ := h.exists_first
  rw [hprint, Token.dropWhile_isBlank_print (h.printable cond hcond)]

/-- **Behind a selector and a combinator** a selector that is written is read as it is by itself. -/
theorem read_behind (source : String) {sel : Complex} (hlast : sel.last ≠ []) {comb : Combinator}
    {sign : List Char} (hspelt : comb.IsSpelt sign) :
    (Token.all (sign ++ other.print.toList)).foldl (PartialComplex.add source) ⟨sel, none⟩ =
      ⟨sel.join comb other, none⟩ := by
  rw [PartialComplex.addAll_spelt hspelt h.dropWhile_isBlank hlast, Token.all_print h,
    PartialComplex.addAll_tokens_waiting comb h.filled]

/-- Two selectors that are written with a combinator between them are read as one. -/
theorem parse_join {sel : Complex} (hsel : sel.IsPrintable) {comb : Combinator} {sign : String}
    (hspelt : comb.IsSpelt sign.toList) :
    Complex.parse (sel.print ++ (sign ++ other.print)) = sel.join comb other := by
  have hlast : sel.last ≠ [] := hsel.filled sel.last sel.last_mem_compounds
  have hends : Token.EndsName (sign.toList ++ other.print.toList) := by
    obtain ⟨c, more, hsign⟩ := List.exists_cons_of_ne_nil hspelt.1
    rw [hsign]
    intro d hd
    obtain rfl : c = d := Option.some.inj hd
    exact (hspelt.plain c (hsign ▸ List.mem_cons_self)).2.2
  rw [Complex.parse, ofTokens, String.toList_append, String.toList_append,
    Token.all_print_append hsel hends, List.foldl_append, PartialComplex.addAll_tokens hsel.filled,
    h.read_behind _ hlast hspelt]
  rfl

end Complex.IsPrintable

namespace Written

variable {text : String} (h : Written text)

include h

theorem read_behind (source : String) {sel : Complex} (hlast : sel.last ≠ []) {comb : Combinator}
    {sign : List Char} (hspelt : comb.IsSpelt sign) :
    (Token.all (sign ++ text.toList)).foldl (PartialComplex.add source) ⟨sel, none⟩ =
      ⟨sel.join comb (Complex.parse text), none⟩ := by
  have hread := h.isPrintable.read_behind source hlast hspelt
  rwa [h.printed] at hread

/-- Behind the scope it is one selector with the scope in front. -/
theorem parse_scoped : Complex.parse (":scope > " ++ text) =
    Complex.join ⟨[.scope], []⟩ .child (Complex.parse text) := by
  have hspelt : Combinator.child.IsSpelt " > ".toList :=
    ⟨by decide, [' '], [' '], by simp [isBlank], rfl⟩
  have hscope : (⟨[.scope], []⟩ : Complex).IsPrintable :=
    ⟨by simp [Complex.compounds], by simp [Complex.conditions_eq, Simple.IsPrintable],
      by simp [Complex.compounds]⟩
  have hread := h.isPrintable.parse_join hscope hspelt
  rwa [h.printed, ← String.append_assoc] at hread

end Written

end CosmeticFilter
