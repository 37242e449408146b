/-
Standard selectors are read as they stand.

The reader of chains looks through the text for extended pseudo-classes before any selector is
read.  In a supported selector list it finds one only inside of an attribute value, for the
list is cut into parts at commas, a comma stands in no name, and the tokens of a supported part
have no such start but in their values.  Without one the whole text is one plain link, and
what the chain finds is what a query for the text finds.

The query trims the text first, and treats a sign at its front as relative to its scope.  For
a supported text neither makes a difference: white space at the ends belongs to the first and
the last part, which are trimmed as well, and what starts with a sign is not supported.
-/
import CosmeticFilter.Proofs.Commas
import CosmeticFilter.Proofs.FullRuns
import Mathlib

namespace CosmeticFilter

open CosmeticFilter.Text

/-! ### White space -/

/-- The printable characters of ASCII are not white. -/
theorem not_isWhite_of_range {c : Char} (h : 33 ≤ c.toNat ∧ c.toNat < 127) :
    isWhite c = false := by
  have hnone : ∀ k < 127, 33 ≤ k → Unicode.Property.whiteSpace.has k = false := by decide
  exact hnone c.toNat h.2 h.1

theorem stop_of_isWhite {c : Char} (h : isWhite c = true) : Stop c := by
  have hrange : ¬(33 ≤ c.toNat ∧ c.toNat < 127) := fun hrange => by
    simp [not_isWhite_of_range hrange] at h
  have hletters : c.isAlphanum = true → 33 ≤ c.toNat ∧ c.toNat < 127 := by
    intro hletter
    simp only [Char.isAlphanum, Char.isAlpha, Char.isUpper, Char.isLower, Char.isDigit,
      Bool.or_eq_true, Bool.and_eq_true, decide_eq_true_eq, UInt32.le_iff_toNat_le,
      ge_iff_le] at hletter
    have hto : c.toNat = c.val.toNat := rfl
    rw [hto]
    rcases hletter with (⟨hlow, hhigh⟩ | ⟨hlow, hhigh⟩) | ⟨hlow, hhigh⟩ <;> simp at hlow hhigh <;>
      omega
  refine ⟨?_, ?_⟩
  · rw [Bool.eq_false_iff]
    intro hname
    simp only [isPseudoChar, Bool.or_eq_true, beq_iff_eq] at hname
    rcases hname with (hname | rfl) | rfl
    · exact hrange (hletters hname)
    · exact hrange (by decide)
    · exact hrange (by decide)
  · rintro rfl
    exact hrange (by decide)

theorem isExtended_trim (cs : List Char) : isExtended (trim cs) = isExtended cs := by
  have hright : ∀ cs : List Char, isExtended (trimRight cs) = isExtended cs := by
    intro cs
    obtain ⟨tail, hsplit, hwhite⟩ := exists_white_behind cs
    conv_rhs => rw [hsplit]
    cases tail with
    | nil => rw [List.append_nil]
    | cons c back =>
      have hcolon : ':' ∉ c :: back := fun hmem => absurd (hwhite _ hmem) (by decide)
      rw [isExtended_stop (stop_of_isWhite (hwhite c List.mem_cons_self)),
        isExtended_of_not_mem hcolon, Bool.or_false]
  rw [trim, hright, trimLeft, isExtended_dropWhile (by decide)]

/-! ### Parts of a list -/

namespace SelectorList

theorem exists_mem_consFirst {parts : List (List Char)} {p : List Char → Bool} {c : Char}
    (hcons : ∀ part, p part = true → p (c :: part) = true) (h : ∃ part ∈ parts, p part = true) :
    ∃ part ∈ consFirst c parts, p part = true := by
  obtain ⟨part, hmem, hpart⟩ := h
  cases parts with
  | nil => cases hmem
  | cons first more =>
    rcases List.mem_cons.mp hmem with rfl | hmem
    · exact ⟨c :: part, List.mem_cons_self, hcons part hpart⟩
    · exact ⟨part, List.mem_cons_of_mem _ hmem, hpart⟩

/-- A stretch without commas and backslashes stays in one part. -/
theorem splitFrom_append (n : Nesting) {front : List Char} (hcomma : ',' ∉ front)
    (hslash : '\\' ∉ front) (cs : List Char) :
    ∃ first more, splitFrom n (front ++ cs) = (front ++ first) :: more := by
  induction front generalizing n with
  | nil =>
    obtain ⟨first, more, hsplit, -, -⟩ := splitFrom_part n cs
    exact ⟨first, more, hsplit⟩
  | cons c front ih =>
    rw [List.mem_cons, not_or] at hcomma hslash
    obtain ⟨first, more, hsplit⟩ := ih (n.after c) hcomma.2 hslash.2
    refine ⟨first, more, ?_⟩
    rw [List.cons_append, splitFrom_cons (Ne.symm hslash.1),
      if_neg (fun h => hcomma.1 h.1.symm), hsplit]
    rfl

theorem not_mem_of_isPseudoChar {name : List Char} (h : ∀ c ∈ name, isPseudoChar c = true)
    {c : Char} (hc : isPseudoChar c = false) : c ∉ name :=
  fun hmem => by simp [h c hmem] at hc

/-- An extended pseudo-class that a text starts with is not cut by commas. -/
theorem pseudoAt?_splitFrom {n : Nesting} {cs first : List Char} {more : List (List Char)}
    (h : (pseudoAt? cs).isSome = true) (hsplit : splitFrom n cs = first :: more) :
    (pseudoAt? first).isSome = true := by
  rw [pseudoAt?_eq] at h
  split at h
  · rename_i after hdrop
    have hname : ∀ c ∈ cs.takeWhile isPseudoChar, isPseudoChar c = true :=
      fun c hc => List.all_eq_true.mp List.all_takeWhile c hc
    have hcs : cs = (cs.takeWhile isPseudoChar ++ ['(']) ++ after := by
      rw [List.append_assoc, List.singleton_append, ← hdrop, List.takeWhile_append_dropWhile]
    have hcomma : ',' ∉ cs.takeWhile isPseudoChar ++ ['('] := by
      have hnot : ',' ∉ cs.takeWhile isPseudoChar := not_mem_of_isPseudoChar hname rfl
      simp [hnot]
    have hslash : '\\' ∉ cs.takeWhile isPseudoChar ++ ['('] := by
      have hnot : '\\' ∉ cs.takeWhile isPseudoChar := not_mem_of_isPseudoChar hname rfl
      simp [hnot]
    obtain ⟨rest, others, hfront⟩ := splitFrom_append n hcomma hslash after
    rw [← hcs, hsplit] at hfront
    obtain ⟨rfl, -⟩ := List.cons.inj hfront
    rw [Option.isSome_map] at h
    rw [pseudoAt?_eq, List.append_assoc, List.dropWhile_append_of_pos hname,
      List.takeWhile_append_of_pos hname]
    simp [isPseudoChar, h]
  · cases h

/-- What is found in a text is found in one of its parts. -/
theorem exists_extended_part (n : Nesting) {cs : List Char} (h : isExtended cs = true) :
    ∃ part ∈ splitFrom n cs, isExtended part = true := by
  have hcons : ∀ (c : Char) (part : List Char), isExtended part = true →
      isExtended (c :: part) = true := fun c part hpart => by
    rw [isExtended_cons, hpart, Bool.or_true]
  -- A colon is left in front of a part that starts like the text behind it.
  have hcolon : ∀ (m : Nesting) (rest : List Char), (pseudoAt? rest).isSome = true →
      ∃ part ∈ consFirst ':' (splitFrom m rest), isExtended part = true := by
    intro m rest hrest
    obtain ⟨first, more, hsplit, -, -⟩ := splitFrom_part m rest
    refine ⟨':' :: first, by simp [hsplit, consFirst], ?_⟩
    rw [isExtended_cons, pseudoAt?_splitFrom hrest hsplit]
    rfl
  have hstep : ∀ (m : Nesting) (c : Char) (rest : List Char), isExtended (c :: rest) = true →
      (isExtended rest = true → ∃ part ∈ splitFrom m rest, isExtended part = true) →
      ∃ part ∈ consFirst c (splitFrom m rest), isExtended part = true := by
    intro m c rest hfound ih
    rw [isExtended_cons, Bool.or_eq_true, Bool.and_eq_true, beq_iff_eq] at hfound
    rcases hfound with ⟨rfl, hat⟩ | hlater
    · exact hcolon m rest hat
    · exact exists_mem_consFirst (hcons c) (ih hlater)
  fun_induction splitFrom n cs with
  | case1 => cases h
  | case2 => cases h
  | case3 n c rest ih =>
    rw [isExtended_cons_of_ne (by decide)] at h
    exact exists_mem_consFirst (hcons '\\') (hstep n c rest h ih)
  | case4 n c rest _ _ hc ih =>
    rw [isExtended_cons_of_ne (by rw [hc.1]; decide)] at h
    obtain ⟨part, hmem, hpart⟩ := ih h
    exact ⟨part, List.mem_cons_of_mem _ hmem, hpart⟩
  | case5 n c rest _ _ _ ih => exact hstep (n.after c) c rest h ih

/-! ### White space at the ends of a list -/

/-- A character at the end of a text is at the end of its last part, unless it is a comma. -/
theorem splitFrom_concat (n : Nesting) {c : Char} (hc : c ≠ ',') (hslash : c ≠ '\\')
    (cs : List Char) :
    ∃ front last, splitFrom n cs = front ++ [last] ∧
      splitFrom n (cs ++ [c]) = front ++ [last ++ [c]] := by
  have hcons : ∀ (d : Char) (parts longer : List (List Char)),
      (∃ front last, parts = front ++ [last] ∧ longer = front ++ [last ++ [c]]) →
      ∃ front last, consFirst d parts = front ++ [last] ∧
        consFirst d longer = front ++ [last ++ [c]] := by
    rintro d _ _ ⟨front, last, rfl, rfl⟩
    cases front with
    | nil => exact ⟨[], d :: last, rfl, rfl⟩
    | cons first front => exact ⟨(d :: first) :: front, last, rfl, rfl⟩
  fun_induction splitFrom n cs with
  | case1 n =>
    refine ⟨[], [], rfl, ?_⟩
    rw [List.nil_append, splitFrom_cons hslash, if_neg (fun h => hc h.1)]
    rfl
  | case2 n => exact ⟨[], ['\\'], rfl, rfl⟩
  | case3 n d rest ih => exact hcons _ _ _ (hcons _ _ _ ih)
  | case4 n d rest hend hescape hd ih =>
    obtain ⟨front, last, hparts, hlonger⟩ := ih
    refine ⟨[] :: front, last, by rw [hparts]; rfl, ?_⟩
    rw [List.cons_append, splitFrom_cons (ne_backslash hend hescape), if_pos hd, hlonger]
    rfl
  | case5 n d rest hend hescape hd ih =>
    rw [List.cons_append, splitFrom_cons (ne_backslash hend hescape), if_neg hd]
    exact hcons _ _ _ ih

theorem trim_cons {c : Char} (hc : isWhite c = true) (cs : List Char) :
    trim (c :: cs) = trim cs := by
  rw [trim, trimLeft, List.dropWhile_cons_of_pos hc, trim, trimLeft]

theorem trim_concat {c : Char} (hc : isWhite c = true) (cs : List Char) :
    trim (cs ++ [c]) = trim cs := by
  rw [trim, trim, trimLeft, trimLeft, List.dropWhile_append]
  split
  · rename_i hempty
    rw [List.isEmpty_iff.mp hempty, List.dropWhile_cons_of_pos hc]
    rfl
  · rw [trimRight, trimRight, List.reverse_concat, List.dropWhile_cons_of_pos hc]

/-- The parts of a text, trimmed, are those of the trimmed text. -/
theorem map_trim_splitFrom (cs : List Char) :
    (splitFrom .top (trim cs)).map trim = (splitFrom .top cs).map trim := by
  have hsigns : ∀ c, isWhite c = true →
      c ≠ ',' ∧ c ≠ '\\' ∧ c ≠ '"' ∧ c ≠ '\'' ∧ c ≠ '(' ∧ c ≠ ')' := by
    intro c hc
    refine ⟨?_, ?_, ?_, ?_, ?_, ?_⟩ <;> rintro rfl <;> exact absurd hc (by decide)
  have hleft : ∀ cs : List Char,
      (splitFrom .top (trimLeft cs)).map trim = (splitFrom .top cs).map trim := by
    intro cs
    induction cs with
    | nil => rfl
    | cons c rest ih =>
      rw [trimLeft, List.dropWhile_cons]
      split
      · rename_i hc
        obtain ⟨hcomma, hslash, hdouble, hsingle, hopen, hclose⟩ := hsigns c hc
        have hafter : Nesting.top.after c = .top := by
          simp [Nesting.after, Nesting.top, hdouble, hsingle, hopen, hclose]
        have hsplit : splitFrom .top (c :: rest) = consFirst c (splitFrom .top rest) := by
          rw [splitFrom_cons hslash, if_neg (fun h => hcomma h.1), hafter]
        obtain ⟨first, more, hparts, -, -⟩ := splitFrom_part .top rest
        rw [hsplit, ← trimLeft, ih, hparts, consFirst, List.map_cons, List.map_cons, trim_cons hc]
      · rfl
  have hright : ∀ cs : List Char,
      (splitFrom .top (trimRight cs)).map trim = (splitFrom .top cs).map trim := by
    intro cs
    induction cs using List.reverseRecOn with
    | nil => rfl
    | append_singleton rest c ih =>
      rw [trimRight, List.reverse_concat, List.dropWhile_cons]
      split
      · rename_i hc
        obtain ⟨hcomma, hslash, -⟩ := hsigns c hc
        obtain ⟨front, last, hparts, hlonger⟩ := splitFrom_concat .top hcomma hslash rest
        rw [← trimRight, ih, hparts, hlonger, List.map_append, List.map_append, List.map_singleton,
          List.map_singleton, trim_concat hc]
      · rw [List.reverse_cons, List.reverse_reverse]
  rw [trim, hright, hleft]

/-- The members are read from the parts, trimmed. -/
theorem parse_eq (text : String) :
    parse text = ((splitFrom .top text.toList).map trim).map fun part =>
      Complex.parse (String.ofList part) := by
  rw [parse, split, List.map_map, List.map_map]
  exact List.map_congr_left fun part _ => by simp [trimmed]

/-- **White space at its ends** does not change what a selector list stands for. -/
theorem parse_trimmed (text : String) : parse (trimmed text) = parse text := by
  rw [parse_eq, trimmed, String.toList_ofList, map_trim_splitFrom, ← parse_eq]

end SelectorList

/-! ### Signs at the front -/

namespace Token

/-- Behind blanks there is a sign, or nothing at all. -/
def leads : List Token → Bool
  | .blank :: more => leads more
  | .combinator _ :: _ => true
  | _ => false

end Token

namespace PartialComplex

/-- What is read has an empty compound at its front, or a condition that is not supported. -/
def Leading (source : String) (state : PartialComplex) : Prop :=
  (state.sel.first = [] ∧ (state.waiting.isSome = true ∨ state.sel.rest ≠ [])) ∨
    Simple.unsupported source ∈ state.sel.conditions

theorem Leading.add {source : String} {state : PartialComplex} (h : state.Leading source)
    (token : Token) : (state.add source token).Leading source := by
  rcases h with ⟨hfirst, hbehind⟩ | hbad
  · cases token with
    | blank =>
      simp only [PartialComplex.add]
      split
      · exact .inl ⟨hfirst, .inl rfl⟩
      · exact .inl ⟨hfirst, hbehind⟩
    | combinator comb =>
      simp only [PartialComplex.add]
      split
      · exact .inl ⟨hfirst, .inl rfl⟩
      · exact .inl ⟨hfirst, .inl rfl⟩
      · exact .inr (by simp [Complex.conditions_addSimple])
    | simple cond =>
      simp only [PartialComplex.add]
      split
      · rename_i comb _
        rw [Complex.addCombinator_eq, Complex.concat_addSimple]
        exact .inl ⟨hfirst, .inr (by simp [Complex.concat])⟩
      · rename_i hnone
        have hrest : state.sel.rest ≠ [] := by simpa [hnone] using hbehind
        rcases state.sel.eq_concat with hnil | ⟨left, comb, compound, hsel⟩
        · exact absurd hnil hrest
        · rw [hsel] at hfirst
          rw [hsel, Complex.concat_addSimple]
          exact .inl ⟨hfirst, .inr (by simp [Complex.concat])⟩
  · exact .inr (mem_conditions_add hbad token)

theorem Leading.addAll {source : String} {state : PartialComplex} (h : state.Leading source)
    (tokens : List Token) : (tokens.foldl (PartialComplex.add source) state).Leading source := by
  induction tokens generalizing state with
  | nil => exact h
  | cons token more ih => exact ih (h.add token)

theorem Leading.not_supported {source : String} {state : PartialComplex}
    (h : state.Leading source) : state.finish.isSupported = false := by
  rw [Bool.eq_false_iff]
  intro hsupported
  rcases h with ⟨hfirst, -⟩ | hbad
  · have hempty : state.finish.first = [] := by
      unfold finish
      split <;> exact hfirst
    simp [Complex.isSupported, Complex.compounds, hempty] at hsupported
  · rw [← conditions_finish] at hbad
    have hcond := Complex.supported_of_mem_conditions hsupported hbad
    simp [Simple.isSupported] at hcond

end PartialComplex

/-- What starts with a sign is not supported. -/
theorem Complex.not_supported_of_leads {source : String}
    (h : Token.leads (Token.all source.toList) = true) :
    (Complex.parse source).isSupported = false := by
  have hfold : ∀ tokens : List Token, Token.leads tokens = true →
      (tokens.foldl (PartialComplex.add source) .empty).Leading source := by
    intro tokens
    induction tokens with
    | nil => exact fun h => nomatch h
    | cons token more ih =>
      intro hleads
      cases token with
      | blank => exact ih hleads
      | combinator comb =>
        exact PartialComplex.Leading.addAll (.inl ⟨rfl, .inl rfl⟩) more
      | simple cond => cases hleads
  exact (hfold _ h).not_supported

namespace SelectorList

/-- A supported list does not start with a sign that relates children. -/
theorem head_ne_of_supported {cs : List Char}
    (h : (parse (String.ofList ('>' :: cs))).isSupported = true) : False := by
  rw [SelectorList.isSupported, Bool.and_eq_true] at h
  have hcomma : ',' ∉ ['>'] := by decide
  have hslash : '\\' ∉ ['>'] := by decide
  obtain ⟨first, more, hsplit⟩ := splitFrom_append .top hcomma hslash cs
  have hlist : parse (String.ofList ('>' :: cs)) =
      Complex.parse (trimmed (String.ofList ('>' :: first))) ::
        (more.map String.ofList).map fun part => Complex.parse (trimmed part) := by
    rw [parse, split, String.toList_ofList, ← List.singleton_append, hsplit]
    rfl
  rw [hlist, List.all_cons, Bool.and_eq_true] at h
  have hwhite : isWhite '>' = false := by decide
  have hhead : ['>'] = [] ++ ['>'] := rfl
  have htrim := trim_append first rfl hwhite hhead hwhite
  have hnext : Token.next? (trimmed (String.ofList ('>' :: first))).toList =
      some (.combinator .child, trimRight first) := by
    rw [trimmed, String.toList_ofList, String.toList_ofList, ← List.singleton_append, htrim]
    rfl
  have hleads : Token.leads (Token.all (trimmed (String.ofList ('>' :: first))).toList) = true := by
    rw [Token.all_cons hnext]
    rfl
  exact absurd h.2.1 (Bool.eq_false_iff.mp (Complex.not_supported_of_leads hleads))

end SelectorList

/-! ### Reading and querying -/

/-- An attribute value of the list holds the start of an extended pseudo-class. -/
def SelectorList.hasExtendedValue (list : SelectorList) : Prop :=
  ∃ sel ∈ list, ∃ name value, .attributeIs name value ∈ sel.conditions ∧
    isExtended value.toList = true

/-- In a supported selector only an attribute value can hold an extended pseudo-class. -/
theorem Complex.exists_extended_value {text : String}
    (hsupported : (Complex.parse text).isSupported = true) (h : isExtended text.toList = true) :
    ∃ name value, .attributeIs name value ∈ (Complex.parse text).conditions ∧
      isExtended value.toList = true := by
  by_contra hnone
  have hstandard : ∀ cond ∈ (Token.all text.toList).filterMap Token.simple?,
      cond.isStandard = true := by
    intro cond hcond
    rw [← Complex.conditions_parse hsupported] at hcond
    have hcond' := Complex.supported_of_mem_conditions hsupported hcond
    cases cond with
    | attributeIs name value =>
      rw [Simple.isStandard, Bool.not_eq_true', Bool.eq_false_iff]
      exact fun hvalue => hnone ⟨name, value, hcond, hvalue⟩
    | unsupported text => cases hcond'
    | _ => rfl
  simp [Token.all_extended hstandard] at h

/-- So it is for a list. -/
theorem SelectorList.hasExtendedValue_of_extended {text : String}
    (hsupported : (SelectorList.parse text).isSupported = true)
    (h : isExtended text.toList = true) : (SelectorList.parse text).hasExtendedValue := by
  obtain ⟨part, hmem, hpart⟩ := exists_extended_part .top h
  have hsel : Complex.parse (trimmed (String.ofList part)) ∈ SelectorList.parse text :=
    List.mem_map.mpr ⟨String.ofList part, List.mem_map_of_mem hmem, rfl⟩
  have hall := List.all_eq_true.mp (Bool.and_eq_true _ _ ▸ hsupported).2 _ hsel
  have htrimmed : isExtended (trimmed (String.ofList part)).toList = true := by
    rw [trimmed, String.toList_ofList, String.toList_ofList, isExtended_trim, hpart]
  exact ⟨_, hsel, Complex.exists_extended_value hall htrimmed⟩

section Links

variable {selector : String} {cs : List Char}

/-- Text without extended pseudo-classes is one plain link. -/
theorem readLinks_plain (selector : String) (hfilled : cs ≠ []) (h : isExtended cs = false) :
    (readLinks selector cs).links = .ok [.plain (String.ofList cs)] := by
  have hcorrect : (Phrase.plain cs).IsCorrect := isPlainText_iff.mpr h
  have htext : (Phrase.plain cs).text = cs := rfl
  rw [Phrase.links_of_correct selector hcorrect htext, Phrase.chain, Phrase.plainLinks,
    if_neg (by simpa using hfilled)]

/-- Text, a `has` with its argument, and more text are read one by one. -/
theorem readLinks_has {before name after argument back : List Char} {inner rest : Chain}
    (hfound : findPseudo? cs = some ⟨before, .has, name, after⟩) (hbefore : before ≠ [])
    (hclose : closeArgument? .top after = some (argument, back))
    (hargument : (readLinks selector argument).links = .ok inner) (hinner : inner ≠ [])
    (hlonely : Chain.isLonelyContains inner = false)
    (hback : (readLinks selector back).links = .ok rest) :
    (readLinks selector cs).links = .ok (.plain (String.ofList before) :: .has inner :: rest) := by
  have hin := isIn_of_findPseudo? hfound
  obtain ⟨argument, hcorrect, rfl, rfl⟩ := Phrase.exists_of_links hargument
  obtain ⟨back, hrest, rfl, rfl⟩ := Phrase.exists_of_links hback
  obtain ⟨hspelt, htext⟩ := hin.isSpelt (by simp) hclose
  have hfilled : argument.text ≠ [] := mt Phrase.chain_eq_nil_iff.mpr hinner
  have hanchored : ¬ argument.IsLonelyContains :=
    mt Phrase.isLonelyContains_chain.mpr (by simp [hlonely])
  have hphrase : (Phrase.has before name argument back).IsCorrect :=
    ⟨hspelt, ⟨hcorrect, hfilled, hanchored⟩, hrest⟩
  rw [Phrase.links_of_correct selector hphrase htext.symm, Phrase.chain, Phrase.plainLinks,
    if_neg (by simpa using hbefore)]
  rfl

theorem Chain.parse_of_links {chain : Chain}
    (h : (readLinks selector selector.toList).links = .ok chain)
    (hlonely : Chain.isLonelyContains chain = false) : Chain.parse selector = .ok chain :=
  Chain.parse_eq_ok_iff_links.mpr ⟨h, by simp [hlonely]⟩

end Links

namespace Document

/-- A query for a supported list looks for this list. -/
theorem Family.queryList_of_supported {text : String}
    (h : (SelectorList.parse text).isSupported = true) :
    Family.queryList (trimmed text) = SelectorList.parse text := by
  unfold Family.queryList
  split
  · rename_i hhead
    obtain ⟨more, hmore⟩ := List.head?_eq_some_iff.mp hhead
    have htext : trimmed text = String.ofList ('>' :: more) := by
      rw [← hmore, String.ofList_toList]
    rw [← SelectorList.parse_trimmed, htext] at h
    exact (SelectorList.head_ne_of_supported h).elim
  · exact SelectorList.parse_trimmed text

/-- The query succeeds, and gives the elements that match the list. -/
theorem queryAll_of_supported (doc : Document) {text : String}
    (h : (SelectorList.parse text).isSupported = true) :
    doc.page.queryAll 0 text = .ok (doc.family.tree.query 0 false (SelectorList.parse text)) := by
  rw [queryAll_eq, Family.queryList_of_supported h, if_pos h]
  rfl

theorem finds_iff_mem {doc : Document} {text : String} {nodes : List Nat}
    (hquery : doc.page.queryAll 0 text = .ok nodes) {n : Nat} : doc.Finds text n ↔ n ∈ nodes := by
  constructor
  · rintro ⟨others, hothers, hn⟩
    exact Except.ok.inj (hquery.symm.trans hothers) ▸ hn
  · exact fun hn => ⟨nodes, hquery, hn⟩

end Document

/-- The empty text is no supported list. -/
theorem SelectorList.filled_of_supported {text : String}
    (hsupported : (SelectorList.parse text).isSupported = true) : text.toList ≠ [] := by
  intro hnil
  obtain rfl : text = "" := String.toList_eq_nil_iff.mp hnil
  refine absurd hsupported ?_
  rw [SelectorList.parse, SelectorList.split, Document.splitFrom_single _ (by simp)]
  simp only [List.map_cons, List.map_nil]
  rw [show trimmed (String.ofList "".toList) = "" from rfl, Complex.parse_empty]
  decide

/-- **A supported list without extended values** is one link, and finds what a query finds. -/
theorem SelectorList.findsOn_of_supported {doc : Document} {text : String}
    (hsupported : (SelectorList.parse text).isSupported = true)
    (hvalues : ¬(SelectorList.parse text).hasExtendedValue) :
    Chain.parse text = .ok [.plain text] ∧
      ∀ n, Chain.FindsOn doc [.plain text] n ↔ doc.Finds text n := by
  have hfilled := SelectorList.filled_of_supported hsupported
  have hextended : isExtended text.toList = false := by
    rw [Bool.eq_false_iff]
    exact fun h => hvalues (SelectorList.hasExtendedValue_of_extended hsupported h)
  have hlinks := readLinks_plain text hfilled hextended
  rw [String.ofList_toList] at hlinks
  refine ⟨Chain.parse_of_links hlinks rfl, fun n => ?_⟩
  rw [Chain.findsOn_iff]
  constructor
  · rintro ⟨anchors, hfinds⟩
    exact (Chain.findsBy_plain.mp hfinds).2
  · exact fun hfinds => ⟨[], Chain.findsBy_plain.mpr ⟨rfl, hfinds⟩⟩

namespace Engine

variable {κ : Type} [Clock κ]

/--
**A standard selector means the same to the engine as to a query.**  An engine with any history
that does not report every pattern as selectors is given one source, whose text is a supported
selector list.  Unless an attribute value holds the start of an extended pseudo-class, a full
run can be completed, and whatever wake-ups complete it, just the elements are hidden that a
query for the text finds.
-/
theorem full_run_hides_query (doc : Document) (config : Config) (clock : κ)
    (events : List (Event Nat Nat κ)) {engine : Engine Nat Nat κ}
    (hreached : ((Engine.new config clock).meetAll events).engine = engine)
    (hshown : engine.config.selectorHiding ≠ .always) (source : PatternSource)
    (hsupported : (SelectorList.parse source.selector).isSupported = true)
    (hvalues : ¬(SelectorList.parse source.selector).hasExtendedValue) :
    ∃ nodes, doc.page.queryAll 0 source.selector = .ok nodes ∧
      (∃ last, FullRun doc engine source last) ∧
      ∀ last, FullRun doc engine source last → ∀ n, n ∈ last.hiddenElements ↔ n ∈ nodes := by
  obtain ⟨known, hconsistent⟩ := meetAll_consistent (S := Nat) (N := Nat) config clock events
  rw [hreached] at hconsistent
  obtain ⟨hparse, hfinds⟩ := SelectorList.findsOn_of_supported hsupported hvalues
  have hquery := doc.queryAll_of_supported hsupported
  refine ⟨_, hquery, exists_fullRun doc engine source, fun last hrun n => ?_⟩
  rw [hrun.mem_hidden_iff hconsistent hparse (List.cons_ne_nil _ _) hshown rfl, hfinds,
    Document.finds_iff_mem hquery]

/-- A value with a colon and parentheses that names nothing extended. -/
theorem full_run_hides_query_titles :
    let source : PatternSource := ⟨"div, [title=\"a:b()\"]", "titles"⟩
    let engine : Engine Nat Nat PausedClock := .new Config.default ⟨.zero⟩
    (SelectorList.parse source.selector).isSupported = true ∧
      ¬(SelectorList.parse source.selector).hasExtendedValue ∧
      ∃ nodes, boxDocument.page.queryAll 0 source.selector = .ok nodes ∧
        (∃ last, FullRun boxDocument engine source last) ∧
        ∀ last, FullRun boxDocument engine source last →
          ∀ n, n ∈ last.hiddenElements ↔ n ∈ nodes := by
  intro source engine
  have hlist : SelectorList.parse source.selector =
      [⟨[.type "div"], []⟩, ⟨[.attributeIs "title" "a:b()"], []⟩] := by cbv
  have hsupported : (SelectorList.parse source.selector).isSupported = true := by
    rw [hlist]
    rfl
  have hvalues : ¬(SelectorList.parse source.selector).hasExtendedValue := by
    rw [hlist]
    rintro ⟨sel, hsel, name, value, hcond, hextended⟩
    simp only [List.mem_cons, List.not_mem_nil, or_false] at hsel
    rcases hsel with rfl | rfl
    · simp [Complex.conditions_eq] at hcond
    · obtain ⟨rfl, rfl⟩ : name = "title" ∧ value = "a:b()" := by
        simpa [Complex.conditions_eq] using hcond
      exact absurd hextended (by decide)
  refine ⟨hsupported, hvalues, ?_⟩
  exact full_run_hides_query boxDocument Config.default (⟨.zero⟩ : PausedClock) [] rfl (by decide)
    source hsupported hvalues

/-- A box whose title is the text of a pseudo-class. -/
def titledDocument : Document :=
  ((((Document.empty "https://example.com/").appendElement 0 "html").appendElement 1 "div"
    ).change (.setAttribute 2 "title" ":has(p)"))

/--
**A title that reads like a pseudo-class is not found.**  A query for the title finds the box.
The reader of chains takes the text in quotes for a pseudo-class, and what stands in front of
it is no selector.
-/
theorem quoted_has_missed :
    let source : PatternSource := ⟨"[title=\":has(p)\"]", "titles"⟩
    let engine : Engine Nat Nat PausedClock := .new Config.default ⟨.zero⟩
    (SelectorList.parse source.selector).isSupported = true ∧
      titledDocument.page.queryAll 0 source.selector = .ok [2] ∧
      (∃ last, FullRun titledDocument engine source last) ∧
      ∀ last, FullRun titledDocument engine source last → last.hiddenElements = [] := by
  intro source engine
  have hlist : SelectorList.parse source.selector =
      [⟨[.attributeIs "title" ":has(p)"], []⟩] := by cbv
  have hsupported : (SelectorList.parse source.selector).isSupported = true := by
    rw [hlist]
    rfl
  have hquery : titledDocument.page.queryAll 0 source.selector = .ok [2] := by
    rw [titledDocument.queryAll_of_supported hsupported, hlist]
    decide +kernel
  have hparse : Chain.parse source.selector =
      .ok [.plain "[title=\"", .has [.plain "p"], .plain "\"]"] := by
    have hfound : findPseudo? "[title=\":has(p)\"]".toList =
        some ⟨"[title=\"".toList, .has, "has".toList, "p)\"]".toList⟩ := rfl
    have hclose : closeArgument? .top "p)\"]".toList = some ("p".toList, "\"]".toList) := rfl
    have hlinks := readLinks_has hfound (by decide) hclose
      (readLinks_plain source.selector (by decide) rfl) (List.cons_ne_nil _ _) rfl
      (readLinks_plain source.selector (by decide) rfl)
    rw [String.ofList_toList, String.ofList_toList, String.ofList_toList] at hlinks
    exact Chain.parse_of_links hlinks rfl
  obtain ⟨known, hconsistent⟩ :=
    meetAll_consistent (S := Nat) (N := Nat) Config.default (⟨.zero⟩ : PausedClock) []
  refine ⟨hsupported, hquery, exists_fullRun _ _ _, fun last hrun => ?_⟩
  rw [List.eq_nil_iff_forall_not_mem]
  intro n hn
  rw [hrun.mem_hidden_iff hconsistent hparse (List.cons_ne_nil _ _) (by decide) rfl,
    Chain.findsOn_iff] at hn
  obtain ⟨anchors, hfinds⟩ := hn
  have hled : Chain.FindsBy titledDocument
      (Chain.plains (some "[title=\"") ++ Link.has [.plain "p"] :: [.plain "\"]"]) anchors n :=
    hfinds
  obtain ⟨c, more, -, ⟨nodes, hfront, -⟩, -⟩ := Document.findsBy_led.mp hled
  have hcomplete : SelectorText.complete "[title=\"" = "[title=\"" := by decide +kernel
  have htrimmed : trimmed "[title=\"" = "[title=\"" := by cbv
  have hfirst : Document.Family.queryList "[title=\"" = [⟨[.unsupported "[title=\""], []⟩] := by
    rw [Document.Family.queryList, if_neg (by simp)]
    cbv
  rw [Option.getD_some, hcomplete, Document.queryAll_eq, htrimmed, hfirst, if_neg (by decide)]
    at hfront
  cases hfront

end Engine

end CosmeticFilter
