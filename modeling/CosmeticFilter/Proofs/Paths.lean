/-
Paths lead to one element.

The path of an element names, from the root on, the tag of each element on the way and its
place among its siblings.  Read as a selector it can match no other element: there is one
root, and below one parent there is one element at each place.  Whatever text without
siblings or commas is put behind a path therefore matches inside of the element only.

A place too great to be read makes the path match nothing at all, which does no harm.
-/
import CosmeticFilter.Proofs.Growth
import CosmeticFilter.Proofs.Tree

namespace CosmeticFilter

open CosmeticFilter.Text

/-! ### Ends of texts -/

namespace SelectorText

theorem isWhite_of_not_isSeam {c : Char} (h : isSeam c = false) : isWhite c = false := by
  rw [Bool.eq_false_iff]
  intro hwhite
  simp [isSeam, hwhite] at h

/-- A text that ends neither in white space nor in a combinator is complete. -/
theorem complete_of_last {text : String} {front : List Char} {c : Char}
    (hlast : text.toList = front ++ [c]) (hc : isSeam c = false) : complete text = text := by
  refine if_neg ?_
  rw [isIncomplete, hlast, List.getLast?_concat, Option.all_some, hc]
  exact Bool.false_ne_true

end SelectorText

/-! ### Reading a step of a path -/

/-- A tag that reads as one name. -/
structure IsTag (tag : String) : Prop where
  filled : tag.toList ≠ []
  letters : ∀ c ∈ tag.toList, c.isAlphanum = true ∨ c = '-' ∨ c = '_'

instance : DecidablePred IsTag := fun tag =>
  decidable_of_iff
    (tag.toList ≠ [] ∧ (tag.toList.all fun c => c.isAlphanum || c == '-' || c == '_') = true) <| by
    simp only [List.all_eq_true, Bool.or_eq_true, beq_iff_eq, or_assoc]
    exact ⟨fun h => ⟨h.1, h.2⟩, fun h => ⟨h.filled, h.letters⟩⟩

theorem isNameChar_of_letter {c : Char} (h : c.isAlphanum = true ∨ c = '-' ∨ c = '_') :
    Token.isNameChar c = true := by
  unfold Token.isNameChar
  rcases h with h | rfl | rfl
  · simp [h]
  · rfl
  · rfl

theorem readDigits?_eq {cs : List Char} (h : ∀ c ∈ cs, c.isDigit = true) (acc : Nat) :
    readDigits? acc cs = some (Nat.ofDigitChars 10 cs acc) := by
  induction cs generalizing acc with
  | nil => rfl
  | cons c rest ih =>
    obtain ⟨hc, hrest⟩ := List.forall_mem_cons.mp h
    have hrange : '0' ≤ c ∧ c ≤ '9' := by
      simpa [Char.isDigit, Char.le_def] using hc
    rw [readDigits?, digitValue?, if_pos hrange]
    simp only
    rw [ih hrest, Nat.ofDigitChars_cons]

theorem isDigit_of_mem_toDigits {n : Nat} {c : Char} (h : c ∈ Nat.toDigits 10 n) :
    c.isDigit = true :=
  Nat.isDigit_of_mem_toDigits (by decide) (by decide) h

theorem not_isWhite_of_isDigit {c : Char} (h : c.isDigit = true) : isWhite c = false := by
  have hnone : ∀ k < 58, 48 ≤ k → Unicode.Property.whiteSpace.has k = false := by decide
  simp only [Char.isDigit, Bool.and_eq_true, decide_eq_true_eq, ge_iff_le,
    UInt32.le_iff_toNat_le] at h
  have hlow : '0'.val.toNat = 48 := rfl
  have hhigh : '9'.val.toNat = 57 := rfl
  exact hnone c.val.toNat (by omega) (by omega)

theorem trim_toDigits (n : Nat) : trim (Nat.toDigits 10 n) = Nat.toDigits 10 n := by
  have hdrop : ∀ cs : List Char, (∀ c ∈ cs, c.isDigit = true) → cs.dropWhile isWhite = cs := by
    intro cs hcs
    cases cs with
    | nil => rfl
    | cons c rest =>
      rw [List.dropWhile_cons_of_neg]
      simp [not_isWhite_of_isDigit (hcs c List.mem_cons_self)]
  have hdigits : ∀ c ∈ Nat.toDigits 10 n, c.isDigit = true := fun c => isDigit_of_mem_toDigits
  rw [trim, trimLeft, hdrop _ hdigits, trimRight, hdrop _ (by simpa using hdigits),
    List.reverse_reverse]

/-- Numbers are read as they are written, unless they are too great. -/
theorem readNatural?_toDigits (limit n : Nat) :
    readNatural? limit (Nat.toDigits 10 n) = if n ≤ limit then some n else none := by
  have hdigits : ∀ c ∈ Nat.toDigits 10 n, c.isDigit = true := fun c => isDigit_of_mem_toDigits
  have hvalue := readDigits?_eq hdigits 0
  rw [Nat.ofDigitChars_toDigits (by decide) (by decide)] at hvalue
  cases hcs : Nat.toDigits 10 n with
  | nil => exact absurd hcs Nat.toDigits_ne_nil
  | cons c rest =>
    rw [hcs] at hvalue hdigits
    have hplus : c ≠ '+' := by
      rintro rfl
      simpa using hdigits '+' List.mem_cons_self
    unfold readNatural?
    simp only
    split
    · rename_i hhead
      exact absurd (List.cons.inj hhead).1 hplus
    · rw [hvalue]
      by_cases hlimit : n ≤ limit
      · simp [hlimit]
      · simp [hlimit, Nat.lt_of_not_le hlimit]

namespace Token

theorem all_cons {cs rest : List Char} {token : Token} (h : next? cs = some (token, rest)) :
    all cs = token :: all rest := by
  rw [all_eq, h]

theorem all_nil : all [] = [] := by
  rw [all_eq]
  rfl

theorem isBlank_of_isNameChar {c : Char} (h : isNameChar c = true) : isBlank c = false := by
  rw [Bool.eq_false_iff]
  intro hblank
  simp only [isBlank, Bool.or_eq_true, beq_iff_eq] at hblank
  rcases hblank with (((rfl | rfl) | rfl) | rfl) | rfl <;> simp [isNameChar] at h

/-- The text is a name. -/
structure IsName (name : String) : Prop where
  filled : name.toList ≠ []
  letters : ∀ c ∈ name.toList, isNameChar c = true

theorem IsName.exists_head {name : String} (h : IsName name) :
    ∃ c more, name.toList = c :: more ∧ isNameChar c = true := by
  obtain ⟨c, more, hcons⟩ := List.exists_cons_of_ne_nil h.filled
  exact ⟨c, more, hcons, h.letters c (hcons ▸ List.mem_cons_self)⟩

/-- A name is read to its end. -/
theorem IsName.readName_append {name : String} (h : IsName name) {rest : List Char}
    (hrest : ∀ c ∈ rest.head?, isNameChar c = false) :
    readName (name.toList ++ rest) = (name, rest) := by
  have hnone : rest.takeWhile isNameChar = [] ∧ rest.dropWhile isNameChar = rest := by
    cases rest with
    | nil => exact ⟨rfl, rfl⟩
    | cons c more => simp [hrest c rfl]
  rw [readName, List.takeWhile_append_of_pos h.letters, List.dropWhile_append_of_pos h.letters,
    hnone.1, hnone.2, List.append_nil, String.ofList_toList]

theorem IsName.next? {name : String} (h : IsName name) {rest : List Char}
    (hrest : ∀ c ∈ rest.head?, isNameChar c = false) :
    next? (name.toList ++ rest) = some (.simple (.type (lower name)), rest) := by
  have hname := h.readName_append hrest
  obtain ⟨first, more, hcons, hfirst⟩ := h.exists_head
  rw [hcons, List.cons_append] at hname ⊢
  have hread : readType first (more ++ rest) = (.type (lower name), rest) := by
    rw [readType, if_pos hfirst, hname]
  have hblank := isBlank_of_isNameChar hfirst
  unfold Token.next?
  simp only [hblank, Bool.false_eq_true, if_false]
  split <;> first | rw [hread] | simp [isNameChar] at hfirst

theorem isName_of_isTag {tag : String} (htag : IsTag tag) : IsName tag :=
  ⟨htag.filled, fun c hc => isNameChar_of_letter (htag.letters c hc)⟩

theorem readArgument_digits {digits : List Char} (h : ∀ c ∈ digits, c.isDigit = true)
    (rest : List Char) :
    readArgument 0 none (digits ++ ')' :: rest) = ⟨digits, rest, true, false⟩ := by
  induction digits with
  | nil => simp [readArgument]
  | cons c more ih =>
    obtain ⟨hc, hmore⟩ := List.forall_mem_cons.mp h
    have hsigns : c ≠ '\\' ∧ c ≠ '"' ∧ c ≠ '\'' ∧ c ≠ '(' ∧ c ≠ ')' := by
      refine ⟨?_, ?_, ?_, ?_, ?_⟩ <;> rintro rfl <;> simp at hc
    rw [List.cons_append, readArgument]
    · simp [hsigns, ih hmore, Argument.cons]
    · exact fun hslash _ => hsigns.1 hslash
    · exact fun _ _ hslash _ => hsigns.1 hslash

/-- A place among siblings, counted from one, is read to its end; too great a one is not known. -/
theorem next?_place (position : Nat) (rest : List Char) :
    ∃ cond : Simple, (cond = .nthChild (position + 1) ∨
      maxWord < position + 1 ∧ ∃ text, cond = .unsupported text) ∧
      next? (":nth-child(".toList ++ Nat.toDigits 10 (position + 1) ++ ')' :: rest) =
        some (.simple cond, rest) := by
  have hdigits : ∀ c ∈ Nat.toDigits 10 (position + 1), c.isDigit = true :=
    fun c => isDigit_of_mem_toDigits
  have harg := readArgument_digits hdigits rest
  have hname : readName ("nth-child(".toList ++ (Nat.toDigits 10 (position + 1) ++ ')' :: rest)) =
      ("nth-child", '(' :: (Nat.toDigits 10 (position + 1) ++ ')' :: rest)) := by
    rfl
  have hclass : pseudoClass? (lower "nth-child") (some (Nat.toDigits 10 (position + 1))) =
      if position + 1 ≤ maxWord then some (.nthChild (position + 1)) else none := by
    rw [show lower "nth-child" = "nth-child" by decide]
    simp only [pseudoClass?, trim_toDigits, readNatural?_toDigits]
    by_cases hlimit : position + 1 ≤ maxWord <;> simp [hlimit]
  have hread : ∃ cond : Simple,
      (cond = .nthChild (position + 1) ∨
      maxWord < position + 1 ∧ ∃ text, cond = .unsupported text) ∧
      readPseudo ("nth-child(".toList ++ (Nat.toDigits 10 (position + 1) ++ ')' :: rest)) =
        (cond, rest) := by
    rw [readPseudo]
    · simp only [hname, harg, hclass]
      by_cases hlimit : position + 1 ≤ maxWord
      · exact ⟨_, .inl rfl, by simp [hlimit]⟩
      · rw [if_neg hlimit]
        exact ⟨_, .inr ⟨Nat.lt_of_not_le hlimit, _, rfl⟩, rfl⟩
    · intro after hcolons
      have hcolon : 'n' = ':' := (List.cons.inj hcolons).1
      simp at hcolon
  obtain ⟨cond, hcond, hread⟩ := hread
  refine ⟨cond, hcond, ?_⟩
  rw [List.append_assoc]
  show next? (':' :: ("nth-child(".toList ++ (Nat.toDigits 10 (position + 1) ++ ')' :: rest))) = _
  simp only [next?, hread]
  rfl

/-- A name that starts with `root` and goes on is none of the pseudo-classes. -/
theorem pseudoClass?_root {front : List Char} (h : front ≠ []) (argument : Option (List Char)) :
    pseudoClass? (lower (String.ofList ("root".toList ++ front))) argument = none := by
  have hlist : (lower (String.ofList ("root".toList ++ front))).toList =
      "root".toList ++ front.map Char.toLower := by
    rw [lower, String.toList_ofList, String.toList_ofList, List.map_append]
    rfl
  unfold pseudoClass?
  split
  · rename_i hname
    rw [hname] at hlist
    simp [h] at hlist
  · rename_i hname
    rw [hname] at hlist
    simp at hlist
  · rename_i hname
    rw [hname] at hlist
    simp at hlist
  · rfl

/-- The root is read off the start of a path, unless what follows makes another name of it. -/
theorem next?_root (rest : List Char) :
    next? (":root".toList ++ rest) = some (.simple .root, rest) ∨
      (rest.head?.any fun c => isNameChar c || c == '(') = true ∧
      ∃ text more, next? (":root".toList ++ rest) = some (.simple (.unsupported text), more) := by
  have hnext : next? (":root".toList ++ rest) =
      some (.simple (readPseudo ("root".toList ++ rest)).1,
        (readPseudo ("root".toList ++ rest)).2) :=
    rfl
  have hname : readName ("root".toList ++ rest) =
      (String.ofList ("root".toList ++ rest.takeWhile isNameChar), rest.dropWhile isNameChar) := rfl
  have hcolon : ∀ after, "root".toList ++ rest ≠ ':' :: after := by
    intro after hcolon
    have hr : 'r' = ':' := (List.cons.inj hcolon).1
    simp at hr
  rw [hnext, readPseudo]
  rotate_left
  · exact hcolon
  simp only [hname]
  by_cases hfront : rest.takeWhile isNameChar = []
  · have hrest : rest.dropWhile isNameChar = rest := by
      have hsplit := List.takeWhile_append_dropWhile (p := isNameChar) (l := rest)
      rwa [hfront, List.nil_append] at hsplit
    have hroot : lower (String.ofList ("root".toList ++ rest.takeWhile isNameChar)) = "root" := by
      rw [hfront]
      decide
    rw [hroot, hrest]
    split
    · exact .inr ⟨by simp, _, _, rfl⟩
    · exact .inl rfl
  · have hhead : (rest.head?.any fun c => isNameChar c || c == '(') = true := by
      cases rest with
      | nil => simp at hfront
      | cons c more =>
        by_contra hhead
        simp only [List.head?_cons, Option.any_some, Bool.or_eq_true, not_or] at hhead
        simp [hhead.1] at hfront
    simp only [pseudoClass?_root hfront]
    split <;> exact .inr ⟨hhead, _, _, rfl⟩

/-- The root is all that there is to be read in the path of the root. -/
theorem all_root : all ":root".toList = [.simple .root] := by
  have hnext : next? ":root".toList = some (.simple .root, []) :=
    (next?_root []).resolve_right fun h => by simp at h
  rw [all_cons hnext, all_nil]

theorem next?_root_blank (rest : List Char) :
    next? (":root".toList ++ ' ' :: rest) = some (.simple .root, ' ' :: rest) :=
  (next?_root (' ' :: rest)).resolve_right fun h => absurd h.1 (by simp [isNameChar])

end Token

namespace Complex

/-- One step of a path takes what was read of it on to a child. -/
theorem read_step (source : String) {tag : String} (htag : IsTag tag) (position : Nat)
    (rest : List Char) {sel : Complex} (hlast : sel.last ≠ []) :
    ∃ cond : Simple, (cond = .nthChild (position + 1) ∨
      maxWord < position + 1 ∧ ∃ text, cond = .unsupported text) ∧
      (Token.all (" > ".toList ++ (tag.toList ++ (":nth-child(".toList ++
          Nat.toDigits 10 (position + 1) ++ ')' :: rest)))).foldl (PartialComplex.add source)
          ⟨sel, none⟩ =
        (Token.all rest).foldl (PartialComplex.add source)
          ⟨sel.concat .child [.type (lower tag), cond], none⟩ := by
  obtain ⟨cond, hcond, hplace⟩ := Token.next?_place position rest
  refine ⟨cond, hcond, ?_⟩
  have hname : Token.all (tag.toList ++ (":nth-child(".toList ++ Nat.toDigits 10 (position + 1) ++
      ')' :: rest)) = .simple (.type (lower tag)) :: Token.all (":nth-child(".toList ++
        Nat.toDigits 10 (position + 1) ++ ')' :: rest) := by
    refine Token.all_cons ((Token.isName_of_isTag htag).next? fun c hc => ?_)
    obtain rfl : ':' = c := Option.some.inj hc
    rfl
  have hblank : ∀ text : List Char,
      (tag.toList ++ text).dropWhile isBlank = tag.toList ++ text := by
    intro text
    obtain ⟨first, more, hcons⟩ := List.exists_cons_of_ne_nil htag.filled
    have hfirst := isNameChar_of_letter (htag.letters first (hcons ▸ List.mem_cons_self))
    rw [hcons, List.cons_append, List.dropWhile_cons_of_neg]
    simp [Token.isBlank_of_isNameChar hfirst]
  have htokens : Token.all (" > ".toList ++ (tag.toList ++ (":nth-child(".toList ++
      Nat.toDigits 10 (position + 1) ++ ')' :: rest))) =
      .blank :: .combinator .child :: .blank :: .simple (.type (lower tag)) :: .simple cond ::
        Token.all rest := by
    generalize htext : tag.toList ++ (":nth-child(".toList ++ Nat.toDigits 10 (position + 1) ++
      ')' :: rest) = text at *
    have hfirst : Token.next? (' ' :: '>' :: ' ' :: text) = some (.blank, '>' :: ' ' :: text) := rfl
    have hsecond : Token.next? ('>' :: ' ' :: text) = some (.combinator .child, ' ' :: text) := rfl
    have hthird : Token.next? (' ' :: text) = some (.blank, text) := by
      have hdrop := hblank (":nth-child(".toList ++ Nat.toDigits 10 (position + 1) ++ ')' :: rest)
      rw [htext] at hdrop
      simp only [Token.next?, hdrop]
      rfl
    show Token.all (' ' :: '>' :: ' ' :: text) = _
    rw [Token.all_cons hfirst, Token.all_cons hsecond, Token.all_cons hthird, hname,
      Token.all_cons hplace]
  rw [htokens]
  have hfilled : sel.last.isEmpty = false := by simpa using hlast
  simp [List.foldl_cons, PartialComplex.add, hfilled, addCombinator_eq, concat_addSimple]

end Complex

/-! ### Paths of a document -/

namespace Page

variable {N S : Type} (page : Page N S)

theorem ancestors_eq (n : N) :
    page.ancestors n = match page.parent? n with
      | none => []
      | some p => p :: page.ancestors p := by
  unfold ancestors
  rw [follow_congr page.depth_parent (Nat.le_refl _) (Nat.le_succ _)]
  cases hn : page.parent? n with
  | none => simp [follow, hn]
  | some p =>
    simp only [follow, hn]
    rw [follow_congr page.depth_parent (Nat.le_of_lt (page.depth_parent hn)) (Nat.le_refl _)]

variable [DecidableEq N]

theorem path_of_root {n : N} (h : page.parent? n = none) : page.path n = ":root" := by
  simp [path, ancestors_eq, h, pathSteps]

/-- A path goes on from the path of the parent. -/
theorem path_of_child {n p : N} (hparent : page.parent? n = some p) {i : Nat}
    (hplace : (page.children p).idxOf? n = some i)
    (hsteps : page.pathSteps p (page.ancestors p) ≠ []) :
    page.path n = page.path p ++ " > " ++
      (page.tag n ++ ":nth-child(" ++ toString (i + 1) ++ ")") := by
  simp only [path]
  rw [page.ancestors_eq n, hparent]
  simp only [pathSteps, hplace, List.reverse_cons]
  rw [String.intercalate_append_of_ne_nil (by simpa using hsteps) (by simp),
    String.intercalate_singleton]

theorem pathSteps_ne_nil {n p : N} (hparent : page.parent? n = some p) {i : Nat}
    (hplace : (page.children p).idxOf? n = some i) :
    page.pathSteps n (page.ancestors n) ≠ [] := by
  rw [ancestors_eq, hparent]
  simp [pathSteps, hplace]

end Page

namespace Document

variable {doc : Document}

/-- The element stands at a place below its parent. -/
theorem exists_place {n p : Nat} (helement : doc.isElement n = true)
    (hparent : doc.page.parent? n = some p) :
    ∃ i, (doc.page.children p).idxOf? n = some i ∧ doc.family.position n = i + 1 := by
  have hnode : doc.parentNode? n = some p := (Option.filter_eq_some_iff.mp hparent).1
  have hmem : n ∈ doc.page.children p := by
    refine List.mem_filter.mpr ⟨?_, helement⟩
    rw [childNodes_eq]
    exact mem_childrenOf.mpr hnode
  cases hplace : (doc.page.children p).idxOf? n with
  | none => exact absurd hmem (List.idxOf?_eq_none_iff.mp hplace)
  | some i =>
    refine ⟨i, rfl, ?_⟩
    have hsiblings : doc.family.siblings n = doc.family.childNodes p := by
      simp only [Family.siblings]
      rw [show doc.family.doc.parentNode? n = some p from hnode]
    unfold Family.position
    rw [hsiblings]
    rw [show ((doc.family.childNodes p).filter doc.family.doc.isElement).idxOf? n = some i
      from hplace]

/-- Facts about elements go down from the root. -/
theorem element_induction {P : Nat → Prop}
    (root : ∀ n, doc.isElement n = true → doc.page.parent? n = none → P n)
    (child : ∀ n p, doc.isElement n = true → doc.page.parent? n = some p →
      doc.isElement p = true → P p → P n) (n : Nat) (hn : doc.isElement n = true) : P n := by
  induction n using Nat.strongRecOn with
  | ind n ih =>
    cases hparent : doc.page.parent? n with
    | none => exact root n hn hparent
    | some p =>
      have hp : doc.isElement p = true := (Option.filter_eq_some_iff.mp hparent).2
      exact child n p hn hparent hp (ih p (doc.family.parentElement?_lt hparent) hp)

/-- The path of an element goes on from that of its parent, by tag and place. -/
theorem path_of_element {n p : Nat} (hn : doc.isElement n = true)
    (hparent : doc.page.parent? n = some p) :
    ∃ i, doc.family.position n = i + 1 ∧ (doc.page.path n).toList =
      (doc.page.path p).toList ++ (" > ".toList ++ ((doc.family.tag n).toList ++
        (":nth-child(".toList ++ Nat.toDigits 10 (i + 1) ++ [')']))) := by
  obtain ⟨i, hplace, hposition⟩ := exists_place hn hparent
  refine ⟨i, hposition, ?_⟩
  have hsteps : doc.page.pathSteps p (doc.page.ancestors p) ≠ [] := by
    have hp : doc.isElement p = true := (Option.filter_eq_some_iff.mp hparent).2
    cases habove : doc.page.parent? p with
    | none => simp [Page.ancestors_eq, habove, Page.pathSteps]
    | some q =>
      obtain ⟨j, hj, -⟩ := exists_place hp habove
      exact doc.page.pathSteps_ne_nil habove hj
  rw [doc.page.path_of_child hparent hplace hsteps]
  simp only [String.toList_append, Nat.toString_eq_repr, Nat.toList_repr, List.append_assoc]
  rfl

/-- The characters of paths. -/
def isPathChar (c : Char) : Bool :=
  c.isAlphanum || "-_:()> ".toList.contains c

theorem isPathChar_of_letter {c : Char} (h : c.isAlphanum = true ∨ c = '-' ∨ c = '_') :
    isPathChar c = true := by
  rcases h with h | rfl | rfl
  · simp [isPathChar, h]
  · rfl
  · rfl

/-- The tags of the elements are names. -/
def Tagged (doc : Document) : Prop :=
  ∀ n, doc.isElement n = true → IsTag (doc.family.tag n)

theorem tagged_iff :
    doc.Tagged ↔ ∀ n < doc.size, doc.isElement n = true → IsTag (doc.family.tag n) :=
  ⟨fun h n _ => h n, fun h n hn => h n (lt_size_of_isElement hn) hn⟩

instance : DecidablePred Tagged := fun _ => decidable_of_iff _ tagged_iff.symm

namespace Tagged

variable (h : doc.Tagged)

include h

/-- A path is made of names, numbers and the signs between them. -/
theorem path_letters (n : Nat) : (doc.page.path n).toList.all isPathChar = true := by
  by_cases hn : doc.isElement n = true
  · refine element_induction (P := fun n => (doc.page.path n).toList.all isPathChar = true)
      ?_ ?_ n hn
    · intro n _ hparent
      rw [doc.page.path_of_root hparent]
      decide
    · intro n p hn hparent _ ih
      obtain ⟨i, -, hpath⟩ := path_of_element hn hparent
      have htag : (doc.family.tag n).toList.all isPathChar = true :=
        List.all_eq_true.mpr fun c hc => isPathChar_of_letter ((h n hn).letters c hc)
      have hdigits : (Nat.toDigits 10 (i + 1)).all isPathChar = true :=
        List.all_eq_true.mpr fun c hc => isPathChar_of_letter
          (.inl (by simp [Char.isAlphanum, isDigit_of_mem_toDigits hc]))
      rw [hpath]
      simp only [List.all_append, ih, htag, hdigits]
      decide
  · -- What is no element is not among the children that are, so that its path breaks off.
    cases hparent : doc.page.parent? n with
    | none =>
      rw [doc.page.path_of_root hparent]
      decide
    | some p =>
      have hnone : (doc.page.children p).idxOf? n = none :=
        List.idxOf?_eq_none_iff.mpr fun hmem => hn (List.mem_filter.mp hmem).2
      rw [Page.path, Page.ancestors_eq, hparent]
      simp only [Page.pathSteps, hnone]
      decide

theorem not_mem_path (n : Nat) {c : Char} (hc : c ∈ "#.[~+,".toList) :
    c ∉ (doc.page.path n).toList := by
  have hsigns : ("#.[~+,".toList.all fun c => !isPathChar c) = true := by decide
  intro hmem
  have hnot := List.all_eq_true.mp hsigns c hc
  simp [List.all_eq_true.mp (h.path_letters n) c hmem] at hnot

theorem path_inert (n : Nat) : Inert (doc.page.path n).toList := fun _ hc hsign =>
  h.not_mem_path n (List.mem_append_left [','] hsign) hc

end Tagged

/-- A document with one root at most, whose parents are elements and whose tags are names. -/
structure WellFormed (doc : Document) : Prop where
  top : doc.kind? 0 = some .document
  parents : ∀ n p, doc.parentNode? n = some p → p = 0 ∨ doc.isElement p = true
  root : ∀ m n, doc.isElement m = true → doc.isElement n = true → doc.parentNode? m = some 0 →
    doc.parentNode? n = some 0 → m = n
  tags : ∀ n, doc.isElement n = true → IsTag (doc.family.tag n)

/-- It is enough to look at the nodes of the table. -/
theorem wellFormed_iff : doc.WellFormed ↔
    doc.kind? 0 = some .document ∧
    (∀ n < doc.size, ∀ p < n, doc.parentNode? n = some p → p = 0 ∨ doc.isElement p = true) ∧
    (∀ m < doc.size, ∀ n < doc.size, (doc.isElement m = true ∧ doc.parentNode? m = some 0) ∧
      doc.isElement n = true ∧ doc.parentNode? n = some 0 → m = n) ∧
    ∀ n < doc.size, doc.isElement n = true → IsTag (doc.family.tag n) := by
  constructor
  · intro h
    exact ⟨h.top, fun n _ p _ => h.parents n p,
      fun m _ n _ hboth => h.root m n hboth.1.1 hboth.2.1 hboth.1.2 hboth.2.2,
      fun n _ => h.tags n⟩
  · rintro ⟨htop, hparents, hroot, htags⟩
    exact ⟨htop,
      fun n p hp => hparents n (lt_size_of_parentNode? hp) p (doc.parentNode?_lt hp) hp,
      fun m n hm hn hmtop hntop => hroot m (lt_size_of_isElement hm) n (lt_size_of_isElement hn)
        ⟨⟨hm, hmtop⟩, hn, hntop⟩,
      fun n hn => htags n (lt_size_of_isElement hn) hn⟩

instance : DecidablePred WellFormed := fun _ => decidable_of_iff _ wellFormed_iff.symm

namespace WellFormed

variable (h : doc.WellFormed)

include h

theorem not_isElement_top : doc.isElement 0 = false := by
  simp [isElement, h.top]

theorem filled : 0 < doc.size := by
  have htop := h.top
  rw [kind?, Option.map_eq_some_iff] at htop
  obtain ⟨node, hnode, -⟩ := htop
  exact (Array.getElem?_eq_some_iff.mp hnode).1

theorem ne_top {n : Nat} (hn : doc.isElement n = true) : n ≠ 0 := by
  rintro rfl
  simp [h.not_isElement_top] at hn

theorem parent_of_root {n : Nat} (hn : doc.isElement n = true)
    (hconnected : doc.isConnected n = true)
    (hparent : doc.page.parent? n = none) : doc.parentNode? n = some 0 := by
  rcases Relation.ReflTransGen.cases_head (isConnected_iff.mp hconnected) with rfl | ⟨p, hp, -⟩
  · simp [h.not_isElement_top] at hn
  · rcases h.parents n p hp with rfl | helement
    · exact hp
    · have hsome : doc.page.parent? n = some p :=
        Option.filter_eq_some_iff.mpr ⟨hp, helement⟩
      simp [hparent] at hsome

theorem tagged : doc.Tagged :=
  h.tags

theorem connected_parent {n p : Nat} (hn : doc.isElement n = true)
    (hconnected : doc.isConnected n = true) (hparent : doc.page.parent? n = some p) :
    doc.isConnected p = true := by
  have hnode : doc.parentNode? n = some p := (Option.filter_eq_some_iff.mp hparent).1
  rcases (contains_parent hnode).mp hconnected with rfl | hp
  · simp [h.not_isElement_top] at hn
  · exact hp

omit h in
/-- Elements at one place below one parent are the same. -/
theorem eq_of_place {m n p : Nat} (hm : doc.isElement m = true) (hn : doc.isElement n = true)
    (hmp : doc.page.parent? m = some p) (hnp : doc.page.parent? n = some p)
    (hposition : doc.family.position m = doc.family.position n) : m = n := by
  obtain ⟨i, hi, hmi⟩ := exists_place hm hmp
  obtain ⟨j, hj, hnj⟩ := exists_place hn hnp
  obtain rfl : i = j := by omega
  obtain ⟨_, hgetm, -⟩ := List.idxOf?_eq_some_iff.mp hi
  obtain ⟨_, hgetn, -⟩ := List.idxOf?_eq_some_iff.mp hj
  exact hgetm.symm.trans hgetn

/-- The selector matches no element of the document but one. -/
def Singles (doc : Document) (sel : Complex) (n : Nat) : Prop :=
  ∀ m, doc.isElement m = true → doc.isConnected m = true →
    sel.matches doc.family.tree none m = true → m = n

theorem singles_root {n : Nat} (hn : doc.isElement n = true) (hconnected : doc.isConnected n = true)
    (hparent : doc.page.parent? n = none) : Singles doc ⟨[.root], []⟩ n := by
  intro m hm _ hmatches
  have hroot : doc.family.tree.isRoot m = true := by
    simpa [Complex.matches_first, Compound.matches, Simple.matches] using hmatches
  exact h.root m n hm hn (beq_iff_eq.mp hroot) (h.parent_of_root hn hconnected hparent)

/-- A place that is read matches one child, and one that is not matches nothing. -/
theorem singles_place {n p : Nat} (hn : doc.isElement n = true)
    (hparent : doc.page.parent? n = some p) {sel : Complex} (hsel : Singles doc sel p)
    (type : Simple) {cond : Simple} (hcond : cond = .nthChild (doc.family.position n) ∨
      maxWord < doc.family.position n ∧ ∃ text, cond = .unsupported text) :
    Singles doc (sel.concat .child [type, cond]) n := by
  intro m hm hconnected hmatches
  rw [Complex.matches_concat, Bool.and_eq_true, List.any_eq_true] at hmatches
  obtain ⟨hcompound, q, hq, hmatches⟩ := hmatches
  have hmq : doc.page.parent? m = some q := Option.mem_toList.mp hq
  have hqelement : doc.isElement q = true := (Option.filter_eq_some_iff.mp hmq).2
  obtain rfl := hsel q hqelement (h.connected_parent hm hconnected hmq) hmatches
  simp only [Compound.matches, List.all_cons, List.all_nil, Bool.and_true, Bool.and_eq_true]
    at hcompound
  rcases hcond with rfl | ⟨-, text, rfl⟩
  · exact eq_of_place hm hn hmq hparent (beq_iff_eq.mp hcompound.2.2)
  · simp [Simple.matches] at hcompound

/-- The path of an element, in front of a blank, reads as a selector of this element alone. -/
theorem read_path {n : Nat} (hn : doc.isElement n = true) (hconnected : doc.isConnected n = true)
    (source : String) (rest : List Char) :
    ∃ sel : Complex, sel.last ≠ [] ∧ Singles doc sel n ∧
      (Token.all ((doc.page.path n).toList ++ ' ' :: rest)).foldl
          (PartialComplex.add source) .empty =
        (Token.all (' ' :: rest)).foldl (PartialComplex.add source) ⟨sel, none⟩ := by
  refine element_induction (P := fun n => doc.isConnected n = true → ∀ rest, ∃ sel : Complex,
    sel.last ≠ [] ∧ Singles doc sel n ∧ (Token.all ((doc.page.path n).toList ++ ' ' :: rest)).foldl
      (PartialComplex.add source) .empty =
        (Token.all (' ' :: rest)).foldl (PartialComplex.add source) ⟨sel, none⟩)
    ?_ ?_ n hn hconnected rest
  · intro n hn hparent hconnected rest
    refine ⟨⟨[.root], []⟩, by simp [Complex.last], h.singles_root hn hconnected hparent, ?_⟩
    rw [doc.page.path_of_root hparent, Token.all_cons (Token.next?_root_blank rest)]
    rfl
  · intro n p hn hparent _ ih hconnected rest
    obtain ⟨i, hposition, hpath⟩ := path_of_element hn hparent
    obtain ⟨sel, hlast, hsel, hread⟩ := ih (h.connected_parent hn hconnected hparent)
      ("> ".toList ++ ((doc.family.tag n).toList ++ (":nth-child(".toList ++
        Nat.toDigits 10 (i + 1) ++ ')' :: ' ' :: rest)))
    obtain ⟨cond, hcond, hstep⟩ := Complex.read_step source (h.tags n hn) i (' ' :: rest) hlast
    refine ⟨sel.concat .child [.type (lower (doc.family.tag n)), cond], by simp,
      h.singles_place hn hparent hsel _ (hposition ▸ hcond), ?_⟩
    refine Eq.trans ?_ (hread.trans hstep)
    rw [hpath]
    simp

omit h in
/-- A path starts with a colon, and ends neither in white space nor in a combinator. -/
theorem path_ends {n : Nat} (hn : doc.isElement n = true) :
    (∃ more, (doc.page.path n).toList = ':' :: more) ∧
      ∃ front c, (doc.page.path n).toList = front ++ [c] ∧ SelectorText.isSeam c = false := by
  refine element_induction (P := fun n => (∃ more, (doc.page.path n).toList = ':' :: more) ∧
    ∃ front c, (doc.page.path n).toList = front ++ [c] ∧ SelectorText.isSeam c = false) ?_ ?_ n hn
  · intro n _ hparent
    rw [doc.page.path_of_root hparent]
    exact ⟨⟨_, rfl⟩, ":roo".toList, 't', rfl, by decide⟩
  · intro n p hn hparent _ ih
    obtain ⟨⟨more, hmore⟩, -⟩ := ih
    obtain ⟨i, -, hpath⟩ := path_of_element hn hparent
    refine ⟨⟨_, by rw [hpath, hmore]; rfl⟩, (doc.page.path p).toList ++ (" > ".toList ++
      ((doc.family.tag n).toList ++ (":nth-child(".toList ++ Nat.toDigits 10 (i + 1)))), ')', ?_,
      by decide⟩
    rw [hpath]
    simp only [List.append_assoc]

end WellFormed

/-- Without commas there is one part. -/
theorem splitFrom_single (n : SelectorList.Nesting) {cs : List Char} (h : ',' ∉ cs) :
    SelectorList.splitFrom n cs = [cs] := by
  fun_induction SelectorList.splitFrom n cs with
  | case1 | case2 => rfl
  | case3 n c rest ih =>
    simp only [List.mem_cons, not_or] at h
    rw [ih h.2.2]
    rfl
  | case4 n c rest _ _ hc ih => simp [hc.1] at h
  | case5 n c rest _ _ _ ih =>
    simp only [List.mem_cons, not_or] at h
    rw [ih h.2]
    rfl

theorem of_mem_ancestors {m n : Nat} (h : m ∈ doc.family.tree.ancestors n) :
    doc.isElement m = true ∧ doc.contains m n = true := by
  induction n using Nat.strongRecOn with
  | ind n ih =>
    rw [doc.family.tree.ancestors_eq] at h
    cases hparent : doc.family.tree.parent? n with
    | none => simp [hparent] at h
    | some p =>
      obtain ⟨hnode, helement⟩ := Option.filter_eq_some_iff.mp hparent
      rw [hparent] at h
      rcases List.mem_cons.mp h with rfl | h
      · exact ⟨helement, (contains_parent hnode).mpr (.inr (contains_self m))⟩
      · obtain ⟨hm, hmp⟩ := ih p (doc.parentNode?_lt hnode) h
        exact ⟨hm, (contains_parent hnode).mpr (.inr hmp)⟩

/-- What contains a connected node is connected. -/
theorem connected_of_contains {m n : Nat} (hn : doc.isConnected n = true)
    (hmn : doc.contains m n = true) : doc.isConnected m = true := by
  rcases contains_branch hn hmn with h | h
  · exact h
  · obtain rfl : m = 0 := Nat.le_zero.mp (contains_le h)
    exact contains_self 0

theorem queryAll_eq (doc : Document) (scope : Nat) (selector : String) :
    doc.page.queryAll scope selector =
      if SelectorList.isSupported (Family.queryList (trimmed selector)) then
        .ok (doc.family.tree.query scope (scope != 0) (Family.queryList (trimmed selector)))
      else .error (.unsupported (trimmed selector)) := by
  simp only [page, Family.queryAll]

theorem isElement_of_mem_queryAll {scope n : Nat} {selector : String} {nodes : List Nat}
    (h : doc.page.queryAll scope selector = .ok nodes) (hn : n ∈ nodes) :
    doc.isElement n = true ∧ doc.contains scope n = true := by
  refine ⟨?_, contains_of_mem_queryAll h hn⟩
  simp only [page, Family.queryAll] at h
  split at h
  · rw [← Except.ok.inj h] at hn
    exact (List.mem_filter.mp (List.mem_filter.mp hn).1).2
  · simp at h

namespace WellFormed

variable (h : doc.WellFormed)

include h

/-- A query for a path and more text is one for a single selector, which starts with the path. -/
theorem matches_of_mem_path {c n : Nat} (hc : doc.isElement c = true) {after : String}
    (hcomma : ',' ∉ after.toList) {nodes : List Nat}
    (hquery : doc.page.queryAll 0 (doc.page.path c ++ after) = .ok nodes) (hn : n ∈ nodes) :
    ∃ rest, rest <+: after.toList ∧
      (Complex.parse (String.ofList ((doc.page.path c).toList ++ rest))).matches
        doc.family.tree none
        n = true := by
  obtain ⟨⟨more, hhead⟩, before, d, hlast, hseam⟩ := path_ends hc
  have hd := SelectorText.isWhite_of_not_isSeam hseam
  have hcolon : isWhite ':' = false := by decide
  have htrim := trim_append after.toList hhead hcolon hlast hd
  have hagain : trim ((doc.page.path c).toList ++ trimRight after.toList) =
      (doc.page.path c).toList ++ trimRight after.toList := by rw [← htrim, trim_trim]
  refine ⟨trimRight after.toList, trimRight_front after.toList, ?_⟩
  have htrimmed : trimmed (doc.page.path c ++ after) =
      String.ofList ((doc.page.path c).toList ++ trimRight after.toList) := by
    rw [trimmed, String.toList_append, htrim]
  have hnone : ',' ∉ (doc.page.path c).toList ++ trimRight after.toList := by
    rw [List.mem_append, not_or]
    exact ⟨h.tagged.not_mem_path c (by decide),
      fun hmem => hcomma ((trimRight_front after.toList).subset hmem)⟩
  have hlist : Family.queryList (trimmed (doc.page.path c ++ after)) =
      [Complex.parse (String.ofList ((doc.page.path c).toList ++ trimRight after.toList))] := by
    unfold Family.queryList
    rw [htrimmed, if_neg (by simp [hhead]), SelectorList.parse, SelectorList.split,
      String.toList_ofList, splitFrom_single _ hnone]
    simp only [List.map_cons, List.map_nil, trimmed, String.toList_ofList, hagain]
  rw [queryAll_eq, hlist] at hquery
  split at hquery
  · rw [← Except.ok.inj hquery] at hn
    simpa [SelectorList.matches] using (List.mem_filter.mp hn).2
  · simp at hquery

/-- Reading a path and more text leads past a selector of the element to tokens of the text. -/
theorem read_path_append {c : Nat} (hc : doc.isElement c = true)
    (hconnected : doc.isConnected c = true) (source : String) {deps : Dependencies}
    {rest : List Char} (hrest : Fits deps rest) :
    ∃ (sel : Complex) (tokens : List Token), sel.last ≠ [] ∧ Singles doc sel c ∧
      (∀ token ∈ tokens, token.Fits deps) ∧
      (Token.all ((doc.page.path c).toList ++ rest)).foldl (PartialComplex.add source) .empty =
        tokens.foldl (PartialComplex.add source) ⟨sel, none⟩ := by
  have hfits := (h.tagged.path_inert c).fits hrest
  cases hparent : doc.page.parent? c with
  | none =>
    rw [doc.page.path_of_root hparent] at hfits ⊢
    rcases Token.next?_root rest with hnext | ⟨-, text, more, hnext⟩
    · refine ⟨⟨[.root], []⟩, Token.all rest, by simp [Complex.last],
        h.singles_root hc hconnected hparent, Token.all_fits hrest, ?_⟩
      rw [Token.all_cons hnext]
      rfl
    · refine ⟨⟨[.unsupported text], []⟩, Token.all more, by simp [Complex.last], ?_,
        Token.all_fits (hfits.of_part (Token.next?_fits hfits hnext).2.isInfix), ?_⟩
      · intro m _ _ hmatches
        simp [Complex.matches_first, Compound.matches, Simple.matches] at hmatches
      · rw [Token.all_cons hnext]
        rfl
  | some p =>
    obtain ⟨i, hposition, hpath⟩ := path_of_element hc hparent
    have hp : doc.isElement p = true := (Option.filter_eq_some_iff.mp hparent).2
    obtain ⟨sel, hlast, hsel, hread⟩ := h.read_path hp (h.connected_parent hc hconnected hparent)
      source ("> ".toList ++ ((doc.family.tag c).toList ++ (":nth-child(".toList ++
        Nat.toDigits 10 (i + 1) ++ ')' :: rest)))
    obtain ⟨cond, hcond, hstep⟩ := Complex.read_step source (h.tags c hc) i rest hlast
    refine ⟨sel.concat .child [.type (lower (doc.family.tag c)), cond], Token.all rest, by simp,
      h.singles_place hc hparent hsel _ (hposition ▸ hcond), Token.all_fits hrest, ?_⟩
    refine Eq.trans ?_ (hread.trans hstep)
    rw [hpath]
    simp

/-- The whole path of an element reads as a selector of this element alone. -/
theorem read_path_end {c : Nat} (hc : doc.isElement c = true)
    (hconnected : doc.isConnected c = true) (source : String) :
    ∃ sel : Complex, Singles doc sel c ∧
      (Token.all (doc.page.path c).toList).foldl (PartialComplex.add source) .empty =
        ⟨sel, none⟩ := by
  cases hparent : doc.page.parent? c with
  | none =>
    refine ⟨⟨[.root], []⟩, h.singles_root hc hconnected hparent, ?_⟩
    rw [doc.page.path_of_root hparent, Token.all_root]
    rfl
  | some p =>
    obtain ⟨i, hposition, hpath⟩ := path_of_element hc hparent
    have hp : doc.isElement p = true := (Option.filter_eq_some_iff.mp hparent).2
    obtain ⟨sel, hlast, hsel, hread⟩ := h.read_path hp (h.connected_parent hc hconnected hparent)
      source ("> ".toList ++ ((doc.family.tag c).toList ++ (":nth-child(".toList ++
        Nat.toDigits 10 (i + 1) ++ [')'])))
    obtain ⟨cond, hcond, hstep⟩ := Complex.read_step source (h.tags c hc) i [] hlast
    refine ⟨sel.concat .child [.type (lower (doc.family.tag c)), cond],
      h.singles_place hc hparent hsel _ (hposition ▸ hcond), ?_⟩
    rw [hpath]
    refine hread.trans (hstep.trans ?_)
    rw [Token.all_nil, List.foldl_nil]

end WellFormed

/-- **A path leads to one element**: as long as the element is connected, a query finds no other. -/
theorem WellFormed.eq_of_mem_path (h : doc.WellFormed) {c n : Nat} (hc : doc.isElement c = true)
    (hconnected : doc.isConnected c = true) {nodes : List Nat}
    (hquery : doc.page.queryAll 0 (doc.page.path c) = .ok nodes) (hn : n ∈ nodes) : n = c := by
  have hwhole : doc.page.path c ++ "" = doc.page.path c := String.append_empty
  rw [← hwhole] at hquery
  obtain ⟨rest, hrest, hmatches⟩ := h.matches_of_mem_path hc (by simp) hquery hn
  obtain ⟨helement, hnconnected⟩ := isElement_of_mem_queryAll hquery hn
  obtain rfl : rest = [] := by simpa using hrest
  obtain ⟨sel, hsel, hread⟩ := h.read_path_end hc hconnected
    (String.ofList ((doc.page.path c).toList ++ []))
  rw [Complex.parse, Complex.ofTokens, String.toList_ofList, List.append_nil] at hmatches
  rw [List.append_nil] at hread
  rw [hread] at hmatches
  exact hsel n helement hnconnected hmatches

/--
**A path and more text** match inside of the element that the path leads to, if the text
does not relate siblings and has no comma.
-/
theorem WellFormed.contains_of_mem_path (h : doc.WellFormed) {c n : Nat}
    (hc : doc.isElement c = true) (hconnected : doc.isConnected c = true) {after : String}
    (hcomma : ',' ∉ after.toList) (hsiblings : asksSiblings after.toList = false)
    {nodes : List Nat} (hquery : doc.page.queryAll 0 (doc.page.path c ++ after) = .ok nodes)
    (hn : n ∈ nodes) : doc.contains c n = true := by
  obtain ⟨rest, hrest, hmatches⟩ := h.matches_of_mem_path hc hcomma hquery hn
  obtain ⟨helement, hnconnected⟩ := isElement_of_mem_queryAll hquery hn
  -- The text behind the path does not relate siblings, so that it leads from the path downwards.
  have hfits : Fits ⟨true, true, true, false⟩ rest :=
    Fits.of_part ⟨fun _ => rfl, fun hasks => by simp [hsiblings] at hasks⟩ hrest.isInfix
  obtain ⟨sel, more, hlast, hsel, htokens, hread⟩ := h.read_path_append hc hconnected
    (String.ofList ((doc.page.path c).toList ++ rest)) hfits
  rw [Complex.parse, Complex.ofTokens, String.toList_ofList, hread] at hmatches
  obtain ⟨m, hm, hbase⟩ := ((Grown.start hlast).addAll _ rfl htokens).finish hmatches
  rcases hm with rfl | hm
  · obtain rfl := hsel m helement hnconnected hbase
    exact contains_self m
  · obtain ⟨hmelement, hmn⟩ := of_mem_ancestors hm
    obtain rfl := hsel m hmelement (connected_of_contains hnconnected hmn) hbase
    exact hmn

end Document

end CosmeticFilter
