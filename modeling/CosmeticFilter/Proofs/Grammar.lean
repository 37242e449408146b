/-
The grammar of extended selectors.

A text is an extended selector if it is put together from plain stretches and pseudo-classes
between them, and in one way only.  The reader has no such plan of the whole text.  It looks for
the first start of a pseudo-class, wherever that stands, then for the end of its argument, with
an eye on quotes and parentheses, and reads the argument and what follows by themselves.

Both agree because the cuts are forced.  No start of a pseudo-class goes on across the colon of
the next one, so the first start that is found is where the first plain stretch ends.  And the
first closing parenthesis that no opening one answers, outside of quotes, is where a balanced
argument ends, for no balanced argument is the start of another one with such a parenthesis
behind.
-/
import CosmeticFilter.Proofs.Extended
import Mathlib

namespace CosmeticFilter

open SelectorList (Nesting)

/-! ### Names -/

/-- The names of the extended pseudo-classes, in small letters. -/
def PseudoClass.names : PseudoClass → List (List Char)
  | .properties => ["-abp-properties".toList]
  | .has => ["-abp-has".toList, "has".toList]
  | .contains => ["-abp-contains".toList, "has-text".toList]
  | .unknown => []

/-- The text is a name of the pseudo-class, in any letter case. -/
def PseudoClass.IsName (kind : PseudoClass) (name : List Char) : Prop :=
  name.map Char.toLower ∈ kind.names

/-- The names of the extended pseudo-classes, and all others that go on from the reserved start. -/
def IsReservedName (name : List Char) : Prop :=
  (∃ kind : PseudoClass, kind.IsName name) ∨
    (reservedStart <+: name.map Char.toLower ∧
      reservedStart.length < (name.map Char.toLower).length)

theorem PseudoClass.named?_eq_some_iff {kind : PseudoClass} (hkind : kind ≠ .unknown)
    {name : List Char} : PseudoClass.named? name = some kind ↔ kind.IsName name := by
  unfold PseudoClass.named? PseudoClass.IsName
  generalize name.map Char.toLower = small
  constructor
  · intro h
    simp only at h
    split at h
    · cases h
      simp_all [names]
    · split at h
      · cases h
        simp_all [names]
      · split at h
        · cases h
          simp_all [names]
        · split at h
          · cases h
            exact absurd rfl hkind
          · cases h
  · intro h
    cases kind with
    | unknown => exact absurd rfl hkind
    | properties =>
      obtain rfl : small = "-abp-properties".toList := by simpa [names] using h
      decide
    | has =>
      obtain rfl | rfl : small = "-abp-has".toList ∨ small = "has".toList := by
        simpa [names] using h
      · decide
      · decide
    | contains =>
      obtain rfl | rfl : small = "-abp-contains".toList ∨ small = "has-text".toList := by
        simpa [names] using h
      · decide
      · decide

theorem PseudoClass.named?_isSome_iff {name : List Char} :
    (PseudoClass.named? name).isSome = true ↔ IsReservedName name := by
  constructor
  · intro h
    obtain ⟨kind, hkind⟩ := Option.isSome_iff_exists.mp h
    by_cases hunknown : kind = .unknown
    · subst hunknown
      unfold PseudoClass.named? at hkind
      simp only at hkind
      split at hkind
      · cases hkind
      · split at hkind
        · cases hkind
        · split at hkind
          · cases hkind
          · split at hkind
            · rename_i hstart
              exact .inr ⟨List.isPrefixOf_iff_prefix.mp hstart.1, hstart.2⟩
            · cases hkind
    · exact .inl ⟨kind, (named?_eq_some_iff hunknown).mp hkind⟩
  · rintro (⟨kind, hkind⟩ | ⟨hstart, hlonger⟩)
    · have hknown : kind ≠ .unknown := by
        rintro rfl
        exact absurd hkind List.not_mem_nil
      rw [(named?_eq_some_iff hknown).mpr hkind]
      rfl
    · unfold PseudoClass.named?
      simp only [List.isPrefixOf_iff_prefix.mpr hstart, hlonger, and_self, if_true]
      repeat' split
      all_goals rfl

/-- Names have the characters of names only. -/
theorem PseudoClass.IsName.letters {kind : PseudoClass} {name : List Char} (h : kind.IsName name) :
    ∀ c ∈ name, isPseudoChar c = true := by
  intro c hc
  have hnames : (kind.names.all fun small => small.all isPseudoChar) = true := by
    cases kind <;> decide
  have hsmall : isPseudoChar c.toLower = true :=
    List.all_eq_true.mp (List.all_eq_true.mp hnames _ h) _ (List.mem_map_of_mem hc)
  by_cases hupper : c.isUpper = true
  · simp [isPseudoChar, Char.isAlphanum, Char.isAlpha, hupper]
  · rwa [Char.toLower_eq_of_not_isUpper hupper] at hsmall

/-! ### Plain text -/

/-- No extended pseudo-class starts in the text. -/
def IsPlainText (text : List Char) : Prop :=
  ∀ front name back, text = front ++ ':' :: (name ++ '(' :: back) →
    (∀ c ∈ name, isPseudoChar c = true) → ¬ IsReservedName name

theorem pseudoAt?_append {name : List Char} (hletters : ∀ c ∈ name, isPseudoChar c = true)
    (back : List Char) : pseudoAt? (name ++ '(' :: back) =
      (PseudoClass.named? name).map fun kind => ⟨[], kind, name, back⟩ := by
  have hparen : isPseudoChar '(' = false := by decide
  rw [pseudoAt?_eq, List.dropWhile_append_of_pos hletters, List.takeWhile_append_of_pos hletters,
    List.dropWhile_cons_of_neg (by simp [hparen]), List.takeWhile_cons_of_neg (by simp [hparen]),
    List.append_nil]
  rfl

/-- What is found is a reserved name between a colon and a parenthesis. -/
structure FoundPseudo.IsIn (found : FoundPseudo) (cs : List Char) : Prop where
  text : cs = found.before ++ ':' :: (found.name ++ '(' :: found.after)
  letters : ∀ c ∈ found.name, isPseudoChar c = true
  named : PseudoClass.named? found.name = some found.kind
  /-- It is the first one. -/
  first : isExtended found.before = false

theorem isIn_of_pseudoAt? {cs : List Char} {found : FoundPseudo} (h : pseudoAt? cs = some found) :
    found.IsIn (':' :: cs) := by
  rw [pseudoAt?_eq] at h
  split at h
  · rename_i after hdrop
    obtain ⟨kind, hkind, rfl⟩ := Option.map_eq_some_iff.mp h
    refine ⟨?_, fun c hc => List.all_eq_true.mp List.all_takeWhile c hc, hkind, rfl⟩
    rw [← hdrop, List.takeWhile_append_dropWhile]
    rfl
  · cases h

theorem isIn_of_findPseudo? {cs : List Char} {found : FoundPseudo}
    (h : findPseudo? cs = some found) : found.IsIn cs := by
  induction cs generalizing found with
  | nil => cases h
  | cons c rest ih =>
    rw [findPseudo?] at h
    split at h
    · rename_i later hlater
      obtain rfl := Option.some.inj h
      split at hlater
      · rename_i hc
        rw [hc]
        exact isIn_of_pseudoAt? hlater
      · cases hlater
    · rename_i hnone
      obtain ⟨later, hlater, rfl⟩ := Option.map_eq_some_iff.mp h
      have hin := ih hlater
      refine ⟨congrArg (c :: ·) hin.text, hin.letters, hin.named, ?_⟩
      -- No pseudo-class starts at the first character, not even a part of one.
      rw [isExtended_cons, hin.first, Bool.or_false, Bool.and_eq_false_imp, beq_iff_eq]
      intro hc
      rw [if_pos hc, hin.text] at hnone
      have hstop : Stop ':' := ⟨by decide, by decide⟩
      rw [← pseudoAt?_isSome_stop hstop later.before, hnone]
      rfl

theorem isPlainText_iff {text : List Char} : IsPlainText text ↔ isExtended text = false := by
  constructor
  · intro hplain
    rw [Bool.eq_false_iff]
    intro hextended
    obtain ⟨found, hfound⟩ := Option.isSome_iff_exists.mp hextended
    have hin := isIn_of_findPseudo? hfound
    refine hplain _ _ _ hin.text hin.letters (PseudoClass.named?_isSome_iff.mp ?_)
    rw [hin.named]
    rfl
  · rintro hplain front name back rfl hletters hreserved
    rw [isExtended_stop ⟨by decide, by decide⟩, isExtended_cons, pseudoAt?_append hletters,
      Option.isSome_map, PseudoClass.named?_isSome_iff.mpr hreserved] at hplain
    simp at hplain

/-- What stands in front of a pseudo-class and holds none is kept as it is. -/
theorem findPseudo?_append {front back : List Char} {found : FoundPseudo}
    (hfront : isExtended front = false) (hat : pseudoAt? back = some found)
    (hbefore : found.before = []) :
    findPseudo? (front ++ ':' :: back) = some { found with before := front } := by
  have hstop : Stop ':' := ⟨by decide, by decide⟩
  induction front with
  | nil =>
    rw [List.nil_append, findPseudo?, if_pos rfl, hat]
    simp [← hbefore]
  | cons c front ih =>
    rw [isExtended_cons, Bool.or_eq_false_iff] at hfront
    have hnone : (if c = ':' then pseudoAt? (front ++ ':' :: back) else none) = none := by
      split
      · rename_i hc
        have hsame := pseudoAt?_isSome_stop hstop front back
        rw [hc, beq_self_eq_true, Bool.true_and] at hfront
        rw [hfront.1] at hsame
        exact Option.isNone_iff_eq_none.mp (Option.isSome_eq_false_iff.mp hsame)
      · rfl
    rw [List.cons_append, findPseudo?, hnone, ih hfront.2]
    rfl

/-- A pseudo-class is found behind plain text. -/
theorem findPseudo?_named {before name : List Char} {kind : PseudoClass}
    (hbefore : IsPlainText before) (hname : kind.IsName name) (hknown : kind ≠ .unknown)
    (back : List Char) :
    findPseudo? (before ++ ':' :: (name ++ '(' :: back)) = some ⟨before, kind, name, back⟩ := by
  have hat := pseudoAt?_append hname.letters back
  rw [(PseudoClass.named?_eq_some_iff hknown).mpr hname, Option.map_some] at hat
  exact findPseudo?_append (isPlainText_iff.mp hbefore) hat rfl

/-! ### Arguments -/

/--
Where a scan stands at the end of a text that it reads on from `n`.  It comes to no end if a
parenthesis closes the argument, or if a backslash has nothing to take with it.
-/
def argumentEnd? (n : Nesting) : List Char → Option Nesting
  | [] => some n
  | ['\\'] => none
  | '\\' :: _ :: rest => argumentEnd? n rest
  | c :: rest => if c = ')' ∧ n = .top then none else argumentEnd? (n.after c) rest

/-- The text closes all of its quotes and parentheses, and no parenthesis around it. -/
def IsBalanced (text : List Char) : Prop :=
  argumentEnd? .top text = some .top

section Arguments

variable {n : Nesting} {c : Char} {cs rest argument after : List Char}

theorem argumentEnd?_cons (hc : c ≠ '\\') :
    argumentEnd? n (c :: rest) =
      if c = ')' ∧ n = .top then none else argumentEnd? (n.after c) rest := by
  rw [argumentEnd?]
  · exact fun h _ => hc h
  · exact fun _ _ h _ => hc h

theorem closeArgument?_cons (hc : c ≠ '\\') :
    closeArgument? n (c :: rest) =
      if c = ')' ∧ n = .top then some ([], rest)
      else (closeArgument? (n.after c) rest).map fun found => (c :: found.1, found.2) := by
  rw [closeArgument?]
  · exact fun h _ => hc h
  · exact fun _ _ h _ => hc h

/-- What a closing parenthesis ends is balanced. -/
theorem eq_of_closeArgument? (h : closeArgument? n cs = some (argument, after)) :
    argumentEnd? n argument = some .top ∧ cs = argument ++ ')' :: after := by
  fun_induction closeArgument? n cs generalizing argument with
  | case1 => cases h
  | case2 => cases h
  | case3 n c rest ih =>
    obtain ⟨⟨inner, other⟩, hinner, heq⟩ := Option.map_eq_some_iff.mp h
    obtain ⟨rfl, rfl⟩ := Prod.mk.inj heq
    obtain ⟨hend, rfl⟩ := ih hinner
    exact ⟨hend, rfl⟩
  | case4 n c rest _ _ hclose =>
    obtain ⟨rfl, rfl⟩ := Prod.mk.inj (Option.some.inj h)
    obtain ⟨rfl, rfl⟩ := hclose
    exact ⟨rfl, rfl⟩
  | case5 n c rest hlast hpair hopen ih =>
    obtain ⟨⟨inner, other⟩, hinner, heq⟩ := Option.map_eq_some_iff.mp h
    obtain ⟨rfl, rfl⟩ := Prod.mk.inj heq
    obtain ⟨hend, rfl⟩ := ih hinner
    have hc : c ≠ '\\' := by
      rintro rfl
      cases inner with
      | nil => exact hpair _ _ rfl rfl
      | cons => exact hpair _ _ rfl rfl
    exact ⟨by rw [argumentEnd?_cons hc, if_neg hopen, hend], rfl⟩

/-- The first closing parenthesis behind a balanced text ends it. -/
theorem closeArgument?_append (h : argumentEnd? n argument = some .top) (after : List Char) :
    closeArgument? n (argument ++ ')' :: after) = some (argument, after) := by
  fun_induction argumentEnd? n argument with
  | case1 n =>
    obtain rfl := Option.some.inj h
    rfl
  | case2 => cases h
  | case3 n c rest ih =>
    rw [List.cons_append, List.cons_append, closeArgument?, ih h]
    rfl
  | case4 => cases h
  | case5 n c rest hlast hpair hopen ih =>
    have hc : c ≠ '\\' := by
      rintro rfl
      cases rest with
      | nil => exact hlast rfl rfl
      | cons => exact hpair _ _ rfl rfl
    rw [List.cons_append, closeArgument?_cons hc, if_neg hopen, ih h]
    rfl

/-- **An argument ends** behind a balanced text, at the parenthesis that closes it. -/
theorem closeArgument?_eq_some_iff :
    closeArgument? .top cs = some (argument, after) ↔
      IsBalanced argument ∧ cs = argument ++ ')' :: after := by
  constructor
  · exact eq_of_closeArgument?
  · rintro ⟨hbalanced, rfl⟩
    exact closeArgument?_append hbalanced after

/-- Where a balanced text ends is told by what follows. -/
theorem IsBalanced.append_inj {a b : List Char} {x y : List Char} (ha : IsBalanced a)
    (hb : IsBalanced b) (h : a ++ ')' :: x = b ++ ')' :: y) : a = b ∧ x = y := by
  have hclose := closeArgument?_append ha x
  rw [h, closeArgument?_append hb y] at hclose
  obtain ⟨rfl, rfl⟩ := Prod.mk.inj (Option.some.inj hclose)
  exact ⟨rfl, rfl⟩

end Arguments

/-- In front of the name there is plain text, and the argument behind it is balanced. -/
structure PseudoClass.IsSpelt (kind : PseudoClass) (before name argument : List Char) : Prop where
  plain : IsPlainText before
  name : kind.IsName name
  balanced : IsBalanced argument

/-- What is found is spelt so, if its argument is closed. -/
theorem FoundPseudo.IsIn.isSpelt {found : FoundPseudo} {cs argument back : List Char}
    (h : found.IsIn cs) (hknown : found.kind ≠ .unknown)
    (hclose : closeArgument? .top found.after = some (argument, back)) :
    found.kind.IsSpelt found.before found.name argument ∧
      cs = found.before ++ ':' :: (found.name ++ '(' :: (argument ++ ')' :: back)) := by
  obtain ⟨hbalanced, hafter⟩ := closeArgument?_eq_some_iff.mp hclose
  have hname := (PseudoClass.named?_eq_some_iff hknown).mp h.named
  exact ⟨⟨isPlainText_iff.mpr h.first, hname, hbalanced⟩, hafter ▸ h.text⟩

/-! ### Phrases -/

/-- The pseudo-classes whose arguments are expressions. -/
inductive ExpressionClass where
  | properties | contains
  deriving DecidableEq, Repr

namespace ExpressionClass

def kind : ExpressionClass → PseudoClass
  | properties => .properties
  | contains => .contains

theorem kind_ne (kind : ExpressionClass) : kind.kind ≠ .unknown := by
  cases kind <;> simp [ExpressionClass.kind]

/-- The link with the expression that an argument is read as. -/
def link (argument : List Char) : ExpressionClass → Link
  | properties => .properties (Regex.ofStyle? (String.ofList argument))
  | contains => .contains (Regex.ofText? (String.ofList argument))

end ExpressionClass

/--
How an extended selector is put together.  Each pseudo-class has the plain text before it, its
name as it is spelt, its argument, and what comes after it.  An empty text is no plain text.
-/
inductive Phrase where
  | plain (text : List Char)
  | expression (kind : ExpressionClass) (before name argument : List Char) (after : Phrase)
  | has (before name : List Char) (argument after : Phrase)

namespace Phrase

/-- The text that is put together. -/
def text : Phrase → List Char
  | .plain text => text
  | .expression _ before name argument after =>
    before ++ ':' :: (name ++ '(' :: (argument ++ ')' :: after.text))
  | .has before name argument after =>
    before ++ ':' :: (name ++ '(' :: (argument.text ++ ')' :: after.text))

/-- Plain text as a link, if there is any. -/
def plainLinks (text : List Char) : Chain :=
  if text.isEmpty then [] else [.plain (String.ofList text)]

/-- The links that it stands for. -/
def chain : Phrase → Chain
  | .plain text => plainLinks text
  | .expression kind before _ argument after =>
    plainLinks before ++ kind.link argument :: after.chain
  | .has before _ argument after => plainLinks before ++ .has argument.chain :: after.chain

/-- There is nothing but a `contains`. -/
def IsLonelyContains (phrase : Phrase) : Prop :=
  ∃ name argument, phrase = .expression .contains [] name argument (.plain [])

/-- All parts are spelt as they should be, and each `has` has something to look for. -/
def IsCorrect : Phrase → Prop
  | .plain text => IsPlainText text
  | .expression kind before name argument after =>
    kind.kind.IsSpelt before name argument ∧ after.IsCorrect
  | .has before name argument after =>
    PseudoClass.has.IsSpelt before name argument.text ∧
      (argument.IsCorrect ∧ argument.text ≠ [] ∧ ¬ argument.IsLonelyContains) ∧ after.IsCorrect

/-- A selector is put together in this way, and there is more to it than a `contains`. -/
structure Derives (phrase : Phrase) (selector : String) : Prop where
  text : phrase.text = selector.toList
  correct : phrase.IsCorrect
  anchored : ¬ phrase.IsLonelyContains

/-- The pseudo-class that is found first. -/
def opening : Phrase → Option FoundPseudo
  | .plain _ => none
  | .expression kind before name argument after =>
    some ⟨before, kind.kind, name, argument ++ ')' :: after.text⟩
  | .has before name argument after =>
    some ⟨before, .has, name, argument.text ++ ')' :: after.text⟩

/-- **Nothing else is found first.** -/
theorem IsCorrect.findPseudo? {phrase : Phrase} (h : phrase.IsCorrect) :
    findPseudo? phrase.text = phrase.opening := by
  cases phrase with
  | plain text =>
    have hplain := isPlainText_iff.mp h
    rwa [isExtended, Option.isSome_eq_false_iff, Option.isNone_iff_eq_none] at hplain
  | expression kind before name argument after =>
    exact findPseudo?_named h.1.plain h.1.name kind.kind_ne _
  | has before name argument after => exact findPseudo?_named h.1.plain h.1.name (by simp) _

theorem plainLinks_eq_nil_iff {text : List Char} : plainLinks text = [] ↔ text = [] := by
  cases text <;> simp [plainLinks]

/-- Only an empty text has no links. -/
theorem chain_eq_nil_iff {phrase : Phrase} : phrase.chain = [] ↔ phrase.text = [] := by
  cases phrase with
  | plain text => exact plainLinks_eq_nil_iff
  | _ => simp [chain, text]

theorem isLonelyContains_chain {phrase : Phrase} :
    phrase.chain.isLonelyContains = true ↔ phrase.IsLonelyContains := by
  cases phrase with
  | plain text => cases text <;> simp [chain, plainLinks, Chain.isLonelyContains, IsLonelyContains]
  | expression kind before name argument after =>
    have hafter : after.chain = [] ↔ after = .plain [] := by
      rw [chain_eq_nil_iff]
      cases after <;> simp [text]
    simp only [IsLonelyContains, expression.injEq, exists_and_left, ← hafter]
    cases before with
    | cons => simp [chain, plainLinks, Chain.isLonelyContains]
    | nil =>
      simp only [chain, plainLinks, List.isEmpty_nil, if_true, List.nil_append]
      cases kind <;> cases after.chain <;> simp [Chain.isLonelyContains, ExpressionClass.link]
  | has before => cases before <;> simp [chain, plainLinks, Chain.isLonelyContains, IsLonelyContains]

end Phrase

/-! ### Reading -/

namespace Reading

variable {rest : Reading} {links : Chain}

theorem links_cons_iff {link : Link} :
    (rest.cons link).links = .ok links ↔ ∃ tail, rest.links = .ok tail ∧ links = link :: tail := by
  rw [cons]
  cases rest.links with
  | error e => simp [Except.map]
  | ok tail => simp [Except.map, eq_comm]

theorem links_consExpression_iff {make : Option Regex → Link} {source : String}
    {expression : Option Regex} :
    (rest.consExpression make source expression).links = .ok links ↔
      ∃ tail, rest.links = .ok tail ∧ links = make expression :: tail := by
  unfold consExpression
  split <;> exact links_cons_iff

/-- Links behind plain text have this text in front, if there is any. -/
theorem links_consPlain_iff {text : List Char} :
    (rest.consPlain text).links = .ok links ↔
      ∃ tail, rest.links = .ok tail ∧ links = Phrase.plainLinks text ++ tail := by
  unfold consPlain Phrase.plainLinks
  split
  · simp
  · exact links_cons_iff

end Reading

namespace Phrase

/-- **What is put together is read.** -/
theorem links_of_correct (selector : String) {cs : List Char} {phrase : Phrase}
    (h : phrase.IsCorrect) (htext : phrase.text = cs) :
    (readLinks selector cs).links = .ok phrase.chain := by
  fun_induction readLinks selector cs generalizing phrase with
  | case1 cs hempty =>
    rw [chain_eq_nil_iff.mpr (htext.trans (List.isEmpty_iff.mp hempty))]
    rfl
  | case2 cs hempty hnone =>
    rw [← htext, h.findPseudo?] at hnone
    cases phrase with
    | plain text =>
      obtain rfl : text = cs := htext
      rw [chain, plainLinks, if_neg hempty]
      rfl
    | _ => cases hnone
  | case3 cs hempty found hfound ihafter ihargument =>
    rw [← htext, h.findPseudo?] at hfound
    cases phrase with
    | plain => cases hfound
    | expression kind before name argument after =>
      obtain rfl := Option.some.inj hfound
      obtain ⟨hspelt, hafter⟩ := h
      have hclose := closeArgument?_append hspelt.balanced after.text
      have hrest := ihafter _ _ hclose hafter rfl
      refine Reading.links_consPlain_iff.mpr ⟨_, ?_, rfl⟩
      split
      · simp [hclose] at *
      · rename_i text back hfind
        obtain ⟨rfl, rfl⟩ := Prod.mk.inj (Option.some.inj (hclose.symm.trans hfind))
        cases kind with
        | properties => exact Reading.links_consExpression_iff.mpr ⟨_, hrest, rfl⟩
        | contains => exact Reading.links_consExpression_iff.mpr ⟨_, hrest, rfl⟩
    | has before name argument after =>
      obtain rfl := Option.some.inj hfound
      obtain ⟨hspelt, ⟨hargument, hfilled, hanchored⟩, hafter⟩ := h
      have hclose := closeArgument?_append hspelt.balanced after.text
      refine Reading.links_consPlain_iff.mpr ⟨_, ?_, rfl⟩
      split
      · simp [hclose] at *
      · rename_i text back hfind
        obtain ⟨rfl, rfl⟩ := Prod.mk.inj (Option.some.inj (hclose.symm.trans hfind))
        have hinner := ihargument _ _ hclose hargument rfl
        have hnotNil : argument.chain ≠ [] := mt chain_eq_nil_iff.mp hfilled
        have hnotLonely : ¬ argument.chain.isLonelyContains = true :=
          mt isLonelyContains_chain.mp hanchored
        simp only [hinner, List.isEmpty_iff, if_neg hnotNil, if_neg hnotLonely]
        exact Reading.links_cons_iff.mpr ⟨_, ihafter _ _ hclose hafter rfl, rfl⟩

/-- With a pseudo-class in front that has an expression, a phrase is a longer one. -/
theorem exists_of_expression (kind : ExpressionClass) {found : FoundPseudo}
    {cs argument back : List Char} {rest : Chain} (hin : found.IsIn cs)
    (hkind : found.kind = kind.kind)
    (hclose : closeArgument? .top found.after = some (argument, back))
    (h : ∃ after : Phrase, after.IsCorrect ∧ after.text = back ∧ after.chain = rest) :
    ∃ phrase : Phrase, phrase.IsCorrect ∧ phrase.text = cs ∧
      phrase.chain = plainLinks found.before ++ kind.link argument :: rest := by
  obtain ⟨after, hcorrect, rfl, rfl⟩ := h
  obtain ⟨hspelt, htext⟩ := hin.isSpelt (hkind ▸ kind.kind_ne) hclose
  rw [hkind] at hspelt
  exact ⟨.expression kind found.before found.name argument after,
    ⟨hspelt, hcorrect⟩, htext.symm, rfl⟩

/-- **What is read is put together.** -/
theorem exists_of_links {selector : String} {cs : List Char} {links : Chain}
    (h : (readLinks selector cs).links = .ok links) :
    ∃ phrase : Phrase, phrase.IsCorrect ∧ phrase.text = cs ∧ phrase.chain = links := by
  fun_induction readLinks selector cs generalizing links with
  | case1 cs hempty =>
    obtain rfl := List.isEmpty_iff.mp hempty
    exact ⟨.plain [], isPlainText_iff.mpr rfl, rfl, Except.ok.inj h⟩
  | case2 cs hempty hnone =>
    refine ⟨.plain cs, isPlainText_iff.mpr (by simp [isExtended, hnone]), rfl, ?_⟩
    rw [chain, plainLinks, if_neg hempty]
    exact Except.ok.inj h
  | case3 cs hempty found hfound ihafter ihargument =>
    have hin := isIn_of_findPseudo? hfound
    obtain ⟨tail, htail, rfl⟩ := Reading.links_consPlain_iff.mp h
    split at htail
    · cases htail
    · rename_i argument back hclose
      split at htail
      · cases htail
      · rename_i hkind
        obtain ⟨rest, hrest, rfl⟩ := Reading.links_consExpression_iff.mp htail
        exact exists_of_expression .properties hin hkind hclose
          (ihafter argument back hclose hrest)
      · rename_i hkind
        obtain ⟨rest, hrest, rfl⟩ := Reading.links_consExpression_iff.mp htail
        exact exists_of_expression .contains hin hkind hclose
          (ihafter argument back hclose hrest)
      · rename_i hkind
        obtain ⟨hspelt, htext⟩ := hin.isSpelt (by simp [hkind]) hclose
        rw [hkind] at hspelt
        simp only at htail
        split at htail
        · rename_i e herror
          simp [herror] at htail
        · rename_i inner hinner
          split at htail
          · cases htail
          · rename_i hfilled
            split at htail
            · cases htail
            · rename_i hanchored
              obtain ⟨rest, hrest, rfl⟩ := Reading.links_cons_iff.mp htail
              obtain ⟨argument, hargument, rfl, rfl⟩ := ihargument argument back hclose hinner
              obtain ⟨after, hcorrect, rfl, rfl⟩ := ihafter argument.text back hclose hrest
              refine ⟨.has found.before found.name argument after,
                ⟨hspelt, ⟨hargument, ?_, ?_⟩, hcorrect⟩, htext.symm, rfl⟩
              · exact mt chain_eq_nil_iff.mpr (by simpa using hfilled)
              · exact mt isLonelyContains_chain.mpr hanchored

/-! ### One way only -/

theorem opening_eq_of_text_eq {a b : Phrase} (ha : a.IsCorrect) (hb : b.IsCorrect)
    (htext : a.text = b.text) : a.opening = b.opening := by
  rw [← ha.findPseudo?, ← hb.findPseudo?, htext]

/-- **No text is put together in two ways.** -/
theorem eq_of_text_eq {a b : Phrase} (ha : a.IsCorrect) (hb : b.IsCorrect)
    (htext : a.text = b.text) : a = b := by
  have hopening := opening_eq_of_text_eq ha hb htext
  induction a generalizing b with
  | plain text =>
    cases b with
    | plain other => exact congrArg _ htext
    | _ => cases hopening
  | expression kind before name argument after ih =>
    cases b with
    | plain => cases hopening
    | expression other =>
      obtain ⟨rfl, hkind, rfl, hrest⟩ := FoundPseudo.mk.inj (Option.some.inj hopening)
      obtain ⟨rfl, hafter⟩ := ha.1.balanced.append_inj hb.1.balanced hrest
      have hkinds : kind = other := by
        cases kind <;> cases other <;> first | rfl | cases hkind
      rw [hkinds, ih ha.2 hb.2 hafter (opening_eq_of_text_eq ha.2 hb.2 hafter)]
    | has => cases kind <;> cases hopening
  | has before name argument after ihargument ih =>
    cases b with
    | plain => cases hopening
    | expression other => cases other <;> cases hopening
    | has =>
      obtain ⟨rfl, -, rfl, hrest⟩ := FoundPseudo.mk.inj (Option.some.inj hopening)
      obtain ⟨hspelt, ⟨hinner, -⟩, hback⟩ := ha
      obtain ⟨hspelt', ⟨hinner', -⟩, hback'⟩ := hb
      obtain ⟨hargument, hafter⟩ := hspelt.balanced.append_inj hspelt'.balanced hrest
      rw [ihargument hinner hinner' hargument (opening_eq_of_text_eq hinner hinner' hargument),
        ih hback hback' hafter (opening_eq_of_text_eq hback hback' hafter)]

end Phrase

namespace Chain

/-- A selector has a chain if its links can be read and are more than a `contains`. -/
theorem parse_eq_ok_iff_links {selector : String} {chain : Chain} :
    Chain.parse selector = .ok chain ↔
      (readLinks selector selector.toList).links = .ok chain ∧
        ¬ chain.isLonelyContains = true := by
  unfold Chain.parse Chain.read
  cases hlinks : (readLinks selector selector.toList).links with
  | error e => simp [hlinks]
  | ok links =>
    by_cases hlonely : links.isLonelyContains = true
    · simp only [hlinks, if_pos hlonely, Except.ok.injEq]
      constructor
      · rintro ⟨⟩
      · rintro ⟨rfl, hanchored⟩
        exact absurd hlonely hanchored
    · simp only [hlinks, if_neg hlonely, Except.ok.injEq]
      constructor
      · rintro rfl
        exact ⟨rfl, hlonely⟩
      · exact And.left

theorem parse_of_derives {phrase : Phrase} {selector : String} (h : phrase.Derives selector) :
    Chain.parse selector = .ok phrase.chain :=
  parse_eq_ok_iff_links.mpr ⟨Phrase.links_of_correct selector h.correct h.text,
    mt Phrase.isLonelyContains_chain.mp h.anchored⟩

theorem exists_derives {selector : String} {chain : Chain}
    (h : Chain.parse selector = .ok chain) :
    ∃ phrase : Phrase, phrase.Derives selector ∧ phrase.chain = chain := by
  obtain ⟨hlinks, hanchored⟩ := parse_eq_ok_iff_links.mp h
  obtain ⟨phrase, hcorrect, htext, rfl⟩ := Phrase.exists_of_links hlinks
  exact ⟨phrase, ⟨htext, hcorrect, mt Phrase.isLonelyContains_chain.mpr hanchored⟩, rfl⟩

/--
**The reader of extended selectors accepts just its grammar.**  A text is read as a chain if and
only if it is put together from plain texts and pseudo-classes whose links are this chain.
It is put together in one way at most.
-/
theorem parse_derives (selector : String) :
    (∀ chain, Chain.parse selector = .ok chain ↔
      ∃ phrase : Phrase, phrase.Derives selector ∧ phrase.chain = chain) ∧
    {phrase : Phrase | phrase.Derives selector}.Subsingleton := by
  refine ⟨fun chain => ⟨exists_derives, ?_⟩, fun a ha b hb => ?_⟩
  · rintro ⟨phrase, hderives, rfl⟩
    exact parse_of_derives hderives
  · exact Phrase.eq_of_text_eq ha.correct hb.correct (ha.text.trans hb.text.symm)

end Chain

end CosmeticFilter
