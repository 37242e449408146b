/-
Matching a part of a text.

An expression that asks nothing about positions matches a text as soon as it matches a part
of it.  For wherever it gets in the part, it gets in the whole text too, only further on: the
characters that it takes are the same.  A test on a position may tell the part from the whole
text, so that this fails for expressions with tests.

The expression of a literal text has no tests, since every character of the text is read as
itself.  It takes one character after the other, so that it matches just those texts that the
literal text is a part of.
-/
import CosmeticFilter.Expression.Argument
import Mathlib.Data.Nat.Bitwise
import Mathlib.Logic.Function.Iterate

namespace CosmeticFilter

open CosmeticFilter.Unicode

/-! ### Positions -/

namespace Positions

theorem testBit_ofFlags (flags : List Bool) (i : Nat) :
    (ofFlags flags).testBit i = flags.getD i false := by
  induction flags generalizing i with
  | nil => simp [ofFlags]
  | cons flag rest ih =>
    rw [ofFlags]
    cases i with
    | zero => cases flag <;> simp
    | succ i =>
      have hhalf : (flag.toNat + 2 * ofFlags rest) / 2 = ofFlags rest := by
        cases flag
        · simp
        · rw [Bool.toNat_true]
          omega
      rw [Nat.testBit_succ, hhalf, ih, List.getD_cons_succ]

/-- The digits of a set of characters are the places of its characters. -/
theorem testBit_ofSet {text : List Char} {set : CodeSet} {i : Nat} :
    (ofSet text set).testBit i = text[i]?.any fun c => set.has c.toNat := by
  rw [ofSet, testBit_ofFlags, List.getD_eq_getElem?_getD, List.getElem?_map]
  cases text[i]? <;> rfl

theorem lt_length_of_testBit {text : List Char} {set : CodeSet} {i : Nat}
    (h : (ofSet text set).testBit i = true) : i < text.length := by
  by_contra hge
  rw [testBit_ofSet, List.getElem?_eq_none (Nat.le_of_not_lt hge)] at h
  exact Bool.false_ne_true h

theorem testBit_upTo {n i : Nat} : (upTo n).testBit i = true ↔ i ≤ n := by
  rw [upTo, Nat.pow_eq, Nat.testBit_two_pow_sub_one, decide_eq_true_iff, Nat.lt_succ_iff]

/-- The positions of the first set are in the second one, further on by this much. -/
def Shifts (offset : Nat) (s s' : Positions) : Prop :=
  ∀ i, s.testBit i = true → s'.testBit (i + offset) = true

variable {offset : Nat} {s s' t t' : Positions}

theorem Shifts.or (h : Shifts offset s s') (h' : Shifts offset t t') :
    Shifts offset (s ||| t) (s' ||| t') := by
  intro i hi
  rw [Nat.testBit_or, Bool.or_eq_true] at hi ⊢
  exact hi.imp (h i) (h' i)

/-- One character further, where the sets have it. -/
theorem Shifts.step (h : Shifts offset s s') (h' : Shifts offset t t') :
    Shifts offset ((s &&& t) <<< 1) ((s' &&& t') <<< 1) := by
  intro i hi
  rw [Nat.testBit_shiftLeft, Nat.testBit_and] at hi ⊢
  simp only [Bool.and_eq_true, decide_eq_true_eq] at hi ⊢
  obtain ⟨hone, hs, ht⟩ := hi
  rw [show i + offset - 1 = i - 1 + offset by omega]
  exact ⟨by omega, h _ hs, h' _ ht⟩

/-- The places of a character in a part of a text are places of it in the text. -/
theorem shifts_ofSet (before text after : List Char) (set : CodeSet) :
    Shifts before.length (ofSet text set) (ofSet (before ++ text ++ after) set) := by
  intro i hi
  have hlt := lt_length_of_testBit hi
  rw [testBit_ofSet] at hi ⊢
  rwa [List.append_assoc, List.getElem?_append_right (Nat.le_add_left _ _), Nat.add_sub_cancel,
    List.getElem?_append_left hlt]

end Positions

/-! ### Expressions without tests -/

namespace Expr

open Positions

/-- The expression asks something about a position. -/
def hasTests {S T : Type} : Expr S T → Bool
  | empty => false
  | one _ => false
  | test _ => true
  | seq a b => a.hasTests || b.hasTests
  | alt a b => a.hasTests || b.hasTests
  | times _ _ body => body.hasTests

/-- An iteration that is cut short gives what the whole iteration gives. -/
theorem iterate_eq (f : Positions → Positions) (n : Nat) (s : Positions) :
    iterate f n s = f^[n] s := by
  induction n generalizing s with
  | zero => rfl
  | succ n ih =>
    rw [iterate, Function.iterate_succ_apply]
    by_cases hfixed : f s = s
    · simp only [if_pos hfixed]
      rw [hfixed, Function.iterate_fixed hfixed]
    · simp only [if_neg hfixed]
      exact ih (f s)

variable {offset : Nat} {f f' : Positions → Positions}

theorem Shifts.iterate (hf : ∀ s s', Shifts offset s s' → Shifts offset (f s) (f' s')) (n : Nat)
    {s s' : Positions} (h : Shifts offset s s') : Shifts offset (f^[n] s) (f'^[n] s') := by
  induction n generalizing s s' with
  | zero => exact h
  | succ n ih =>
    rw [Function.iterate_succ_apply, Function.iterate_succ_apply]
    exact ih (hf s s' h)

/-- Positions that every step adds to are not lost by more of the steps. -/
theorem testBit_iterate_or (g : Positions → Positions) {m n : Nat} (hmn : m ≤ n) (s : Positions)
    {i : Nat} (hi : ((fun s => s ||| g s)^[m] s).testBit i = true) :
    ((fun s => s ||| g s)^[n] s).testBit i = true := by
  induction hmn with
  | refl => exact hi
  | step _ ih =>
    rw [Function.iterate_succ_apply', Nat.testBit_or, ih, Bool.true_or]

/-- **Matches in a part of the text** end in the whole text, further on. -/
theorem shifts_ends (before text after : List Char) (expr : RegexExpr)
    (htests : expr.hasTests = false) {s s' : Positions} (h : Shifts before.length s s') :
    Shifts before.length ((RegexExpr.on text expr).ends text.length s)
      ((RegexExpr.on (before ++ text ++ after) expr).ends (before ++ text ++ after).length s') := by
  induction expr generalizing s s' with
  | empty => exact h
  | one set => exact h.step (shifts_ofSet before text after set)
  | test test => simp [hasTests] at htests
  | seq a b iha ihb =>
    obtain ⟨ha, hb⟩ := Bool.or_eq_false_iff.mp htests
    exact ihb hb (iha ha h)
  | alt a b iha ihb =>
    obtain ⟨ha, hb⟩ := Bool.or_eq_false_iff.mp htests
    exact (iha ha h).or (ihb hb h)
  | times least most body ih =>
    have hbody : ∀ t t', Shifts before.length t t' →
        Shifts before.length ((RegexExpr.on text body).ends text.length t)
          ((RegexExpr.on (before ++ text ++ after) body).ends
            (before ++ text ++ after).length t') :=
      fun t t' ht => ih htests ht
    simp only [RegexExpr.on, Expr.map, ends, iterate_eq] at hbody ⊢
    have hleast := Shifts.iterate hbody least h
    have hmore : ∀ t t', Shifts before.length t t' → Shifts before.length _ _ :=
      fun t t' ht => ht.or (hbody t t' ht)
    cases most with
    | some most => exact Shifts.iterate hmore (most - least) hleast
    | none =>
      -- In the longer text there are more steps, which do no harm.
      intro i hi
      refine testBit_iterate_or _ ?_ _ (Shifts.iterate hmore (text.length + 1) hleast i hi)
      simp only [List.length_append]
      omega

/-- **An expression without tests matches what contains a match of it.** -/
theorem search_of_part {expr : RegexExpr} (htests : expr.hasTests = false)
    {part text : List Char} (hpart : part <:+: text) (h : expr.search part = true) :
    expr.search text = true := by
  obtain ⟨before, after, rfl⟩ := hpart
  rw [RegexExpr.search, bne_iff_ne] at h ⊢
  obtain ⟨i, hi⟩ := Nat.exists_testBit_of_ne_zero h
  have hstart : Shifts before.length (upTo part.length)
      (upTo (before ++ part ++ after).length) := by
    intro j hj
    rw [testBit_upTo] at hj ⊢
    simp only [List.length_append]
    omega
  intro hzero
  have hmore := shifts_ends before part after expr htests hstart i hi
  rw [hzero, Nat.zero_testBit] at hmore
  exact Bool.false_ne_true hmore

end Expr

/-! ### Words -/

namespace Expr

open Positions

/-- Wherever it starts, the expression takes just this word. -/
def Spells (expr : RegexExpr) (word : List Char) : Prop :=
  ∀ text s j, ((RegexExpr.on text expr).ends text.length s).testBit j = true ↔
    ∃ i, s.testBit i = true ∧ word <+: text.drop i ∧ j = i + word.length

theorem spells_empty : Spells .empty [] := by
  intro text s j
  simp [RegexExpr.on, Expr.map, ends]

theorem spells_one (c : Char) : Spells (.one (.only c)) [c] := by
  intro text s j
  have hcode : ∀ d : Char, (CodeSet.only c).has d.toNat = true ↔ d = c := by
    intro d
    have hsame : d.toNat = c.toNat ↔ d = c :=
      ⟨fun h => Char.ext (UInt32.toNat_inj.mp h), fun h => h ▸ rfl⟩
    simp only [CodeSet.only, CodeSet.interval, CodeSet.has, CodeRange.has, List.any_cons,
      List.any_nil, Bool.or_false, Bool.and_eq_true, decide_eq_true_eq, ← hsame]
    omega
  have hplace : ∀ i, (ofSet text (.only c)).testBit i = true ↔ [c] <+: text.drop i := by
    intro i
    rw [testBit_ofSet, Option.any_eq_true, ← List.head?_drop]
    simp only [hcode]
    cases text.drop i with
    | nil => simp
    | cons d rest => simp [List.cons_prefix_cons, eq_comm]
  have hends : ((RegexExpr.on text (.one (.only c))).ends text.length s).testBit j =
      (decide (j ≥ 1) && (s.testBit (j - 1) && (ofSet text (.only c)).testBit (j - 1))) := by
    simp [RegexExpr.on, Expr.map, ends, Nat.testBit_shiftLeft, Nat.testBit_and]
  rw [hends]
  simp only [Bool.and_eq_true, decide_eq_true_eq, hplace, List.length_singleton]
  constructor
  · rintro ⟨hj, hs, hc⟩
    exact ⟨j - 1, hs, hc, by omega⟩
  · rintro ⟨i, hs, hc, rfl⟩
    exact ⟨by omega, hs, hc⟩

theorem Spells.seq {a b : RegexExpr} {first more : List Char} (ha : Spells a first)
    (hb : Spells b more) : Spells (.seq a b) (first ++ more) := by
  intro text s j
  have hends : (RegexExpr.on text (.seq a b)).ends text.length s =
      (RegexExpr.on text b).ends text.length ((RegexExpr.on text a).ends text.length s) := rfl
  rw [hends, hb]
  simp only [ha text s]
  have hsplit : ∀ i, first ++ more <+: text.drop i ↔
      first <+: text.drop i ∧ more <+: text.drop (i + first.length) := by
    intro i
    rw [← List.drop_drop]
    constructor
    · rintro ⟨rest, hrest⟩
      rw [List.append_assoc] at hrest
      refine ⟨⟨more ++ rest, hrest⟩, rest, ?_⟩
      rw [← hrest, List.drop_left]
    · rintro ⟨⟨behind, hbehind⟩, hmore⟩
      rw [← hbehind, List.drop_left] at hmore
      rw [← hbehind]
      exact List.prefix_append_right_inj first |>.mpr hmore
  constructor
  · rintro ⟨_, ⟨i, hs, hfirst, rfl⟩, hmore, rfl⟩
    exact ⟨i, hs, (hsplit i).mpr ⟨hfirst, hmore⟩, by rw [List.length_append]; omega⟩
  · rintro ⟨i, hs, hword, rfl⟩
    obtain ⟨hfirst, hmore⟩ := (hsplit i).mp hword
    exact ⟨_, ⟨i, hs, hfirst, rfl⟩, hmore, by rw [List.length_append]; omega⟩

/-- An expression that takes a word matches the texts that contain the word. -/
theorem Spells.search_iff {expr : RegexExpr} {word : List Char} (h : Spells expr word)
    (text : List Char) : expr.search text = true ↔ word <:+: text := by
  rw [RegexExpr.search, bne_iff_ne, List.infix_iff_prefix_suffix]
  constructor
  · intro hends
    obtain ⟨j, hj⟩ := Nat.exists_testBit_of_ne_zero hends
    obtain ⟨i, -, hword, -⟩ := (h text _ j).mp hj
    exact ⟨_, hword, List.drop_suffix i text⟩
  · rintro ⟨behind, hword, hbehind⟩ hzero
    have hdrop := List.suffix_iff_eq_drop.mp hbehind
    have hstart : (upTo text.length).testBit (text.length - behind.length) = true :=
      testBit_upTo.mpr (Nat.sub_le _ _)
    have hend := (h text (upTo text.length) _).mpr ⟨_, hstart, hdrop ▸ hword, rfl⟩
    rw [hzero, Nat.zero_testBit] at hend
    exact Bool.false_ne_true hend

end Expr

/-! ### Literal texts -/

namespace Regex

/-- A character with a meaning of its own stands for itself after a backslash. -/
theorem readEscape?_of_isMeta (flags : Flags) {c : Char} (hmeta : isMeta c = true)
    (rest : List Char) : readEscape? flags (c :: rest) = some (.char c false, rest) := by
  have hall : ("\\.+*?()|[]\x7b\x7d^$#&-~".toList.all isEscapable) = true := by decide
  have hescapable := List.all_eq_true.mp hall c (List.contains_iff_mem.mp hmeta)
  simp only [readEscape?]
  split
  all_goals first
    | exact absurd hmeta (by decide)
    | rw [if_pos hescapable]

/-- The part that a character in its literal form is read as. -/
def literalPart (flags : Flags) (c : Char) : Part :=
  .ofSet (flags.fold (.only c)) true 0

theorem readPrimitive?_escapeChar {flags : Flags} (hunicode : flags.unicode = true) (c : Char)
    (rest : List Char) :
    readPrimitive? flags (escapeChar c ++ rest) = some (literalPart flags c, rest) := by
  have hliteral : literalPart? flags c false = some (literalPart flags c) := by
    rw [literalPart?, if_pos hunicode, literalPart]
  unfold escapeChar
  by_cases hmeta : isMeta c = true
  · rw [if_pos hmeta]
    simp [readPrimitive?, readEscape?_of_isMeta flags hmeta, atomPart?, hliteral]
  · have hplain : ∀ d, isMeta d = true → c ≠ d := fun d hd heq => hmeta (heq ▸ hd)
    rw [if_neg hmeta, List.singleton_append]
    simp [readPrimitive?, hliteral, hplain '\\' rfl, hplain '.' rfl, hplain '^' rfl,
      hplain '$' rfl]

/-- Its first character does not open a group, nor a repetition. -/
theorem step?_literal (state : State) (hunicode : state.flags.unicode = true) (c : Char)
    (rest : List Char) :
    ∃ first more, escapeChar c ++ rest = first :: more ∧
      state.step? first more =
        some { state with level := state.level.add (literalPart state.flags c), rest := rest } := by
  have hread := readPrimitive?_escapeChar hunicode c rest
  unfold escapeChar at hread ⊢
  by_cases hmeta : isMeta c = true
  · rw [if_pos hmeta] at hread ⊢
    refine ⟨'\\', c :: rest, rfl, ?_⟩
    simp only [List.cons_append, List.nil_append] at hread
    simp [State.step?, hread]
  · rw [if_neg hmeta] at hread ⊢
    refine ⟨c, rest, rfl, ?_⟩
    rw [List.singleton_append] at hread
    unfold State.step?
    split
    all_goals first
      | exact absurd (by decide) hmeta
      | simp [hread]

/-- **Reading literal characters to the end** gives a part for each of them, in order. -/
theorem finish?_literal (text : List Char) {state : State}
    (hunicode : state.flags.unicode = true) (hlayout : state.flags.freeLayout = false)
    (hlevel : state.level.alternatives = []) (hrest : state.rest = text.flatMap escapeChar)
    {part : Part} (h : state.finish? = some part) :
    part = Part.sequence (state.level.parts.reverse ++ text.map (literalPart state.flags)) := by
  induction text generalizing state with
  | nil =>
    rw [State.finish?, Flags.skip, hlayout, hrest] at h
    simp only [Bool.false_eq_true, if_false, List.flatMap_nil] at h
    split at h
    · obtain rfl := Option.some.inj h
      simp [Level.whole, hlevel, Part.choice]
    · simp at h
  | cons c text ih =>
    obtain ⟨first, more, hfirst, hstep⟩ :=
      step?_literal state hunicode c (text.flatMap escapeChar)
    rw [State.finish?, Flags.skip, hlayout, hrest, List.flatMap_cons, hfirst] at h
    simp only [Bool.false_eq_true, if_false, hstep] at h
    split at h
    · refine (ih ?_ ?_ ?_ ?_ h).trans ?_
      · exact hunicode
      · exact hlayout
      · exact hlevel
      · rfl
      · simp [Level.add]
    · simp at h

/-- The expression of a literal text is put together from its characters. -/
theorem expr_literal {argument : String} (h : Argument.slashed? argument.toList = none)
    {regex : Regex} (hregex : Regex.ofText? argument = some regex) :
    regex.expr = (Part.sequence
      (argument.toList.map fun c => Part.ofSet (.only c) true 0)).expr := by
  rw [Regex.ofText?, Argument.textExpression, h] at hregex
  simp only [Regex.compile?, Option.map_eq_some_iff] at hregex
  obtain ⟨expr, hparse, rfl⟩ := hregex
  simp only [parse?, Option.bind_eq_bind, Option.bind_eq_some_iff] at hparse
  obtain ⟨part, hfinish, -, -, hexpr⟩ := hparse
  obtain rfl := Option.some.inj hexpr
  rw [escape, String.toList_ofList] at hfinish
  rw [finish?_literal argument.toList rfl rfl rfl rfl hfinish]
  rfl

theorem Part.hasTests_sequence {parts : List Part}
    (h : ∀ part ∈ parts, part.expr.hasTests = false) :
    (Part.sequence parts).expr.hasTests = false := by
  have hfold : ∀ parts : List Part, (∀ part ∈ parts, part.expr.hasTests = false) →
      (parts.foldr (fun part rest => Expr.seq part.expr rest) Expr.empty).hasTests = false := by
    intro parts hparts
    induction parts with
    | nil => rfl
    | cons part rest ih =>
      obtain ⟨hpart, hrest⟩ := List.forall_mem_cons.mp hparts
      rw [List.foldr_cons, Expr.hasTests, hpart, ih hrest, Bool.or_false]
  match parts with
  | [] => rfl
  | [part] => exact h part (List.mem_singleton_self part)
  | part :: other :: rest => exact hfold (part :: other :: rest) h

/-- Parts for the characters of a word take the word. -/
theorem Part.spells_sequence (word : List Char) :
    Expr.Spells (Part.sequence (word.map fun c => Part.ofSet (.only c) true 0)).expr word := by
  have hfold : ∀ word : List Char, Expr.Spells ((word.map fun c => Part.ofSet (.only c) true 0).foldr
      (fun part rest => Expr.seq part.expr rest) Expr.empty) word := by
    intro word
    induction word with
    | nil => exact Expr.spells_empty
    | cons c rest ih => exact (Expr.spells_one c).seq ih
  match word with
  | [] => exact Expr.spells_empty
  | [c] => exact Expr.spells_one c
  | c :: d :: rest => exact hfold (c :: d :: rest)

/-- **A literal text is read as an expression without tests.** -/
theorem hasTests_literal {argument : String} (h : Argument.slashed? argument.toList = none) :
    (Regex.ofText? argument).any (·.expr.hasTests) = false := by
  rw [Option.any_eq_false]
  intro regex hregex
  rw [expr_literal h hregex]
  have hparts : ∀ part ∈ argument.toList.map fun c => Part.ofSet (.only c) true 0,
      part.expr.hasTests = false :=
    List.forall_mem_map.mpr fun _ _ => rfl
  simp [Part.hasTests_sequence hparts]

/-- **A literal text matches what contains it**, if its expression keeps within the limits. -/
theorem any_isMatch_literal {argument : String} (h : Argument.slashed? argument.toList = none)
    (hcompiles : (Regex.ofText? argument).isSome = true) (text : String) :
    (Regex.ofText? argument).any (·.isMatch text) = true ↔ argument.toList <:+: text.toList := by
  obtain ⟨regex, hregex⟩ := Option.isSome_iff_exists.mp hcompiles
  rw [hregex, Option.any_some, isMatch, expr_literal h hregex]
  exact (Part.spells_sequence argument.toList).search_iff text.toList

end Regex

end CosmeticFilter
