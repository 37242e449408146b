/-
Wildcard expressions mean what they say token by token.

Of a text in wildcard syntax one can write down an expression one token after the other: a star
is `.*`, a caret the separators, a bar at an end the anchor there, and everything else itself.
The expression that is used has fewer stars.  Stars in a row are one, and where a match need not
start at an anchor, or end at one, there are no stars at that end.

That this makes no difference is an argument about the positions that a search gets to.  Both
expressions are read as sequences of parts, and a sequence takes the positions from part to part.
A star spreads each position over the characters behind it, up to the next line.  To spread again
adds nothing; to spread positions that are everywhere adds nothing either; and nothing is lost by
spreading, so that a star at the end decides nothing.
-/
import CosmeticFilter.Proofs.Pieces
import Mathlib.Data.List.Induction

namespace CosmeticFilter

open CosmeticFilter.Unicode

/-! ### Spreading -/

namespace Positions

/-- The positions with those behind one more character of a set. -/
def spread (places s : Positions) : Positions :=
  s ||| ((s &&& places) <<< 1)

/-- Positions spread over so many characters in a row that all belong to the set. -/
theorem testBit_iterate_spread (places s : Positions) (m j : Nat) :
    ((spread places)^[m] s).testBit j = true ↔
      ∃ i, i ≤ j ∧ j ≤ i + m ∧ s.testBit i = true ∧
        ∀ k, i ≤ k → k < j → places.testBit k = true := by
  induction m generalizing j with
  | zero =>
    constructor
    · intro hj
      exact ⟨j, Nat.le_refl j, Nat.le_refl j, hj, fun k _ _ => by omega⟩
    · rintro ⟨i, hij, hji, hi, -⟩
      obtain rfl : i = j := by omega
      exact hi
  | succ m ih =>
    have hstep : ((spread places)^[m + 1] s).testBit j = true ↔
        ((spread places)^[m] s).testBit j = true ∨
          (1 ≤ j ∧ ((spread places)^[m] s).testBit (j - 1) = true ∧
            places.testBit (j - 1) = true) := by
      rw [Function.iterate_succ_apply', spread]
      simp [Nat.testBit_or, Nat.testBit_shiftLeft, Nat.testBit_and]
    rw [hstep, ih, ih]
    constructor
    · rintro (⟨i, hij, hji, hi, hall⟩ | ⟨hone, ⟨i, hij, hji, hi, hall⟩, hlast⟩)
      · exact ⟨i, hij, by omega, hi, hall⟩
      · refine ⟨i, by omega, by omega, hi, fun k hik hkj => ?_⟩
        by_cases hk : k = j - 1
        · exact hk ▸ hlast
        · exact hall k hik (by omega)
    · rintro ⟨i, hij, hji, hi, hall⟩
      by_cases heq : i = j
      · exact .inl ⟨i, hij, by omega, hi, hall⟩
      · refine .inr ⟨by omega, ⟨i, by omega, by omega, hi, fun k hik hkj => ?_⟩, ?_⟩
        · exact hall k hik (by omega)
        · exact hall (j - 1) (by omega) (by omega)

/-- The positions that a run of characters of a set leads to from these. -/
def runs (text : List Char) (set : CodeSet) (s : Positions) : Positions :=
  (spread (ofSet text set))^[text.length + 1] s

variable {text : List Char} {set : CodeSet} {s : Positions}

theorem testBit_runs {j : Nat} : (runs text set s).testBit j = true ↔
    ∃ i, i ≤ j ∧ s.testBit i = true ∧
      ∀ k, i ≤ k → k < j → (ofSet text set).testBit k = true := by
  rw [runs, testBit_iterate_spread]
  constructor
  · rintro ⟨i, hij, -, hi, hall⟩
    exact ⟨i, hij, hi, hall⟩
  · rintro ⟨i, hij, hi, hall⟩
    refine ⟨i, hij, ?_, hi, hall⟩
    by_contra hfar
    -- The last character of the run lies in the text.
    have hlast := lt_length_of_testBit (hall (j - 1) (by omega) (by omega))
    omega

/-- A run behind a run is a run. -/
theorem runs_runs : runs text set (runs text set s) = runs text set s := by
  refine Nat.eq_of_testBit_eq fun j => Bool.eq_iff_iff.mpr ?_
  simp only [testBit_runs]
  constructor
  · rintro ⟨i, hij, ⟨start, hstart, hs, hfirst⟩, hall⟩
    refine ⟨start, by omega, hs, fun k hk hkj => ?_⟩
    by_cases hki : k < i
    · exact hfirst k hk hki
    · exact hall k (by omega) hkj
  · rintro ⟨i, hij, hs, hall⟩
    exact ⟨i, hij, ⟨i, Nat.le_refl i, hs, fun k _ _ => by omega⟩, hall⟩

/-- From everywhere, runs lead nowhere else. -/
theorem runs_upTo : runs text set (upTo text.length) = upTo text.length := by
  refine Nat.eq_of_testBit_eq fun j => Bool.eq_iff_iff.mpr ?_
  simp only [testBit_runs, testBit_upTo]
  constructor
  · rintro ⟨i, hij, hi, hall⟩
    by_contra hfar
    have hlast := lt_length_of_testBit (hall (j - 1) (by omega) (by omega))
    omega
  · intro hj
    exact ⟨j, Nat.le_refl j, hj, fun k _ _ => by omega⟩

/-- No position is lost. -/
theorem runs_eq_zero_iff : runs text set s = 0 ↔ s = 0 := by
  constructor
  · intro hzero
    refine Nat.eq_of_testBit_eq fun j => Bool.eq_iff_iff.mpr ?_
    rw [Nat.zero_testBit]
    refine iff_of_false (fun hs => ?_) Bool.false_ne_true
    have hruns : (runs text set s).testBit j = true :=
      testBit_runs.mpr ⟨j, Nat.le_refl j, hs, fun k _ _ => by omega⟩
    rw [hzero, Nat.zero_testBit] at hruns
    exact Bool.false_ne_true hruns
  · rintro rfl
    refine Nat.eq_of_testBit_eq fun j => Bool.eq_iff_iff.mpr ?_
    simp [testBit_runs]

end Positions

/-! ### From part to part -/

namespace Regex

/-- The positions that the parts lead to, one after the other. -/
def reach (text : List Char) (parts : List Part) (s : Positions) : Positions :=
  parts.foldl (fun s part => (RegexExpr.on text part.expr).ends text.length s) s

theorem reach_append (text : List Char) (first second : List Part) (s : Positions) :
    reach text (first ++ second) s = reach text second (reach text first s) :=
  List.foldl_append

/-- A sequence leads where its parts lead. -/
theorem ends_sequence (text : List Char) (parts : List Part) (s : Positions) :
    (RegexExpr.on text (Part.sequence parts).expr).ends text.length s = reach text parts s := by
  have hfold : ∀ (parts : List Part) (s : Positions),
      (RegexExpr.on text (parts.foldr (fun part rest => Expr.seq part.expr rest) Expr.empty)).ends
        text.length s = reach text parts s := by
    intro parts
    induction parts with
    | nil => exact fun _ => rfl
    | cons part rest ih => exact fun s => ih _
  match parts with
  | [] => rfl
  | [part] => rfl
  | part :: other :: rest => exact hfold (part :: other :: rest) s

theorem search_sequence (text : List Char) (parts : List Part) :
    (Part.sequence parts).expr.search text =
      (reach text parts (Positions.upTo text.length) != 0) := by
  rw [RegexExpr.search, ends_sequence]

/-- What a source is read as, however large its automaton would be. -/
def read? (flags : Flags) (source : String) : Option Part :=
  State.finish? ⟨flags, .empty, [], [], 0, source.toList⟩

/-- A text that is read as parts is their sequence. -/
theorem read?_of_readsApart {flags : Flags} (h : flags.Usual) {source : String}
    {parts : List Part} (hreads : ReadsApart flags source.toList parts) :
    read? flags source = some (Part.sequence parts) := by
  rw [read?, hreads ⟨flags, .empty, [], [], 0, source.toList⟩ [] rfl (by simp) (by simp),
    State.finish?]
  simp [State.behind, h.skip, Level.empty, Level.whole, Part.choice]

/-- Compiling keeps the meaning. -/
theorem expr_of_compile? {source : String} {caseless multiLine : Bool} {part : Part}
    {regex : Regex} (hread : read? (startFlags caseless multiLine) source = some part)
    (hcompile : compile? source caseless multiLine = some regex) : regex.expr = part.expr := by
  rw [compile?, parse?, ← read?, hread] at hcompile
  simp only [Option.map_eq_some_iff, Option.bind_eq_bind, Option.bind_some,
    Option.bind_eq_some_iff] at hcompile
  obtain ⟨expr, ⟨-, -, hexpr⟩, rfl⟩ := hcompile
  exact (Option.some.inj hexpr).symm

end Regex

/-! ### Wildcard expressions as parts -/

namespace Wildcard

open CosmeticFilter.Regex

variable {flags : Flags}

/-- Any text up to the end of its line. -/
def starPart (flags : Flags) : Part :=
  .repetition 0 none (!flags.lazyFirst) (.ofSet (anyChar flags) true 0)

/-- The part of one character of the body, given that of a separator. -/
def charPart (flags : Flags) (separator : Part) : Char → Part
  | '*' => starPart flags
  | '^' => separator
  | c => literalPart flags c

/-- The parts of the anchor at the start, given those of a domain. -/
def startParts (flags : Flags) (domain : List Part) : Option StartAnchor → List Part
  | some .domain => domain
  | some .text => [.ofTest (startTest flags)]
  | none => []

def endParts (flags : Flags) (toEnd : Bool) : List Part :=
  if toEnd then [.ofTest (endTest flags)] else []

def parts (flags : Flags) (separator : Part) (domain : List Part) (w : Wildcard) : List Part :=
  startParts flags domain w.start ++
    (w.body.map (charPart flags separator) ++ endParts flags w.toEnd)

theorem ends_starPart (text : List Char) (s : Positions) :
    (RegexExpr.on text (starPart flags).expr).ends text.length s =
      Positions.runs text (anyChar flags) s := by
  simp only [starPart, Part.repetition, Part.ofSet, RegexExpr.on, Expr.map, Expr.ends,
    Expr.iterate_eq, Function.iterate_zero_apply]
  rfl

section Reading

variable (h : flags.Usual)

include h

theorem reads_separator : ∃ separator, Reads flags separatorSource.toList [separator] := by
  obtain ⟨set, height, hbracket⟩ := readBracket?_separator h
  exact ⟨_, reads_choice h (reads_bracket h hbracket) (reads_end h)⟩

theorem reads_domain : ∃ domain, ReadsApart flags domainSource.toList domain := by
  have hplus : ∀ (state : State) (rest : List Char),
      state.step? '+' rest = state.repeat? 1 none rest := fun _ _ => rfl
  have hoption : ∀ (state : State) (rest : List Char),
      state.step? '?' rest = state.repeat? 0 (some 1) rest := fun _ _ => rfl
  obtain ⟨word, height, hword⟩ := readBracket?_word h
  obtain ⟨noSlash, depth, hnoSlash⟩ := readBracket?_noSlash h
  have hscheme := (reads_bracket h hword).repeated h rfl hplus
  have hslashes := (reads_literal h '/').repeated h rfl hplus
  have hlabel := (reads_bracket h hnoSlash).repeated h rfl hplus
  have hlabels := ((reads_group h (hlabel.append (reads_literal h '.').apart (by decide))).repeated h
    rfl hoption)
  have hall := (reads_start h).apart.append (hscheme.append ((reads_literal h ':').apart.append
    (hslashes.append hlabels (by decide)) (by decide)) (by decide)) (by decide)
  exact ⟨_, hall⟩

variable {separator : Part} {domain : List Part}

theorem reads_charSource (hseparator : Reads flags separatorSource.toList [separator]) (c : Char) :
    ReadsApart flags (charSource c) [charPart flags separator c] := by
  unfold charSource
  split
  · exact (reads_dot h).repeated h rfl fun _ _ => rfl
  · exact hseparator.apart
  · rename_i hstar hcaret
    rw [charPart]
    · exact (reads_literal h c).apart
    · exact hstar
    · exact hcaret

omit h in
/-- No character of the body is translated to something that starts with a question mark. -/
theorem head_charSource (c : Char) (rest : List Char) :
    (charSource c ++ rest).head? ≠ some '?' := by
  unfold charSource
  split
  · simp
  · simp [separatorSource]
  · unfold escapeChar
    split
    · simp
    · rename_i hmeta
      rintro hhead
      obtain rfl : c = '?' := Option.some.inj hhead
      exact hmeta rfl

theorem reads_body (hseparator : Reads flags separatorSource.toList [separator])
    (body : List Char) {text : List Char} {others : List Part}
    (htext : ReadsApart flags text others) (hhead : text.head? ≠ some '?') :
    ReadsApart flags (body.flatMap charSource ++ text)
      (body.map (charPart flags separator) ++ others) := by
  induction body with
  | nil => exact htext
  | cons c rest ih =>
    rw [List.flatMap_cons, List.append_assoc, List.map_cons, List.cons_append]
    refine (reads_charSource h hseparator c).append ih ?_
    cases rest with
    | nil => exact hhead
    | cons d rest =>
      rw [List.flatMap_cons, List.append_assoc]
      exact head_charSource d _

/-- The source of a wildcard expression is read as its parts. -/
theorem reads_source (hseparator : Reads flags separatorSource.toList [separator])
    (hdomain : ReadsApart flags domainSource.toList domain) (w : Wildcard) :
    ReadsApart flags w.source (w.parts flags separator domain) := by
  have hstart : ∀ start : Option StartAnchor,
      ReadsApart flags (startSource start) (startParts flags domain start)
    | some .domain => hdomain
    | some .text => (reads_start h).apart
    | none => readsApart_nil
  have hend : ReadsApart flags (if w.toEnd then ['$'] else []) (endParts flags w.toEnd) := by
    unfold endParts
    split
    · exact (reads_end h).apart
    · exact readsApart_nil
  have hendHead : (if w.toEnd then ['$'] else []).head? ≠ some '?' := by
    split <;> simp
  rw [source, parts, List.append_assoc]
  refine (hstart w.start).append (reads_body h hseparator w.body hend hendHead) ?_
  cases w.body with
  | nil => exact hendHead
  | cons c rest =>
    rw [List.flatMap_cons, List.append_assoc]
    exact head_charSource c _

end Reading

/-! ### Stars that change nothing -/

section Stars

variable (text : List Char) (separator : Part) (s : Positions)

/-- The positions that the characters of the body lead to. -/
def reachBody (flags : Flags) (separator : Part) (text : List Char) (body : List Char)
    (s : Positions) : Positions :=
  reach text (body.map (charPart flags separator)) s

theorem reachBody_star (rest : List Char) :
    reachBody flags separator text ('*' :: rest) s =
      reachBody flags separator text rest (Positions.runs text (anyChar flags) s) := by
  rw [← ends_starPart]
  rfl

theorem reachBody_collapse (body : List Char) :
    reachBody flags separator text (collapse body) s = reachBody flags separator text body s := by
  fun_induction collapse body generalizing s with
  | case1 rest ih => rw [ih, reachBody_star, reachBody_star, reachBody_star, Positions.runs_runs]
  | case2 c rest _ ih => exact ih _
  | case3 => rfl

/-- From everywhere, stars lead nowhere else. -/
theorem reachBody_dropStars (body : List Char) :
    reachBody flags separator text (dropStars body) (Positions.upTo text.length) =
      reachBody flags separator text body (Positions.upTo text.length) := by
  induction body with
  | nil => rfl
  | cons c rest ih =>
    by_cases hstar : c = '*'
    · rw [hstar, reachBody_star, Positions.runs_upTo, ← ih]
      rfl
    · rw [dropStars, List.dropWhile_cons_of_neg (by simpa using hstar)]

/-- Stars at the end lead somewhere as soon as what is before them does. -/
theorem reachBody_dropStars_end (body : List Char) :
    reachBody flags separator text (dropStars body.reverse).reverse s = 0 ↔
      reachBody flags separator text body s = 0 := by
  induction body using List.reverseRecOn with
  | nil => rfl
  | append_singleton front c ih =>
    by_cases hstar : c = '*'
    · have hlast : reachBody flags separator text (front ++ [c]) s =
          Positions.runs text (anyChar flags) (reachBody flags separator text front s) := by
        rw [hstar, reachBody, List.map_append, reach_append, ← reachBody, ← ends_starPart]
        rfl
      rw [hlast, Positions.runs_eq_zero_iff, ← ih, List.reverse_concat, hstar]
      rfl
    · rw [List.reverse_concat, dropStars, List.dropWhile_cons_of_neg (by simpa using hstar),
        List.reverse_cons, List.reverse_reverse]

end Stars

/-- **What is simplified away changes no search.** -/
theorem search_simplify (flags : Flags) (separator : Part) (domain : List Part) (w : Wildcard)
    (text : List Char) :
    (Part.sequence (w.simplify.parts flags separator domain)).expr.search text =
      (Part.sequence (w.parts flags separator domain)).expr.search text := by
  obtain ⟨start, body, toEnd⟩ := w
  let everywhere := Positions.upTo text.length
  let started := reach text (startParts flags domain start) everywhere
  let front := if start.isNone then dropStars (collapse body) else collapse body
  have hfront : reachBody flags separator text front started =
      reachBody flags separator text body started := by
    rw [← reachBody_collapse text separator started body]
    cases start with
    | none => exact reachBody_dropStars text separator (collapse body)
    | some anchor => rfl
  have hsearch : ∀ body,
      (Part.sequence (parts flags separator domain ⟨start, body, toEnd⟩)).expr.search text =
        (reach text (endParts flags toEnd) (reachBody flags separator text body started) != 0) := by
    intro body
    rw [search_sequence, parts, reach_append, reach_append]
    rfl
  have hsimplify : (⟨start, body, toEnd⟩ : Wildcard).simplify =
      ⟨start, if toEnd then front else (dropStars front.reverse).reverse, toEnd⟩ := rfl
  rw [hsimplify, hsearch, hsearch, ← hfront]
  cases toEnd with
  | true => rfl
  | false =>
    rw [Bool.eq_iff_iff, bne_iff_ne, bne_iff_ne]
    exact not_congr (reachBody_dropStars_end text separator started front)

end Wildcard

/-! ### Token by token -/

/-- What stands behind the anchor at the start; a bar at the very end is the anchor there. -/
def tokenSource : List Char → List Char
  | [] => []
  | ['|'] => ['$']
  | c :: rest => Wildcard.charSource c ++ tokenSource rest

/--
The expression of a text in wildcard syntax, token by token.  A caret with a bar at the end is a
caret.
-/
def plainSource (text : String) : String :=
  let cs := text.toList
  let cs := if ['^', '|'].isSuffixOf cs then cs.dropLast else cs
  String.ofList <| match cs with
    | '|' :: '|' :: rest => Wildcard.domainSource.toList ++ tokenSource rest
    | '|' :: rest => '^' :: tokenSource rest
    | cs => tokenSource cs

namespace Wildcard

theorem readEnd_cons {c : Char} {rest : List Char} (h : rest = [] → c ≠ '|') :
    readEnd (c :: rest) = (c :: (readEnd rest).1, (readEnd rest).2) := by
  obtain ⟨backwards, hback⟩ : ∃ backwards, rest.reverse = backwards := ⟨_, rfl⟩
  have hrest : rest = backwards.reverse := by rw [← hback, List.reverse_reverse]
  unfold readEnd
  rw [List.reverse_cons, hback]
  cases backwards with
  | nil => simp [hrest, h hrest]
  | cons d before =>
    by_cases hbar : d = '|'
    · simp [hbar]
    · simp [hbar]

theorem tokenSource_eq (cs : List Char) : tokenSource cs =
    (readEnd cs).1.flatMap charSource ++ (if (readEnd cs).2 then ['$'] else []) := by
  fun_induction tokenSource cs with
  | case1 => rfl
  | case2 => rfl
  | case3 c rest hbar ih =>
    have hcons : rest = [] → c ≠ '|' := by
      rintro rfl rfl
      exact hbar rfl rfl
    rw [ih, readEnd_cons hcons, List.flatMap_cons, List.append_assoc]

theorem dropFinalBar_eq (cs : List Char) :
    dropFinalBar cs = if ['^', '|'].isSuffixOf cs then cs.dropLast else cs := by
  unfold dropFinalBar
  split
  · rename_i before hback
    have hcs : cs = before.reverse ++ ['^', '|'] := by
      rw [← List.reverse_reverse cs, hback]
      simp
    rw [hcs, if_pos (by simp), List.dropLast_append_of_ne_nil (by simp)]
    simp
  · rename_i hnone
    rw [if_neg]
    rw [List.isSuffixOf_iff_suffix]
    rintro ⟨front, rfl⟩
    exact hnone front.reverse (by simp)

end Wildcard

/-- Token by token means to leave out nothing of what was read. -/
theorem plainSource_eq (text : String) :
    plainSource text = String.ofList (Wildcard.read text.toList).source := by
  rw [plainSource, Wildcard.read, ← Wildcard.dropFinalBar_eq]
  generalize Wildcard.dropFinalBar text.toList = cs
  refine congrArg String.ofList ?_
  unfold Wildcard.readStart
  split
  · simp [Wildcard.tokenSource_eq, Wildcard.source, Wildcard.startSource]
  · simp [Wildcard.tokenSource_eq, Wildcard.source, Wildcard.startSource]
  · simp [Wildcard.tokenSource_eq, Wildcard.source, Wildcard.startSource]

/--
**A text in wildcard syntax means what it says token by token.**  Its expression and the plain one
are both well formed, with regard to case or without, and they have matches in the same subjects.
This is what the compiled expression finds.
-/
theorem wildcard_agrees_with_plain (text : String) (caseless : Bool) :
    ∃ part plain,
      Regex.read? (Regex.startFlags caseless false) (wildcardSource text) = some part ∧
      Regex.read? (Regex.startFlags caseless false) (plainSource text) = some plain ∧
      (∀ subject, part.expr.search subject = plain.expr.search subject) ∧
      ∀ regex, Regex.compile? (wildcardSource text) caseless false = some regex →
        ∀ subject : String, regex.isMatch subject = plain.expr.search subject.toList := by
  have husual := Regex.startFlags_usual caseless false
  obtain ⟨separator, hseparator⟩ := Wildcard.reads_separator husual
  obtain ⟨domain, hdomain⟩ := Wildcard.reads_domain husual
  have hread : ∀ w : Wildcard, Regex.read? (Regex.startFlags caseless false)
      (String.ofList w.source) = some (Regex.Part.sequence
        (w.parts (Regex.startFlags caseless false) separator domain)) := by
    intro w
    refine Regex.read?_of_readsApart husual ?_
    rw [String.toList_ofList]
    exact Wildcard.reads_source husual hseparator hdomain w
  have hsource := hread (Wildcard.read text.toList).simplify
  have hplain := hread (Wildcard.read text.toList)
  rw [← plainSource_eq] at hplain
  have hsearch := Wildcard.search_simplify (Regex.startFlags caseless false) separator domain
    (Wildcard.read text.toList)
  refine ⟨_, _, hsource, hplain, hsearch, fun regex hregex subject => ?_⟩
  rw [Regex.isMatch, Regex.expr_of_compile? hsource hregex, hsearch]

end CosmeticFilter
