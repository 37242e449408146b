/-
Comments between the rules of a sheet.

Whatever stands between rules, the rules are read in order, with the declarations that they
have without the comments, and nothing is read behind the last one.  The at-rules and the
declarations owe this to the tokens, of which comments are skipped.  The selector of a style
rule is not made of tokens: it is the text from the end of the rule before on, and trimming
takes blanks off its ends, but no comments.  So a comment in front of a style rule becomes
part of the selector, and the comments have no meaning just if there is none of these.
-/
import CosmeticFilter.Proofs.RuleTexts

namespace CosmeticFilter.Css

open CosmeticFilter.Text

/-! ### The selector behind a gap -/

theorem dropWhile_reverse_gapText (gap : List Filler) :
    (gapText gap).reverse.dropWhile (· == '\x7b') = (gapText gap).reverse := by
  rcases List.eq_nil_or_concat gap with rfl | ⟨front, filler, rfl⟩
  · rfl
  · have hend : ∃ c more, filler.text.reverse = c :: more ∧ c ≠ '\x7b' := by
      cases filler with
      | blank c hc =>
        refine ⟨c, [], rfl, ?_⟩
        rintro rfl
        simp [isBlank] at hc
      | comment c => exact ⟨'/', '*' :: (c.content.reverse ++ ['*', '/']), by simp [Filler.text],
          by decide⟩
    obtain ⟨c, more, hreverse, hc⟩ := hend
    have hcut : (gapText (front.concat filler)).reverse =
        c :: (more ++ (gapText front).reverse) := by
      simp [gapText, hreverse]
    rw [hcut, List.dropWhile_cons_of_neg (by simpa using hc)]

/-- The braces at the end of a selector are all behind the gap. -/
theorem selectorText_gap (gap : List Filler) (cs : List Char) :
    selectorText (gapText gap ++ cs) = String.ofList
      (trim (gapText gap ++ (cs.reverse.dropWhile (· == '\x7b')).reverse)) := by
  rw [selectorText, List.reverse_append, List.dropWhile_append, dropWhile_reverse_gapText]
  by_cases hempty : cs.reverse.dropWhile (· == '\x7b') = []
  · rw [if_pos (List.isEmpty_iff.mpr hempty), hempty, List.reverse_reverse, List.reverse_nil,
      List.append_nil]
  · rw [if_neg (by simpa [List.isEmpty_iff] using hempty), List.reverse_append,
      List.reverse_reverse]

theorem isWhite_of_gapText {gap : List Filler} (h : ∀ filler ∈ gap, filler.isComment = false) :
    ∀ c ∈ gapText gap, isWhite c = true := by
  intro c hc
  obtain ⟨filler, hfiller, hmem⟩ := List.mem_flatMap.mp hc
  have hblank := h filler hfiller
  cases filler with
  | comment _ => simp [Filler.isComment] at hblank
  | blank d hd =>
    obtain rfl : c = d := by simpa [Filler.text] using hmem
    exact isWhite_of_isBlank hd

theorem length_trimRight_le (front cs : List Char) :
    (trimRight cs).length ≤ (trimRight (front ++ cs)).length := by
  simp only [trimRight, List.length_reverse, List.reverse_append, List.dropWhile_append]
  by_cases hempty : cs.reverse.dropWhile isWhite = []
  · simp [hempty]
  · rw [if_neg (by simpa [List.isEmpty_iff] using hempty), List.length_append]
    omega

theorem length_trim_le (cs : List Char) : (trim cs).length ≤ (trimRight cs).length := by
  obtain ⟨front, hfront⟩ : trimLeft cs <:+ cs := List.dropWhile_suffix _
  have hle := length_trimRight_le front (trimLeft cs)
  rwa [hfront] at hle

/-- A character that is not white stops trimming from both ends. -/
theorem length_lt_trim (front back cs : List Char) {c : Char} (hc : isWhite c = false) :
    (trim cs).length < (trim (front ++ c :: (back ++ cs))).length := by
  obtain ⟨left, hleft⟩ :
      ∃ left, trimLeft (front ++ c :: (back ++ cs)) = left ++ c :: (back ++ cs) := by
    rw [trimLeft, List.dropWhile_append]
    split
    · exact ⟨[], List.dropWhile_cons_of_neg (by simp [hc])⟩
    · exact ⟨_, rfl⟩
  have htrim : trim (front ++ c :: (back ++ cs)) = left ++ c :: trimRight (back ++ cs) := by
    rw [trim, hleft, trimRight_append hc]
  have hcs := length_trim_le cs
  have hback := length_trimRight_le back cs
  rw [htrim, List.length_append, List.length_cons]
  omega

/-- **Just the comments change a selector** that stands behind a gap. -/
theorem selectorText_gap_iff (gap : List Filler) (cs : List Char) :
    selectorText (gapText gap ++ cs) = selectorText cs ↔
      ∀ filler ∈ gap, filler.isComment = false := by
  have hbare : selectorText cs = String.ofList
      (trim (cs.reverse.dropWhile (· == '\x7b')).reverse) := rfl
  rw [selectorText_gap, hbare]
  generalize (cs.reverse.dropWhile (· == '\x7b')).reverse = selector
  constructor
  · intro hsame filler hfiller
    cases filler with
    | blank => rfl
    | comment c =>
      obtain ⟨front, back, rfl⟩ := List.append_of_mem hfiller
      have hcut : gapText (front ++ .comment c :: back) ++ selector = gapText front ++
          '/' :: (('*' :: c.content ++ ['*', '/'] ++ gapText back) ++ selector) := by
        simp [gapText, Filler.text]
      have hlonger := length_lt_trim (gapText front)
        ('*' :: c.content ++ ['*', '/'] ++ gapText back) selector (c := '/') (by decide)
      rw [← hcut, String.ofList_injective hsame] at hlonger
      exact absurd hlonger (Nat.lt_irrefl _)
  · intro hblank
    rw [trim, trimLeft_white (isWhite_of_gapText hblank), ← trim]

/-! ### Sheets -/

theorem Rule.next?_gap (gap : List Filler) : Rule.next? (gapText gap) = none := by
  obtain ⟨list, hreads, hlist⟩ := reads_gap gap (show [].dropWhile isBlank = [] from rfl)
  rw [List.append_nil] at hreads
  have hfirst : Token.next? (skipBlank (gapText gap)) = none := by
    rw [skipBlank_reads hreads hlist, skipBlank_of_not_gap (by simp [Token.next?]), Token.next?]
  have hopening : afterOpening? [] (gapText gap) = none := by
    rw [afterOpening?_reads hreads [], foldl_openAfter_gap hlist, afterOpening?]
    · rfl
    · intro hcurly
      have hgapped := hlist _ (outer_subset hcurly)
      simp [Token.isGap] at hgapped
  unfold Rule.next?
  rw [hfirst, hopening]
  rfl

theorem readRules_nil {cs : List Char} (h : Rule.next? cs = none) : readRules cs = [] := by
  rw [readRules]
  split
  · rfl
  · rename_i hsome
    simp [h] at hsome

theorem readRules_cons {cs rest : List Char} {rule : Rule}
    (h : Rule.next? cs = some (rule, rest)) : readRules cs = rule :: readRules rest := by
  rw [readRules]
  split
  · rename_i hnone
    simp [h] at hnone
  · rename_i hsome
    rw [h] at hsome
    obtain ⟨rfl, rfl⟩ := Prod.mk.inj (Option.some.inj hsome)
    rfl

/-- The declarations of a style rule. -/
def Rule.declarations? (rule : Rule) : Option (List Declaration) :=
  rule.style?.map StyleRule.declarations

theorem RuleText.declarations?_behind (rule : RuleText) (gap : List Char) :
    (rule.behind gap).declarations? = (rule.behind []).declarations? := by
  cases rule <;> rfl

/-- Comments in front of a rule change it just if it is a style rule. -/
theorem RuleText.behind_gap_iff (rule : RuleText) (gap : List Filler) :
    rule.behind (gapText gap) = rule.behind [] ↔
      (rule.isStyle = true → ∀ filler ∈ gap, filler.isComment = false) := by
  cases rule with
  | style selector body =>
    rw [← selectorText_gap_iff gap (selector ++ ['\x7b'])]
    simp [behind, isStyle]
  | statement => simp [behind, isStyle]
  | block => simp [behind, isStyle]

/-- A sheet as it is written: rules, each with the gap before it, and a gap at the end. -/
structure SheetText where
  pieces : List (List Filler × RuleText)
  last : List Filler

namespace SheetText

variable (sheet : SheetText)

def text : String :=
  String.ofList (sheet.pieces.flatMap (fun piece => gapText piece.1 ++ piece.2.text) ++
    gapText sheet.last)

def WellFormed : Prop :=
  ∀ piece ∈ sheet.pieces, piece.2.WellFormed

instance : Decidable sheet.WellFormed :=
  inferInstanceAs (Decidable (∀ piece ∈ sheet.pieces, piece.2.WellFormed))

/-- The sheet without the comments between its rules. -/
def uncommented : SheetText where
  pieces := sheet.pieces.map fun piece => (piece.1.filter (!·.isComment), piece.2)
  last := sheet.last.filter (!·.isComment)

variable {sheet}

theorem parse_text (h : sheet.WellFormed) :
    parse sheet.text = sheet.pieces.map fun piece => piece.2.behind (gapText piece.1) := by
  obtain ⟨pieces, last⟩ := sheet
  show readRules (String.ofList _).toList = _
  rw [String.toList_ofList]
  show readRules (pieces.flatMap _ ++ gapText last) = _
  induction pieces with
  | nil => exact readRules_nil (Rule.next?_gap last)
  | cons piece pieces ih =>
    obtain ⟨hpiece, hrest⟩ := List.forall_mem_cons.mp h
    rw [List.flatMap_cons, List.append_assoc, List.append_assoc,
      readRules_cons (hpiece.next? piece.1 _), ih hrest, List.map_cons]

theorem WellFormed.uncommented (h : sheet.WellFormed) : sheet.uncommented.WellFormed := by
  intro piece hpiece
  obtain ⟨before, hbefore, rfl⟩ := List.mem_map.mp hpiece
  exact h before hbefore

theorem parse_uncommented (h : sheet.WellFormed) :
    parse sheet.uncommented.text = sheet.pieces.map fun piece => piece.2.behind [] := by
  rw [parse_text h.uncommented, SheetText.uncommented, List.map_map]
  refine List.map_congr_left fun piece _ => (piece.2.behind_gap_iff _).mpr ?_
  intro _ filler hfiller
  simpa using (List.mem_filter.mp hfiller).2

/-- **Comments have no meaning but before a style rule**, whose selector takes them in. -/
theorem parse_commented (h : sheet.WellFormed) :
    parse sheet.text = sheet.pieces.map (fun piece => piece.2.behind (gapText piece.1)) ∧
      (parse sheet.text).map Rule.declarations? =
        (parse sheet.uncommented.text).map Rule.declarations? ∧
      (parse sheet.text = parse sheet.uncommented.text ↔ ∀ piece ∈ sheet.pieces,
        piece.2.isStyle = true → ∀ filler ∈ piece.1, filler.isComment = false) := by
  refine ⟨parse_text h, ?_, ?_⟩
  · rw [parse_text h, parse_uncommented h, List.map_map, List.map_map]
    exact List.map_congr_left fun piece _ => piece.2.declarations?_behind _
  · rw [parse_text h, parse_uncommented h, List.map_inj_left]
    exact forall₂_congr fun piece _ => piece.2.behind_gap_iff piece.1

/-- A style rule, and a comment before the at-rule behind it and at the end. -/
def paperSheet : SheetText where
  pieces := [([], .style ".ad ".toList " width: 1px ".toList),
    ([.newline, .comment ⟨" on paper ".toList, by decide⟩],
      .block "@media print ".toList " .ad \x7b width: 0 \x7d ".toList)]
  last := [.comment ⟨" end ".toList, by decide⟩]

theorem parse_commented_paper : paperSheet.WellFormed ∧
    paperSheet.text = ".ad \x7b width: 1px \x7d\n/* on paper */" ++
      "@media print \x7b .ad \x7b width: 0 \x7d \x7d/* end */" ∧
    parse paperSheet.text = parse paperSheet.uncommented.text := by
  have hsheet : paperSheet.WellFormed := by decide +kernel
  exact ⟨hsheet, by decide +kernel, (parse_commented hsheet).2.2.mpr (by decide)⟩

/-- A comment before a style rule. -/
def adsSheet : SheetText where
  pieces := [([.comment ⟨" ads ".toList, by decide⟩, .blank ' ' rfl],
    .style ".ad ".toList " width: 1px ".toList)]
  last := []

theorem comment_joins_selector : adsSheet.WellFormed ∧
    adsSheet.text = "/* ads */ .ad \x7b width: 1px \x7d" ∧
    parse adsSheet.text = [.style ⟨"/* ads */ .ad", [⟨"width", "1px", none⟩]⟩] ∧
    parse adsSheet.uncommented.text = [.style ⟨".ad", [⟨"width", "1px", none⟩]⟩] := by
  decide +kernel

end SheetText

end CosmeticFilter.Css
