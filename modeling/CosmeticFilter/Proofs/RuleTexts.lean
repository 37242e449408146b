/-
Texts of rules.

Rules are separated by gaps of blanks and comments.  A gap is read token by token up to the
rule behind it, and since none of its tokens has a meaning for blocks, it is passed over by
every scan that reads tokens.  Only the selector of a style rule is cut out of the text as
it stands, from the place on where the rule before ended.

A rule is well-formed if its texts are whole and close what they open.  Then the scan for
the end of a declaration stays inside of the block, the scan for the end of the rule stops at
its last sign, and what is read of the rule does not depend on what stands behind it.
-/
import CosmeticFilter.Proofs.WholeTexts
import CosmeticFilter.Proofs.Reading

namespace CosmeticFilter.Css

open CosmeticFilter.Text

/-! ### What separates rules -/

/-- A comment, which does not end before its end. -/
structure Comment where
  content : List Char
  unended : ¬ ['*', '/'] <:+: content

/-- What may stand between rules. -/
inductive Filler where
  | blank (c : Char) (h : isBlank c = true)
  | comment (c : Comment)

namespace Filler

def text : Filler → List Char
  | blank c _ => [c]
  | comment c => '/' :: '*' :: c.content ++ ['*', '/']

def newline : Filler :=
  .blank '\n' rfl

def isComment : Filler → Bool
  | comment _ => true
  | blank .. => false

end Filler

def gapText (gap : List Filler) : List Char :=
  gap.flatMap Filler.text

theorem afterComment_content {content : List Char} (h : ¬ ['*', '/'] <:+: content)
    (rest : List Char) : afterComment (content ++ '*' :: '/' :: rest) = rest := by
  induction content with
  | nil => rfl
  | cons c content ih =>
    have hearly : ¬ ['*', '/'] <+: c :: (content ++ '*' :: '/' :: rest) := by
      intro hend
      obtain ⟨hfirst, hsecond⟩ := List.cons_prefix_cons.mp hend
      cases content with
      | nil => simp at hsecond
      | cons d content =>
        obtain ⟨rfl, -⟩ := List.cons_prefix_cons.mp hsecond
        exact h (hfirst ▸ ⟨[], content, rfl⟩)
    rw [List.cons_append, afterComment_cons hearly]
    exact ih fun hc => h (hc.trans (List.suffix_cons c content).isInfix)

/-- A gap is read up to a text behind it that does not begin with a blank. -/
theorem reads_gap (gap : List Filler) {rest : List Char} (hrest : rest.dropWhile isBlank = rest) :
    ∃ list, Reads (gapText gap ++ rest) list rest ∧ ∀ token ∈ list, token.isGap = true := by
  -- Blanks one after the other are one token, so the front may have been read already.
  suffices hboth : (∃ list, Reads (gapText gap ++ rest) list rest ∧
      ∀ token ∈ list, token.isGap = true) ∧
      ∃ list, Reads ((gapText gap ++ rest).dropWhile isBlank) list rest ∧
        ∀ token ∈ list, token.isGap = true from hboth.1
  induction gap with
  | nil =>
    refine ⟨⟨[], .nil rest, by simp⟩, [], ?_, by simp⟩
    show Reads (rest.dropWhile isBlank) [] rest
    rw [hrest]
    exact .nil rest
  | cons filler gap ih =>
    obtain ⟨⟨list, hreads, hgap⟩, more, hmore, hmoregap⟩ := ih
    cases filler with
    | blank c hc =>
      have hcut : gapText (.blank c hc :: gap) ++ rest = c :: (gapText gap ++ rest) := rfl
      rw [hcut, List.dropWhile_cons_of_pos hc]
      refine ⟨⟨.blank :: more, .cons (Token.next?_blank hc _) hmore, ?_⟩, more, hmore, hmoregap⟩
      exact List.forall_mem_cons.mpr ⟨rfl, hmoregap⟩
    | comment c =>
      have hcut : gapText (.comment c :: gap) ++ rest =
          '/' :: '*' :: (c.content ++ '*' :: '/' :: (gapText gap ++ rest)) := by
        simp [gapText, Filler.text]
      have hnext : Token.next? (gapText (.comment c :: gap) ++ rest) =
          some (.comment, gapText gap ++ rest) := by
        rw [hcut, Token.next?, afterComment_content c.unended]
      have hstays : (gapText (.comment c :: gap) ++ rest).dropWhile isBlank =
          gapText (.comment c :: gap) ++ rest := by
        rw [hcut, List.dropWhile_cons_of_neg (by decide)]
      rw [hstays]
      have hall : ∃ list, Reads (gapText (.comment c :: gap) ++ rest) list rest ∧
          ∀ token ∈ list, token.isGap = true :=
        ⟨.comment :: list, .cons hnext hreads, List.forall_mem_cons.mpr ⟨rfl, hgap⟩⟩
      exact ⟨hall, hall⟩

/-- No token of a gap has a meaning for blocks. -/
theorem openAfter_gap {token : Token} (h : token.isGap = true) (blocks : List Block) :
    openAfter blocks token = blocks := by
  cases token <;> first | rfl | simp [Token.isGap] at h

theorem foldl_openAfter_gap {list : List Token} (h : ∀ token ∈ list, token.isGap = true)
    (blocks : List Block) : list.foldl openAfter blocks = blocks := by
  induction list with
  | nil => rfl
  | cons token list ih =>
    obtain ⟨hfirst, hrest⟩ := List.forall_mem_cons.mp h
    rw [List.foldl_cons, openAfter_gap hfirst, ih hrest]

theorem outer_subset {blocks : List Block} {list : List Token} {token : Token}
    (h : token ∈ outer blocks list) : token ∈ list := by
  induction list generalizing blocks with
  | nil => simp [outer] at h
  | cons first more ih =>
    rw [outer] at h
    split at h
    · rcases List.mem_cons.mp h with rfl | hmore
      · exact List.mem_cons_self
      · exact List.mem_cons_of_mem _ (ih hmore)
    · exact List.mem_cons_of_mem _ (ih h)

/-! ### The inside of a block -/

theorem outer_dropGap_subset {list : List Token} :
    ∀ token ∈ outer [] (list.dropWhile Token.isGap), token ∈ outer [] list := by
  induction list with
  | nil => exact fun _ htoken => htoken
  | cons first list ih =>
    intro token htoken
    by_cases hgap : first.isGap = true
    · rw [List.dropWhile_cons_of_pos hgap] at htoken
      refine outer_openAfter_subset token ?_
      rw [openAfter_gap hgap]
      exact ih token htoken
    · rwa [List.dropWhile_cons_of_neg hgap] at htoken

theorem Balanced.dropGap {list : List Token} (h : Balanced [] list) :
    Balanced [] (list.dropWhile Token.isGap) where
  closed := by
    have hclosed := h.closed
    rwa [← List.takeWhile_append_dropWhile (p := Token.isGap) (l := list), List.foldl_append,
      foldl_openAfter_gap fun _ htoken => List.mem_takeWhile_imp htoken] at hclosed
  inner hcurly := h.inner (outer_dropGap_subset _ hcurly)

/-- Past the gap at its front a whole text is still whole. -/
theorem skipBlank_whole {t : List Char} (h : IsWhole t) :
    ∃ s, s.length ≤ t.length ∧ IsWhole s ∧
      tokensOf s = (tokensOf t).dropWhile Token.isGap ∧
      ∀ sign ∈ [';', '\x7b', '\x7d', ':'], ∀ rest,
        skipBlank (t ++ sign :: rest) = s ++ sign :: rest := by
  induction h using IsWhole.induction with
  | nil =>
    have hall : ∀ sign ∈ [';', '\x7b', '\x7d', ':'], (signToken sign).isGap = false :=
      forall_mem_of_all (by decide)
    refine ⟨[], Nat.zero_le _, isWhole_nil, by rw [tokensOf_nil]; rfl, fun sign hsign rest => ?_⟩
    refine skipBlank_of_not_gap fun token after hnext => ?_
    rw [List.nil_append, Token.next?_sign (List.mem_append_left ['!'] hsign)] at hnext
    obtain ⟨rfl, -⟩ := Prod.mk.inj (Option.some.inj hnext)
    exact hall sign hsign
  | cons c t token left h hwhole hlength htokens hnext ih =>
    by_cases hgap : token.isGap = true
    · obtain ⟨s, hshorter, hs, hdrop, hskip⟩ := ih
      refine ⟨s, by simp only [List.length_cons]; omega, hs, ?_, ?_⟩
      · rw [htokens, List.dropWhile_cons_of_pos hgap, hdrop]
      · intro sign hsign rest
        rw [skipBlank_of_gap (hnext sign hsign rest) hgap, hskip sign hsign rest]
    · refine ⟨c :: t, Nat.le_refl _, h, ?_, fun sign hsign rest => ?_⟩
      · rw [htokens, List.dropWhile_cons_of_neg hgap]
      · refine skipBlank_of_not_gap fun first after hfirst => ?_
        rw [hnext sign hsign rest] at hfirst
        obtain ⟨rfl, -⟩ := Prod.mk.inj (Option.some.inj hfirst)
        simpa using hgap

/-- A declaration ends in the text or with it. -/
theorem fromDeclarationEnd_whole {t : List Char} (h : IsWhole t) {blocks : List Block}
    (hbalanced : Balanced blocks (tokensOf t)) :
    ∃ e, e.length ≤ t.length ∧ IsWhole e ∧ Balanced [] (tokensOf e) ∧
      (e = [] ∨ ∃ more, e = ';' :: more) ∧
      ∀ rest, fromDeclarationEnd blocks (t ++ '\x7d' :: rest) = e ++ '\x7d' :: rest := by
  induction h using IsWhole.induction generalizing blocks with
  | nil =>
    have hblocks : blocks = [] := by
      have hclosed := hbalanced.closed
      rwa [tokensOf_nil] at hclosed
    subst hblocks
    refine ⟨[], Nat.zero_le _, isWhole_nil, hbalanced, .inl rfl, fun rest => ?_⟩
    rw [fromDeclarationEnd]
    rfl
  | cons c t token left h hwhole hlength htokens hnext ih =>
    by_cases hend : blocks = [] ∧ c = ';'
    · obtain ⟨rfl, rfl⟩ := hend
      refine ⟨';' :: t, Nat.le_refl _, h, hbalanced, .inr ⟨t, rfl⟩, fun rest => ?_⟩
      rw [fromDeclarationEnd]
      rfl
    · rw [htokens] at hbalanced
      obtain ⟨e, hshorter, he, hb, hform, hstep⟩ := ih hbalanced.tail
      refine ⟨e, by simp only [List.length_cons]; omega, he, hb, hform, fun rest => ?_⟩
      have hsign := hnext '\x7d' (by decide) rest
      have hread : Reads (c :: t ++ '\x7d' :: rest) [token] (left ++ '\x7d' :: rest) :=
        .cons hsign (.nil _)
      rw [fromDeclarationEnd_reads hread blocks, List.foldl_cons, List.foldl_nil, hstep rest]
      intro first hfirst
      have hblocks : blocks = [] := by
        by_contra hsome
        simp [outer, hsome] at hfirst
      subst hblocks
      obtain rfl : first = token := by simpa [outer] using hfirst
      refine ⟨?_, fun hcurly => hbalanced.inner (by simp [outer, hcurly])⟩
      rintro rfl
      have hcs := Token.eq_of_next?_semicolon hsign
      exact hend ⟨rfl, (List.cons.inj hcs).1⟩

/-- What is read of a declaration does not depend on what follows its block. -/
theorem read?_whole {s : List Char} (h : IsWhole s) (e rest : List Char) :
    Declaration.read? (s ++ '\x7d' :: rest) (e ++ '\x7d' :: rest) =
      Declaration.read? (s ++ ['\x7d']) (e ++ ['\x7d']) := by
  have hbetween : ∀ v rest : List Char,
      between (v ++ '\x7d' :: rest) (e ++ '\x7d' :: rest) = v.take (v.length - e.length) := by
    intro v rest
    have hlength : (v ++ '\x7d' :: rest).length - (e ++ '\x7d' :: rest).length =
        v.length - e.length := by
      simp only [List.length_append, List.length_cons]
      omega
    rw [between, hlength, List.take_append_of_le_length (Nat.sub_le _ _)]
  obtain ⟨t, -, ht, -, hskip⟩ := skipBlank_whole h
  unfold Declaration.read?
  rw [hskip _ (by decide) rest, hskip _ (by decide) []]
  cases t with
  | nil =>
    rw [List.nil_append, List.nil_append, Token.next?_sign (by decide),
      Token.next?_sign (by decide)]
    rfl
  | cons c t =>
    obtain ⟨token, left, -, hleft, -, hnext⟩ := ht.first_sign
    rw [hnext _ (by decide) rest, hnext _ (by decide) []]
    cases token with
    | ident name =>
      obtain ⟨u, -, hu, -, hskipleft⟩ := skipBlank_whole hleft
      simp only [hskipleft _ (show '\x7d' ∈ _ by decide)]
      cases u with
      | nil =>
        rw [List.nil_append, List.nil_append, Token.next?_sign (by decide),
          Token.next?_sign (by decide)]
        rfl
      | cons d u =>
        obtain ⟨second, value, -, -, -, hsecond⟩ := hu.first_sign
        rw [hsecond _ (by decide) rest, hsecond _ (by decide) []]
        cases second <;> first | rfl | simp only [hbetween]
    | _ => rfl

theorem readDeclarations_end {cs : List Char} (h : (skipBlank cs).head? = some '\x7d') :
    readDeclarations cs = ([], (skipBlank cs).drop 1) := by
  rw [readDeclarations]
  simp only
  rw [dif_pos (.inr h)]

theorem readDeclarations_step {cs start rest : List Char} (hstart : skipBlank cs = start)
    (hsome : start ≠ []) (hopen : start.head? ≠ some '\x7d')
    (hrest : fromDeclarationEnd [] start = rest) :
    readDeclarations cs =
      ((Declaration.read? start rest).toList ++ (readDeclarations (dropSemicolon rest)).1,
        (readDeclarations (dropSemicolon rest)).2) := by
  subst hstart hrest
  rw [readDeclarations]
  simp only
  rw [dif_neg (not_or.mpr ⟨hsome, hopen⟩)]

/-- The brace that closes a block is no part of what a balanced text is made of. -/
theorem Balanced.head_ne {c : Char} {t : List Char} (h : IsWhole (c :: t))
    (hbalanced : Balanced [] (tokensOf (c :: t))) : c ≠ '\x7d' := by
  rintro rfl
  obtain ⟨token, left, -, -, htokens, hnext⟩ := h.first_sign
  have hsign := hnext ';' (by decide) []
  rw [List.cons_append, Token.next?_sign (by decide)] at hsign
  have htoken : token = .closing .curly := (Prod.mk.inj (Option.some.inj hsign)).1.symm
  exact hbalanced.inner (by simp [htokens, outer, htoken])

theorem Balanced.semicolon {t : List Char} (h : IsWhole (';' :: t))
    (hbalanced : Balanced [] (tokensOf (';' :: t))) :
    IsWhole t ∧ Balanced [] (tokensOf t) := by
  obtain ⟨token, left, -, hleft, htokens, hnext⟩ := h.first_sign
  have hsign := hnext ';' (by decide) []
  rw [List.cons_append, Token.next?_sign (by decide)] at hsign
  obtain ⟨htoken, hrest⟩ := Prod.mk.inj (Option.some.inj hsign)
  obtain rfl := List.append_cancel_right hrest
  rw [htokens, ← htoken] at hbalanced
  exact ⟨hleft, hbalanced.tail⟩

/-- **A block is read up to its brace**, and its declarations are its own. -/
theorem readDeclarations_whole {t : List Char} (h : IsWhole t)
    (hbalanced : Balanced [] (tokensOf t)) (rest : List Char) :
    readDeclarations (t ++ '\x7d' :: rest) = ((readDeclarations (t ++ ['\x7d'])).1, rest) := by
  induction hn : t.length using Nat.strongRecOn generalizing t with
  | ind n ih =>
    obtain ⟨s, hshorter, hs, htokens, hskip⟩ := skipBlank_whole h
    have hsbalanced : Balanced [] (tokensOf s) := htokens ▸ hbalanced.dropGap
    have hstart := hskip '\x7d' (by decide)
    cases s with
    | nil =>
      rw [readDeclarations_end (by rw [hstart]; rfl), readDeclarations_end (by rw [hstart]; rfl),
        hstart rest]
      rfl
    | cons c s =>
      have hc := hsbalanced.head_ne hs
      obtain ⟨e, hlength, he, heb, hform, hend⟩ := fromDeclarationEnd_whole hs hsbalanced
      have hstep : ∀ rest, readDeclarations (t ++ '\x7d' :: rest) = _ := fun rest =>
        readDeclarations_step (hstart rest) (by simp) (by simpa using hc) (hend rest)
      obtain ⟨u, hu, hub, hulength, hdrop⟩ : ∃ u, IsWhole u ∧ Balanced [] (tokensOf u) ∧
          u.length < n ∧ ∀ rest, dropSemicolon (e ++ '\x7d' :: rest) = u ++ '\x7d' :: rest := by
        simp only [List.length_cons] at hshorter hlength
        rcases hform with rfl | ⟨more, rfl⟩
        · refine ⟨[], isWhole_nil, heb, ?_, fun rest => rfl⟩
          simp only [List.length_nil]
          omega
        · obtain ⟨hmore, hmoreb⟩ := heb.semicolon he
          refine ⟨more, hmore, hmoreb, ?_, fun rest => rfl⟩
          simp only [List.length_cons] at hlength
          omega
      rw [hstep rest, hstep [], hdrop rest, hdrop [], ih u.length hulength hu hub rfl,
        read?_whole hs e rest]

/-! ### Texts of rules -/

/-- A text that may stand before a block or a semicolon. -/
structure IsPrelude (t : List Char) : Prop where
  whole : IsWhole t
  balanced : Balanced [] (tokensOf t)
  /-- No block in braces is among the blocks of the text, but for inner ones. -/
  braceless : .opening .curly ∉ outer [] (tokensOf t)

instance (t : List Char) : Decidable (IsPrelude t) :=
  decidable_of_iff (IsWhole t ∧ Balanced [] (tokensOf t) ∧
    .opening .curly ∉ outer [] (tokensOf t))
    ⟨fun h => ⟨h.1, h.2.1, h.2.2⟩, fun h => ⟨h.whole, h.balanced, h.braceless⟩⟩

/-- A text that may stand in a block. -/
structure IsContent (t : List Char) : Prop where
  whole : IsWhole t
  balanced : Balanced [] (tokensOf t)

instance (t : List Char) : Decidable (IsContent t) :=
  decidable_of_iff (IsWhole t ∧ Balanced [] (tokensOf t))
    ⟨fun h => ⟨h.1, h.2⟩, fun h => ⟨h.whole, h.balanced⟩⟩

/-- A style rule may begin with the token. -/
def Token.opensStyle (token : Token) : Bool :=
  !token.isGap && token != .atKeyword

/-- A rule as it is written. -/
inductive RuleText where
  | style (selector body : List Char)
  /-- An at-rule that ends at a semicolon. -/
  | statement (prelude : List Char)
  /-- An at-rule with a block. -/
  | block (prelude content : List Char)

namespace RuleText

def text : RuleText → List Char
  | style selector body => selector ++ '\x7b' :: (body ++ ['\x7d'])
  | statement prelude => prelude ++ [';']
  | block prelude content => prelude ++ '\x7b' :: (content ++ ['\x7d'])

def isStyle : RuleText → Bool
  | style .. => true
  | _ => false

/-- The rule is well-formed; a style rule begins with no at-keyword, as every other one does. -/
def WellFormed : RuleText → Prop
  | style selector body => IsPrelude selector ∧ IsContent body ∧
      (tokensOf selector).head?.any Token.opensStyle = true
  | statement prelude => IsPrelude prelude ∧ .semicolon ∉ outer [] (tokensOf prelude) ∧
      (tokensOf prelude).head? = some .atKeyword
  | block prelude content => IsPrelude prelude ∧ .semicolon ∉ outer [] (tokensOf prelude) ∧
      (tokensOf prelude).head? = some .atKeyword ∧ IsContent content

instance : DecidablePred WellFormed
  | style .. => inferInstanceAs (Decidable (_ ∧ _))
  | statement _ => inferInstanceAs (Decidable (_ ∧ _))
  | block .. => inferInstanceAs (Decidable (_ ∧ _))

/-- The rule that is read behind a gap: whatever the gap holds is read with the selector. -/
def behind (gap : List Char) : RuleText → Rule
  | style selector body =>
    .style ⟨selectorText (gap ++ (selector ++ ['\x7b'])), (readDeclarations (body ++ ['\x7d'])).1⟩
  | _ => .other

end RuleText

theorem afterOpening?_brace (rest : List Char) :
    afterOpening? [] ('\x7b' :: rest) = some rest := by
  rw [afterOpening?_step (Token.next?_sign (by decide) rest), if_pos (by decide)]

theorem afterAtRule?_sign {c : Char} (h : c = ';' ∨ c = '\x7b') (rest : List Char) :
    afterAtRule? [] (c :: rest) =
      some (if c = ';' then rest else afterBlocks [.curly] rest) := by
  rcases h with rfl | rfl
  · rw [afterAtRule?_step (Token.next?_sign (by decide) rest), if_pos (by decide), if_pos rfl]
  · rw [afterAtRule?_step (Token.next?_sign (by decide) rest), if_neg (by decide),
      if_pos (by decide), if_neg (by decide)]

/-- The block of an at-rule is passed over. -/
theorem afterBlocks_content {t : List Char} (h : IsContent t) (rest : List Char) :
    afterBlocks [.curly] (t ++ '\x7d' :: rest) = rest := by
  have hread := h.whole.reads_sign (show '\x7d' ∈ _ by decide) rest
  have hpast := afterBlocks_reads hread [] h.balanced.inner []
  rw [List.nil_append] at hpast
  rw [hpast, h.balanced.closed, List.nil_append,
    afterBlocks_step (Token.next?_sign (by decide) rest) (by decide), afterBlocks]
  rfl

theorem Rule.next?_style {cs inner : List Char}
    (hfirst : ∀ rest, Token.next? (skipBlank cs) ≠ some (.atKeyword, rest))
    (hinner : afterOpening? [] cs = some inner) :
    Rule.next? cs = some (.style ⟨selectorText (between cs inner), (readDeclarations inner).1⟩,
      (readDeclarations inner).2) := by
  unfold Rule.next?
  split
  · rename_i rest hnext
    exact absurd hnext (hfirst rest)
  · rw [hinner]
    rfl

theorem Rule.next?_atRule {cs rest after : List Char}
    (hfirst : Token.next? (skipBlank cs) = some (.atKeyword, rest))
    (hafter : afterAtRule? [] rest = some after) : Rule.next? cs = some (.other, after) := by
  unfold Rule.next?
  rw [hfirst]
  simp only [hafter]
  rfl

/-- A text whose first token is no gap does not begin with a blank. -/
theorem dropWhile_isBlank_whole {t : List Char} (h : IsWhole t) {token : Token}
    (hfirst : (tokensOf t).head? = some token) (hgap : token.isGap = false) {sign : Char}
    (hsign : sign ∈ [';', '\x7b', '\x7d', ':']) (rest : List Char) :
    (t ++ sign :: rest).dropWhile isBlank = t ++ sign :: rest ∧
      skipBlank (t ++ sign :: rest) = t ++ sign :: rest ∧
      ∃ left, IsWhole left ∧ tokensOf t = token :: tokensOf left ∧
        Token.next? (t ++ sign :: rest) = some (token, left ++ sign :: rest) := by
  cases t with
  | nil => simp [tokensOf_nil] at hfirst
  | cons c t =>
    obtain ⟨head, left, -, hleft, htokens, hnext⟩ := h.first_sign
    rw [htokens, List.head?_cons, Option.some.injEq] at hfirst
    subst hfirst
    have hread := hnext sign hsign rest
    refine ⟨?_, ?_, left, hleft, htokens, hread⟩
    · rw [List.cons_append, List.dropWhile_cons_of_neg]
      intro hblank
      rw [List.cons_append, Token.next?_blank hblank] at hread
      rw [← (Prod.mk.inj (Option.some.inj hread)).1] at hgap
      simp [Token.isGap] at hgap
    · refine skipBlank_of_not_gap fun first after hfirst => ?_
      rw [hread] at hfirst
      obtain ⟨rfl, -⟩ := Prod.mk.inj (Option.some.inj hfirst)
      exact hgap

/-- An at-rule ends at the first semicolon or with the first block behind its prelude. -/
theorem next?_atRule {prelude : List Char} (h : IsPrelude prelude)
    (hsemicolon : .semicolon ∉ outer [] (tokensOf prelude))
    (hhead : (tokensOf prelude).head? = some .atKeyword) {sign : Char}
    (hsign : sign = ';' ∨ sign = '\x7b') (gap : List Filler) (rest : List Char) :
    Rule.next? (gapText gap ++ (prelude ++ sign :: rest)) =
      some (.other, if sign = ';' then rest else afterBlocks [.curly] rest) := by
  have hmem : sign ∈ [';', '\x7b', '\x7d', ':'] := by
    rcases hsign with rfl | rfl <;> decide
  obtain ⟨hblank, hskip, left, hleft, htokens, hnext⟩ :=
    dropWhile_isBlank_whole h.whole hhead rfl hmem rest
  obtain ⟨list, hreads, hlist⟩ := reads_gap gap hblank
  refine @Rule.next?_atRule _ (left ++ sign :: rest) _ ?_ ?_
  · rw [skipBlank_reads hreads hlist, hskip, hnext]
  · have htail : ∀ later ∈ outer [] (tokensOf left), later ∈ outer [] (tokensOf prelude) := by
      rw [htokens]
      exact @outer_openAfter_subset [] .atKeyword _
    have hclosed : (tokensOf left).foldl openAfter [] = [] := by
      have hclosed := h.balanced.closed
      rwa [htokens] at hclosed
    rw [afterAtRule?_reads (hleft.reads_sign hmem rest) []
      (fun hlater => hsemicolon (htail _ hlater)) (fun hlater => h.braceless (htail _ hlater)),
      hclosed, afterAtRule?_sign hsign]

/-- **A well-formed rule is read whatever stands before and behind it.** -/
theorem RuleText.WellFormed.next? {rule : RuleText} (h : rule.WellFormed) (gap : List Filler)
    (rest : List Char) :
    Rule.next? (gapText gap ++ (rule.text ++ rest)) =
      some (rule.behind (gapText gap), rest) := by
  cases rule with
  | style selector body =>
    obtain ⟨hselector, hbody, hopens⟩ := h
    obtain ⟨token, hhead, hgap, hat⟩ : ∃ token, (tokensOf selector).head? = some token ∧
        token.isGap = false ∧ token ≠ .atKeyword := by
      simpa [Option.any_eq_true, Token.opensStyle] using hopens
    have htext : (style selector body).text ++ rest =
        selector ++ '\x7b' :: (body ++ '\x7d' :: rest) := by simp [text]
    obtain ⟨hblank, hskip, left, -, -, hnext⟩ := dropWhile_isBlank_whole hselector.whole hhead hgap
      (show '\x7b' ∈ _ by decide) (body ++ '\x7d' :: rest)
    obtain ⟨list, hreads, hlist⟩ := reads_gap gap hblank
    have hinner : afterOpening? [] (gapText gap ++ ((style selector body).text ++ rest)) =
        some (body ++ '\x7d' :: rest) := by
      rw [htext, afterOpening?_reads hreads [], foldl_openAfter_gap hlist,
        afterOpening?_reads (hselector.whole.reads_sign (by decide) _) [] hselector.braceless,
        hselector.balanced.closed, afterOpening?_brace]
      intro hcurly
      have hgapped := hlist _ (outer_subset hcurly)
      simp [Token.isGap] at hgapped
    have hcut : gapText gap ++ ((style selector body).text ++ rest) =
        (gapText gap ++ (selector ++ ['\x7b'])) ++ (body ++ '\x7d' :: rest) := by
      simp [text]
    rw [Rule.next?_style _ hinner, readDeclarations_whole hbody.whole hbody.balanced, behind]
    · rw [hcut, between_append]
    · intro after hfirst
      rw [htext, skipBlank_reads hreads hlist, hskip, hnext] at hfirst
      exact hat (Prod.mk.inj (Option.some.inj hfirst)).1
  | statement prelude =>
    obtain ⟨hprelude, hsemicolon, hhead⟩ := h
    have htext : (statement prelude).text ++ rest = prelude ++ ';' :: rest := by simp [text]
    have hafter := next?_atRule hprelude hsemicolon hhead (.inl rfl) gap rest
    rw [if_pos rfl] at hafter
    rw [htext]
    exact hafter
  | block prelude content =>
    obtain ⟨hprelude, hsemicolon, hhead, hcontent⟩ := h
    have htext : (block prelude content).text ++ rest =
        prelude ++ '\x7b' :: (content ++ '\x7d' :: rest) := by simp [text]
    have hafter := next?_atRule hprelude hsemicolon hhead (.inr rfl) gap (content ++ '\x7d' :: rest)
    rw [if_neg (by decide), afterBlocks_content hcontent] at hafter
    rw [htext]
    exact hafter

end CosmeticFilter.Css
