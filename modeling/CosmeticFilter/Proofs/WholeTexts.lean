/-
Whole texts of style sheets.

A text is whole if a semicolon behind it is read as a token of its own.  Then it is made of
tokens that do not depend on what ends the text, be it a semicolon, a brace or a colon, and
the scans that look for the end of a declaration or for the brace of a block can be followed
through it token by token.  All of these scans go on past a token that has no meaning for
them outside of blocks, so what remains to be known of a text is which tokens it has there,
and that it closes what it opens.
-/
import CosmeticFilter.Proofs.TokenEnds

namespace CosmeticFilter.Css

open CosmeticFilter.Text

/-! ### Signs -/

theorem Token.next?_sign {c : Char} (h : c ∈ [';', '\x7b', '\x7d', ':', '!']) (rest : List Char) :
    Token.next? (c :: rest) = some (signToken c, rest) := by
  have hall : ∀ c ∈ [';', '\x7b', '\x7d', ':', '!'], c ≠ '/' ∧ c ≠ '-' ∧ c ≠ '<' ∧
      isBlank c = false ∧ ¬ (c = '"' ∨ c = '\'') ∧ c ≠ '\\' ∧ isNameStart c = false ∧ c ≠ '+' ∧
      c ≠ '.' ∧ isDigit c = false ∧ c ≠ '#' ∧ c ≠ '@' := forall_mem_of_all (by decide)
  obtain ⟨hslash, hminus, hless, hblank, hquote, hescape, hname, hplus, hpoint, hdigit, hhash,
    hat⟩ := hall c h
  have hstarts : startsName (c :: rest) = false := by
    rw [startsName_cons, if_neg hminus, if_neg hescape, hname]
  have hnumber : startsNumber (c :: rest) = false := by
    have hsign : afterSign (c :: rest) = c :: rest := by
      rw [afterSign_cons, if_neg (by simp [hplus, hminus])]
    rw [startsNumber, hsign]
    split
    · rename_i heq
      exact absurd (List.cons.inj heq).1 hpoint
    · exact hdigit
  rw [Token.next?_cons, if_neg (by simp [hblank]), if_neg hquote, if_neg (by simp [hstarts]),
    readSign, if_neg (by simp [hnumber]), if_neg (by simp [hhash]), if_neg (by simp [hat])]
  · intro mark hmark hprefix
    simp only [List.mem_cons, List.not_mem_nil, or_false] at hmark
    rcases hmark with rfl | rfl | rfl
    · exact hslash (List.cons_prefix_cons.mp hprefix).1.symm
    · exact hminus (List.cons_prefix_cons.mp hprefix).1.symm
    · exact hless (List.cons_prefix_cons.mp hprefix).1.symm

/-- All the blanks at the front are one token. -/
theorem Token.next?_blank {c : Char} (h : isBlank c = true) (rest : List Char) :
    next? (c :: rest) = some (.blank, rest.dropWhile isBlank) := by
  have hc : c ≠ '/' ∧ c ≠ '-' ∧ c ≠ '<' := by
    refine ⟨?_, ?_, ?_⟩ <;> rintro rfl <;> simp [isBlank] at h
  rw [next?_cons, if_pos h]
  intro mark hmark hprefix
  simp only [List.mem_cons, List.not_mem_nil, or_false] at hmark
  rcases hmark with rfl | rfl | rfl
  · exact hc.1 (List.cons_prefix_cons.mp hprefix).1.symm
  · exact hc.2.1 (List.cons_prefix_cons.mp hprefix).1.symm
  · exact hc.2.2 (List.cons_prefix_cons.mp hprefix).1.symm

theorem Token.next?_ne_none (c : Char) (rest : List Char) : Token.next? (c :: rest) ≠ none := by
  unfold Token.next?
  split
  · rename_i heq
    simp at heq
  · simp
  · simp
  · simp
  · split
    · simp
    · split
      · simp
      · split <;> simp

/-- Only the sign itself is read as a semicolon. -/
theorem Token.eq_of_next?_semicolon {cs rest : List Char}
    (h : Token.next? cs = some (.semicolon, rest)) : cs = ';' :: rest := by
  have hnamed : ∀ cs, (readNamed cs).1 ≠ .semicolon := by
    intro cs
    unfold readNamed
    split
    split
    · split <;> simp
    · simp
  have hsign : ∀ c, signToken c = .semicolon → c = ';' := by
    intro c hc
    unfold signToken at hc
    split at hc <;> simp_all
  cases cs with
  | nil => simp [Token.next?] at h
  | cons c cs =>
    unfold Token.next? at h
    split at h
    · simp at h
    · simp at h
    · simp at h
    · simp at h
    · rename_i heq
      obtain ⟨rfl, rfl⟩ := List.cons.inj heq
      split at h
      · simp at h
      · split at h
        · simp at h
        · split at h
          · exact absurd (congrArg Prod.fst (Option.some.inj h)) (hnamed _)
          · unfold readSign at h
            split at h
            · simp at h
            · split at h
              · simp at h
              · split at h
                · simp at h
                · obtain ⟨htoken, rfl⟩ := Prod.mk.inj (Option.some.inj h)
                  rw [hsign c htoken]

/-! ### Tokens one after the other -/

/-- The tokens of a text. -/
def tokens (cs : List Char) : List Token :=
  match _h : Token.next? cs with
  | none => []
  | some (token, rest) => token :: tokens rest
termination_by cs.length
decreasing_by exact Token.next?_length _h

/-- From the front of a text to an ending of it these tokens are read. -/
inductive Reads : List Char → List Token → List Char → Prop
  | nil (cs : List Char) : Reads cs [] cs
  | cons {cs mid rest : List Char} {token : Token} {more : List Token}
      (hnext : Token.next? cs = some (token, mid)) (h : Reads mid more rest) :
      Reads cs (token :: more) rest

theorem Reads.append {cs mid rest : List Char} {first last : List Token}
    (h : Reads cs first mid) (hlast : Reads mid last rest) : Reads cs (first ++ last) rest := by
  induction h with
  | nil => exact hlast
  | cons hnext _ ih => exact .cons hnext (ih hlast)

theorem Reads.length {cs rest : List Char} {list : List Token} (h : Reads cs list rest) :
    rest.length ≤ cs.length := by
  induction h with
  | nil => exact Nat.le_refl _
  | cons hnext _ ih => exact Nat.le_trans ih (Nat.le_of_lt (Token.next?_length hnext))

theorem tokens_nil : tokens [] = [] := by
  rw [tokens]
  rfl

theorem tokens_cons {cs rest : List Char} {token : Token}
    (h : Token.next? cs = some (token, rest)) : tokens cs = token :: tokens rest := by
  rw [tokens]
  split
  · rename_i hnone
    simp [h] at hnone
  · rename_i hsome
    rw [h] at hsome
    obtain ⟨rfl, rfl⟩ := Prod.mk.inj (Option.some.inj hsome)
    rfl

theorem Reads.tokens_eq {cs rest : List Char} {list : List Token} (h : Reads cs list rest) :
    tokens cs = list ++ tokens rest := by
  induction h with
  | nil => rfl
  | cons hnext _ ih => rw [tokens_cons hnext, ih, List.cons_append]

theorem tokens_semicolon : tokens [';'] = [.semicolon] := by
  rw [tokens_cons (Token.next?_sign (by decide) []), tokens_nil]
  rfl

/-- A text whose last token is a semicolon is read up to it. -/
theorem reads_dropLast {cs : List Char} (h : (tokens cs).getLast? = some .semicolon) :
    Reads cs (tokens cs).dropLast [';'] := by
  induction hn : cs.length using Nat.strongRecOn generalizing cs with
  | ind n ih =>
    cases hnext : Token.next? cs with
    | none =>
      rw [tokens] at h
      split at h
      · simp at h
      · rename_i hsome
        simp [hnext] at hsome
    | some found =>
      obtain ⟨token, rest⟩ := found
      rw [tokens_cons hnext] at h ⊢
      by_cases hlast : tokens rest = []
      · -- There is nothing behind the semicolon.
        rw [hlast] at h ⊢
        obtain rfl : token = .semicolon := by simpa using h
        have hcs := Token.eq_of_next?_semicolon hnext
        have hrest : rest = [] := by
          cases rest with
          | nil => rfl
          | cons c rest =>
            cases hmore : Token.next? (c :: rest) with
            | none => exact absurd hmore (Token.next?_ne_none c rest)
            | some found =>
              obtain ⟨next, last⟩ := found
              rw [tokens_cons hmore] at hlast
              simp at hlast
        rw [hcs, hrest]
        exact .nil _
      · rw [List.getLast?_cons_of_ne_nil hlast] at h
        rw [List.dropLast_cons_of_ne_nil hlast]
        exact .cons hnext (ih rest.length (hn ▸ Token.next?_length hnext) h rfl)

/-! ### Whole texts -/

/-- The text is made of whole tokens: a semicolon behind it is a token of its own. -/
def IsWhole (t : List Char) : Prop :=
  (tokens (t ++ [';'])).getLast? = some .semicolon

instance : DecidablePred IsWhole := fun t =>
  inferInstanceAs (Decidable ((tokens (t ++ [';'])).getLast? = some .semicolon))

/-- The tokens of a whole text. -/
def tokensOf (t : List Char) : List Token :=
  (tokens (t ++ [';'])).dropLast

theorem IsWhole.reads_semicolon {t : List Char} (h : IsWhole t) :
    Reads (t ++ [';']) (tokensOf t) [';'] :=
  reads_dropLast h

theorem isWhole_of_reads {t : List Char} {list : List Token}
    (h : Reads (t ++ [';']) list [';']) : IsWhole t ∧ tokensOf t = list := by
  unfold IsWhole tokensOf
  rw [h.tokens_eq, tokens_semicolon]
  simp

theorem isWhole_nil : IsWhole [] :=
  (isWhole_of_reads (.nil [';'])).1

theorem tokensOf_nil : tokensOf [] = [] :=
  (isWhole_of_reads (.nil [';'])).2

/-- **A whole text, token by token.**  The first token is the same whatever ends the text. -/
theorem IsWhole.first {c : Char} {t : List Char} (h : IsWhole (c :: t)) :
    ∃ token left, left.length ≤ t.length ∧ IsWhole left ∧
      tokensOf (c :: t) = token :: tokensOf left ∧
      ∀ z, Stopped z → ∃ after, Token.next? (c :: t ++ z) = some (token, after) ∧
        Left left z after := by
  have hreads := h.reads_semicolon
  generalize htokens : tokensOf (c :: t) = list at hreads
  generalize hend : [';'] = stop at hreads
  generalize hcs : c :: t ++ stop = cs at hreads
  cases hreads with
  | nil =>
    have hlength := congrArg List.length hcs
    simp only [List.length_append, List.length_cons] at hlength
    omega
  | @cons _ mid _ token more hnext hrest =>
    subst hend hcs
    have hmid : mid ≠ [] := by
      rintro rfl
      have hlength := hrest.length
      simp at hlength
    obtain ⟨left, rfl, hstops⟩ := Token.next?_stops hnext hmid
    have hlength := Token.next?_length hnext
    obtain ⟨hwhole, hlist⟩ := isWhole_of_reads hrest
    refine ⟨token, left, ?_, hwhole, by rw [hlist], hstops⟩
    simp only [List.length_append, List.length_cons] at hlength
    omega

/-- **A whole text is read to its end**, or to the sign behind the space that ends it. -/
theorem IsWhole.reads {t : List Char} (h : IsWhole t) {z : List Char} (hz : Stopped z) :
    Reads (t ++ z) (tokensOf t) z ∨ Reads (t ++ z) (tokensOf t) (dropOneBlank z) := by
  induction hn : t.length using Nat.strongRecOn generalizing t with
  | ind n ih =>
    cases t with
    | nil =>
      rw [tokensOf_nil]
      exact .inl (.nil z)
    | cons c t =>
      obtain ⟨token, left, hlength, hwhole, htokens, hstops⟩ := h.first
      obtain ⟨after, hnext, hleft⟩ := hstops z hz
      rw [htokens]
      rcases hleft with rfl | ⟨rfl, rfl⟩
      · have hshorter : left.length < n := by
          simp only [List.length_cons] at hn
          omega
        rcases ih left.length hshorter hwhole rfl with hread | hread
        · exact .inl (.cons hnext hread)
        · exact .inr (.cons hnext hread)
      · rw [tokensOf_nil]
        exact .inr (.cons hnext (.nil _))

theorem dropOneBlank_sign {c : Char} (h : c ∈ [';', '\x7b', '\x7d', ':']) (rest : List Char) :
    dropOneBlank (c :: rest) = c :: rest := by
  have hstays := not_isBlank_of_sign (List.mem_append_left ['!'] h)
  rw [dropOneBlank, if_neg (by simp [hstays.1]), if_neg (by simp [hstays.2])]

/-- Before a sign it is read to its end. -/
theorem IsWhole.reads_sign {t : List Char} (h : IsWhole t) {c : Char}
    (hc : c ∈ [';', '\x7b', '\x7d', ':']) (rest : List Char) :
    Reads (t ++ c :: rest) (tokensOf t) (c :: rest) := by
  rcases h.reads (.sign hc rest) with hread | hread
  · exact hread
  · rwa [dropOneBlank_sign hc] at hread

/-- Before a sign the first token leaves a whole text. -/
theorem IsWhole.first_sign {c : Char} {t : List Char} (h : IsWhole (c :: t)) :
    ∃ token left, left.length ≤ t.length ∧ IsWhole left ∧
      tokensOf (c :: t) = token :: tokensOf left ∧
      ∀ sign ∈ [';', '\x7b', '\x7d', ':'], ∀ rest,
        Token.next? (c :: t ++ sign :: rest) = some (token, left ++ sign :: rest) := by
  obtain ⟨token, left, hlength, hwhole, htokens, hstops⟩ := h.first
  refine ⟨token, left, hlength, hwhole, htokens, fun sign hsign rest => ?_⟩
  obtain ⟨after, hnext, hleft⟩ := hstops _ (.sign hsign rest)
  rw [hnext]
  rcases hleft with rfl | ⟨rfl, rfl⟩
  · rfl
  · rw [dropOneBlank_sign hsign, List.nil_append]

/-- Induction along the tokens of a whole text, as they are read before a sign. -/
@[elab_as_elim]
theorem IsWhole.induction {motive : (t : List Char) → IsWhole t → Prop}
    (nil : motive [] isWhole_nil)
    (cons : ∀ (c : Char) (t : List Char) (token : Token) (left : List Char)
      (h : IsWhole (c :: t)) (hwhole : IsWhole left), left.length ≤ t.length →
      tokensOf (c :: t) = token :: tokensOf left →
      (∀ sign ∈ [';', '\x7b', '\x7d', ':'], ∀ rest,
        Token.next? (c :: t ++ sign :: rest) = some (token, left ++ sign :: rest)) →
      motive left hwhole → motive (c :: t) h) {t : List Char} (h : IsWhole t) : motive t h := by
  induction hn : t.length using Nat.strongRecOn generalizing t with
  | ind n ih =>
    cases t with
    | nil => exact nil
    | cons c t =>
      obtain ⟨token, left, hlength, hwhole, htokens, hnext⟩ := h.first_sign
      have hshorter : left.length < n := by
        simp only [List.length_cons] at hn
        omega
      exact cons c t token left h hwhole hlength htokens hnext
        (ih left.length hshorter hwhole rfl)

/-- Whole texts with a sign between them. -/
theorem IsWhole.append_sign {t u : List Char} (ht : IsWhole t) {sign : Char}
    (hsign : sign ∈ [';', '\x7b', '\x7d', ':']) (hu : IsWhole u) :
    IsWhole (t ++ sign :: u) ∧
      tokensOf (t ++ sign :: u) = tokensOf t ++ signToken sign :: tokensOf u := by
  refine isWhole_of_reads ?_
  rw [List.append_assoc]
  exact (ht.reads_sign hsign _).append
    (.cons (Token.next?_sign (List.mem_append_left ['!'] hsign) _) hu.reads_semicolon)

/-- A space behind a whole text is a token, or part of the last one. -/
theorem IsWhole.space {t : List Char} (h : IsWhole t) :
    IsWhole (t ++ [' ']) ∧
      (tokensOf (t ++ [' ']) = tokensOf t ∨ tokensOf (t ++ [' ']) = tokensOf t ++ [.blank]) := by
  have hblank : Token.next? [' ', ';'] = some (.blank, [';']) := rfl
  rcases h.reads (z := [' ', ';']) (.space (by decide) []) with hread | hread
  · have hmore := hread.append (.cons hblank (.nil [';']))
    have hwhole := isWhole_of_reads (t := t ++ [' ']) (by simpa using hmore)
    exact ⟨hwhole.1, .inr hwhole.2⟩
  · have hmore : Reads ((t ++ [' ']) ++ [';']) (tokensOf t) [';'] := by
      rw [List.append_assoc]
      exact hread
    have hwhole := isWhole_of_reads hmore
    exact ⟨hwhole.1, .inl hwhole.2⟩

/-- A space before a whole text is a token, or part of the first one. -/
theorem IsWhole.cons_space {t : List Char} (h : IsWhole t) :
    IsWhole (' ' :: t) ∧
      (tokensOf (' ' :: t) = tokensOf t ∨ tokensOf (' ' :: t) = .blank :: tokensOf t) := by
  have hspace : Token.next? (' ' :: (t ++ [';'])) =
      some (.blank, (t ++ [';']).dropWhile isBlank) := Token.next?_blank rfl _
  by_cases hstays : (t ++ [';']).dropWhile isBlank = t ++ [';']
  · rw [hstays] at hspace
    have hwhole := isWhole_of_reads (t := ' ' :: t) (.cons hspace h.reads_semicolon)
    exact ⟨hwhole.1, .inr hwhole.2⟩
  · -- The text begins with a blank, and its first token takes in the space.
    cases t with
    | nil => exact absurd rfl hstays
    | cons c t =>
      have hc : isBlank c = true :=
        Decidable.byContradiction fun hc => hstays (List.dropWhile_cons_of_neg hc)
      obtain ⟨token, left, -, hleft, htokens, hnext⟩ := h.first_sign
      have hfirst := hnext ';' (by decide) []
      rw [List.cons_append, Token.next?_blank hc] at hfirst
      obtain ⟨rfl, hrest⟩ := Prod.mk.inj (Option.some.inj hfirst)
      rw [List.cons_append, List.dropWhile_cons_of_pos hc, hrest] at hspace
      have hwhole := isWhole_of_reads (t := ' ' :: c :: t) (.cons hspace hleft.reads_semicolon)
      exact ⟨hwhole.1, .inl (hwhole.2.trans htokens.symm)⟩

/-! ### Blocks -/

/-- The tokens outside of all blocks; a token that opens a block is one of them. -/
def outer (blocks : List Block) : List Token → List Token
  | [] => []
  | token :: more =>
    if blocks.isEmpty then token :: outer (openAfter blocks token) more
    else outer (openAfter blocks token) more

/--
From the open blocks on, the tokens close every block, and no block around them.  A bracket of
another kind than braces may be left over, as it closes nothing.
-/
structure Balanced (blocks : List Block) (list : List Token) : Prop where
  closed : list.foldl openAfter blocks = []
  inner : .closing .curly ∉ outer blocks list

instance (blocks : List Block) (list : List Token) : Decidable (Balanced blocks list) :=
  decidable_of_iff (list.foldl openAfter blocks = [] ∧ .closing .curly ∉ outer blocks list)
    ⟨fun h => ⟨h.1, h.2⟩, fun h => ⟨h.closed, h.inner⟩⟩

theorem outer_openAfter_subset {blocks : List Block} {token : Token} {more : List Token} :
    ∀ later ∈ outer (openAfter blocks token) more, later ∈ outer blocks (token :: more) := by
  intro later hlater
  rw [outer]
  split
  · exact List.mem_cons_of_mem _ hlater
  · exact hlater

theorem Balanced.tail {blocks : List Block} {token : Token} {more : List Token}
    (h : Balanced blocks (token :: more)) : Balanced (openAfter blocks token) more where
  closed := h.closed
  inner hcurly := h.inner (outer_openAfter_subset _ hcurly)

theorem outer_append (blocks : List Block) (first last : List Token) :
    outer blocks (first ++ last) =
      outer blocks first ++ outer (first.foldl openAfter blocks) last := by
  induction first generalizing blocks with
  | nil => rfl
  | cons token first ih =>
    rw [List.cons_append, outer, outer, List.foldl_cons, ih]
    by_cases hblocks : blocks.isEmpty = true
    · rw [if_pos hblocks, if_pos hblocks, List.cons_append]
    · rw [if_neg hblocks, if_neg hblocks]

theorem Balanced.append {first last : List Token} (hfirst : Balanced [] first)
    (hlast : Balanced [] last) : Balanced [] (first ++ last) where
  closed := by rw [List.foldl_append, hfirst.closed, hlast.closed]
  inner := by
    rw [outer_append, hfirst.closed, List.mem_append, not_or]
    exact ⟨hfirst.inner, hlast.inner⟩

section Steps

variable {cs rest : List Char} {token : Token}

theorem afterOpening?_step (h : Token.next? cs = some (token, rest)) (blocks : List Block) :
    afterOpening? blocks cs =
      if blocks.isEmpty && token == .opening .curly then some rest
      else afterOpening? (openAfter blocks token) rest := by
  rw [afterOpening?]
  split
  · rename_i hnone
    simp [h] at hnone
  · rename_i hsome
    rw [h] at hsome
    obtain ⟨rfl, rfl⟩ := Prod.mk.inj (Option.some.inj hsome)
    rfl

theorem afterAtRule?_step (h : Token.next? cs = some (token, rest)) (blocks : List Block) :
    afterAtRule? blocks cs =
      if blocks.isEmpty && token == .semicolon then some rest
      else if blocks.isEmpty && token == .opening .curly then some (afterBlocks [.curly] rest)
      else afterAtRule? (openAfter blocks token) rest := by
  rw [afterAtRule?]
  split
  · rename_i hnone
    simp [h] at hnone
  · rename_i hsome
    rw [h] at hsome
    obtain ⟨rfl, rfl⟩ := Prod.mk.inj (Option.some.inj hsome)
    rfl

theorem afterBlocks_step (h : Token.next? cs = some (token, rest)) {blocks : List Block}
    (hblocks : blocks ≠ []) :
    afterBlocks blocks cs = afterBlocks (openAfter blocks token) rest := by
  rw [afterBlocks, if_neg (by simp [hblocks])]
  split
  · rename_i hnone
    simp [h] at hnone
  · rename_i hsome
    rw [h] at hsome
    obtain ⟨rfl, rfl⟩ := Prod.mk.inj (Option.some.inj hsome)
    rfl

theorem fromDeclarationEnd_step (h : Token.next? cs = some (token, rest)) {blocks : List Block}
    (hgoes : ¬ (blocks = [] ∧ (cs.head? = some ';' ∨ cs.head? = some '\x7d'))) :
    fromDeclarationEnd blocks cs = fromDeclarationEnd (openAfter blocks token) rest := by
  rw [fromDeclarationEnd, if_neg (by simpa [List.isEmpty_iff] using hgoes)]
  split
  · rename_i hnone
    simp [h] at hnone
  · rename_i hsome
    rw [h] at hsome
    obtain ⟨rfl, rfl⟩ := Prod.mk.inj (Option.some.inj hsome)
    rfl

end Steps

/-- A scan that goes on past a token unless it has a meaning outside of blocks. -/
theorem scan_reads {α : Type} (scan : List Block → List Char → α) (passes : Token → Prop)
    (hstep : ∀ blocks cs token mid, Token.next? cs = some (token, mid) →
      (blocks = [] → passes token) → scan blocks cs = scan (openAfter blocks token) mid)
    {cs rest : List Char} {list : List Token} (h : Reads cs list rest) (blocks : List Block)
    (hpasses : ∀ token ∈ outer blocks list, passes token) :
    scan blocks cs = scan (list.foldl openAfter blocks) rest := by
  induction h generalizing blocks with
  | nil => rfl
  | @cons cs mid rest token more hnext _ ih =>
    have hfirst : blocks = [] → passes token := by
      rintro rfl
      exact hpasses token (by simp [outer])
    have hmore : ∀ later ∈ outer (openAfter blocks token) more, passes later :=
      fun later hlater => hpasses later (outer_openAfter_subset later hlater)
    rw [hstep blocks cs token mid hnext hfirst, ih _ hmore, List.foldl_cons]

theorem afterOpening?_reads {cs rest : List Char} {list : List Token} (h : Reads cs list rest)
    (blocks : List Block) (hcurly : .opening .curly ∉ outer blocks list) :
    afterOpening? blocks cs = afterOpening? (list.foldl openAfter blocks) rest := by
  refine scan_reads afterOpening? (· ≠ .opening .curly) ?_ h blocks
    fun token htoken hc => hcurly (hc ▸ htoken)
  intro blocks cs token mid hnext hpasses
  rw [afterOpening?_step hnext, if_neg]
  simpa [List.isEmpty_iff] using hpasses

theorem afterAtRule?_reads {cs rest : List Char} {list : List Token} (h : Reads cs list rest)
    (blocks : List Block) (hsemicolon : .semicolon ∉ outer blocks list)
    (hcurly : .opening .curly ∉ outer blocks list) :
    afterAtRule? blocks cs = afterAtRule? (list.foldl openAfter blocks) rest := by
  refine scan_reads afterAtRule? (fun token => token ≠ .semicolon ∧ token ≠ .opening .curly) ?_ h
    blocks fun token htoken =>
      ⟨fun hc => hsemicolon (hc ▸ htoken), fun hc => hcurly (hc ▸ htoken)⟩
  intro blocks cs token mid hnext hpasses
  rw [afterAtRule?_step hnext, if_neg, if_neg]
  · simpa [List.isEmpty_iff] using fun hblocks => (hpasses hblocks).2
  · simpa [List.isEmpty_iff] using fun hblocks => (hpasses hblocks).1

/-- Inside of a block in braces that stays open. -/
theorem openAfter_append {blocks : List Block} {token : Token}
    (h : blocks = [] → token ≠ .closing .curly) (around : List Block) :
    openAfter (blocks ++ .curly :: around) token = openAfter blocks token ++ .curly :: around := by
  cases token with
  | closing block =>
    cases blocks with
    | nil =>
      have hblock : some Block.curly ≠ some block := by
        rintro ⟨rfl⟩
        exact h rfl rfl
      exact if_neg hblock
    | cons first blocks =>
      show (if some first = some block then blocks ++ .curly :: around
          else first :: blocks ++ .curly :: around) =
        (if some first = some block then blocks else first :: blocks) ++ .curly :: around
      by_cases hsame : some first = some block
      · rw [if_pos hsame, if_pos hsame]
      · rw [if_neg hsame, if_neg hsame]
  | _ => rfl

theorem afterBlocks_reads {cs rest : List Char} {list : List Token} (h : Reads cs list rest)
    (blocks : List Block) (hinner : .closing .curly ∉ outer blocks list) (around : List Block) :
    afterBlocks (blocks ++ .curly :: around) cs =
      afterBlocks (list.foldl openAfter blocks ++ .curly :: around) rest := by
  refine scan_reads (fun blocks cs => afterBlocks (blocks ++ .curly :: around) cs)
    (· ≠ .closing .curly) ?_ h blocks fun token htoken hc => hinner (hc ▸ htoken)
  intro blocks cs token mid hnext hpasses
  show afterBlocks (blocks ++ .curly :: around) cs = _
  rw [afterBlocks_step hnext (by simp), openAfter_append hpasses]

theorem fromDeclarationEnd_reads {cs rest : List Char} {list : List Token}
    (h : Reads cs list rest) (blocks : List Block)
    (hpasses : ∀ token ∈ outer blocks list, token ≠ .semicolon ∧ token ≠ .closing .curly) :
    fromDeclarationEnd blocks cs = fromDeclarationEnd (list.foldl openAfter blocks) rest := by
  refine scan_reads fromDeclarationEnd _ ?_ h blocks hpasses
  intro blocks cs token mid hnext hpasses
  refine fromDeclarationEnd_step hnext fun hend => ?_
  obtain ⟨hblocks, hhead⟩ := hend
  obtain ⟨hsemicolon, hcurly⟩ := hpasses hblocks
  cases cs with
  | nil => simp at hhead
  | cons c cs =>
    simp only [List.head?_cons, Option.some.injEq] at hhead
    rcases hhead with rfl | rfl
    · rw [Token.next?_sign (by decide)] at hnext
      exact hsemicolon (Prod.mk.inj (Option.some.inj hnext)).1.symm
    · rw [Token.next?_sign (by decide)] at hnext
      exact hcurly (Prod.mk.inj (Option.some.inj hnext)).1.symm

/-! ### Gaps -/

/-- The token separates others and is nothing else. -/
def Token.isGap : Token → Bool
  | .blank | .comment => true
  | _ => false

theorem skipBlank_of_gap {cs rest : List Char} {token : Token}
    (h : Token.next? cs = some (token, rest)) (hgap : token.isGap = true) :
    skipBlank cs = skipBlank rest := by
  rw [skipBlank]
  split
  · rename_i hsome
    rw [h] at hsome
    rw [(Prod.mk.inj (Option.some.inj hsome)).2]
  · rename_i hsome
    rw [h] at hsome
    rw [(Prod.mk.inj (Option.some.inj hsome)).2]
  · rename_i hblank hcomment
    cases token with
    | blank => exact absurd h (hblank rest)
    | comment => exact absurd h (hcomment rest)
    | _ => simp [Token.isGap] at hgap

theorem skipBlank_of_not_gap {cs : List Char}
    (h : ∀ token rest, Token.next? cs = some (token, rest) → token.isGap = false) :
    skipBlank cs = cs := by
  rw [skipBlank]
  split
  · rename_i hsome
    have hgap := h _ _ hsome
    simp [Token.isGap] at hgap
  · rename_i hsome
    have hgap := h _ _ hsome
    simp [Token.isGap] at hgap
  · rfl

theorem skipBlank_reads {cs rest : List Char} {list : List Token} (h : Reads cs list rest)
    (hgap : ∀ token ∈ list, token.isGap = true) : skipBlank cs = skipBlank rest := by
  induction h with
  | nil => rfl
  | cons hnext _ ih =>
    rw [skipBlank_of_gap hnext (hgap _ List.mem_cons_self)]
    exact ih fun token htoken => hgap token (List.mem_cons_of_mem _ htoken)

theorem skipBlank_dropWhile (cs : List Char) : skipBlank (cs.dropWhile isBlank) = skipBlank cs := by
  cases cs with
  | nil => rfl
  | cons c cs =>
    by_cases hc : isBlank c = true
    · rw [List.dropWhile_cons_of_pos hc, skipBlank_of_gap (Token.next?_blank hc cs) rfl]
    · rw [List.dropWhile_cons_of_neg hc]

theorem skipBlank_cons_blank {c : Char} (h : isBlank c = true) (cs : List Char) :
    skipBlank (c :: cs) = skipBlank cs := by
  rw [skipBlank_of_gap (Token.next?_blank h cs) rfl, skipBlank_dropWhile]

theorem skipBlank_skipBlank (cs : List Char) : skipBlank (skipBlank cs) = skipBlank cs := by
  fun_induction skipBlank cs with
  | case1 _ rest _ ih => exact ih
  | case2 _ rest _ ih => exact ih
  | case3 cs hblank hcomment =>
    refine skipBlank_of_not_gap fun token rest hnext => ?_
    cases token with
    | blank => exact absurd hnext (hblank rest)
    | comment => exact absurd hnext (hcomment rest)
    | _ => rfl

end CosmeticFilter.Css
