/-
The tokens of a style sheet before a stop.

Of all that a token can be, addresses without quotes are the most involved: they end at a
parenthesis, faulty or not, and hold escapes.  With them every reader has been followed, and
the result is one statement about tokens: a token that a semicolon ends is ended by every
other stop, and is the same token.
-/
import CosmeticFilter.Proofs.Stops

namespace CosmeticFilter.Css

open CosmeticFilter.Text

/-! ### Addresses -/

theorem afterBadUrl_cons (c : Char) (rest : List Char) :
    afterBadUrl (c :: rest) =
      if c = ')' then rest
      else if c = '\\' ∧ (rest.head? = some ')' ∨ rest.head? = some '\\') then
        afterBadUrl rest.tail
      else afterBadUrl rest := by
  by_cases hclose : c = ')'
  · subst hclose
    rw [if_pos rfl]
    rfl
  · rw [if_neg hclose]
    by_cases hescape : c = '\\' ∧ (rest.head? = some ')' ∨ rest.head? = some '\\')
    · rw [if_pos hescape]
      obtain ⟨rfl, hhead⟩ := hescape
      cases rest with
      | nil => simp at hhead
      | cons d rest =>
        simp only [List.head?_cons, Option.some.injEq] at hhead
        rcases hhead with rfl | rfl <;> rfl
    · rw [if_neg hescape, afterBadUrl]
      · exact hclose
      · rintro more rfl rfl
        exact hescape ⟨rfl, .inl rfl⟩
      · rintro more rfl rfl
        exact hescape ⟨rfl, .inr rfl⟩

theorem afterBadUrl_stops (t : List Char) (h : afterBadUrl (t ++ [';']) ≠ []) :
    Halts afterBadUrl t := by
  induction hn : t.length using Nat.strongRecOn generalizing t with
  | ind n ih =>
    cases t with
    | nil => exact absurd rfl h
    | cons c t =>
      simp only [List.length_cons] at hn
      by_cases hclose : c = ')'
      · exact ⟨t, fun z _ => by rw [List.cons_append, afterBadUrl_cons, if_pos hclose]⟩
      · by_cases hescape : c = '\\' ∧ (t.head? = some ')' ∨ t.head? = some '\\')
        · obtain ⟨d, t, rfl⟩ : ∃ d more, t = d :: more := by
            cases t with
            | nil => simp at hescape
            | cons d more => exact ⟨d, more, rfl⟩
          rw [List.head?_cons] at hescape
          have hstep : ∀ z, afterBadUrl (c :: d :: t ++ z) = afterBadUrl (t ++ z) := by
            intro z
            rw [List.cons_append, List.cons_append, afterBadUrl_cons, if_neg hclose,
              List.head?_cons, if_pos hescape]
            rfl
          rw [hstep] at h
          simp only [List.length_cons] at hn
          exact (ih t.length (by omega) t h rfl).of_step fun z _ => hstep z
        · have hstep : ∀ z, Stopped z → afterBadUrl (c :: t ++ z) = afterBadUrl (t ++ z) := by
            intro z hz
            have hnot : ¬ (c = '\\' ∧ ((t ++ z).head? = some ')' ∨
                (t ++ z).head? = some '\\')) := by
              cases t with
              | nil =>
                obtain ⟨d, rest, rfl, hd⟩ :=
                  hz.exists_head (p := fun d => d ≠ ')' ∧ d ≠ '\\') (by decide)
                simp [hd]
              | cons d t => exact hescape
            rw [List.cons_append, afterBadUrl_cons, if_neg hclose, if_neg hnot]
          rw [hstep _ stopped_semicolon] at h
          exact (ih t.length (by omega) t h rfl).of_step hstep

/-- Blanks alone do not end before a stop. -/
theorem dropWhile_isBlank_append {t : List Char} (h : t.dropWhile isBlank ≠ []) (z : List Char) :
    (t ++ z).dropWhile isBlank = t.dropWhile isBlank ++ z := by
  rw [List.dropWhile_append, if_neg (by simpa using h)]

theorem dropWhile_isBlank_semicolon {t : List Char} (h : t.dropWhile isBlank = []) :
    (t ++ [';']).dropWhile isBlank = [';'] := by
  rw [List.dropWhile_append, h]
  rfl

theorem afterUrlEnd_stops (t : List Char) (h : afterUrlEnd (t ++ [';']) ≠ []) :
    Halts afterUrlEnd t := by
  cases hstart : t.dropWhile isBlank with
  | nil =>
    exfalso
    refine h ?_
    rw [afterUrlEnd, dropWhile_isBlank_semicolon hstart]
    rfl
  | cons c rest =>
    have hstep : ∀ z, afterUrlEnd (t ++ z) =
        if c = ')' then rest ++ z else afterBadUrl (rest ++ z) := by
      intro z
      rw [afterUrlEnd, dropWhile_isBlank_append (by simp [hstart]), hstart, List.cons_append]
      split
      · rename_i heq
        simp at heq
      · rename_i heq
        obtain ⟨rfl, rfl⟩ := List.cons.inj heq
        rw [if_pos rfl]
      · rename_i hclose heq
        obtain ⟨rfl, rfl⟩ := List.cons.inj heq
        rw [if_neg hclose]
    by_cases hclose : c = ')'
    · exact ⟨rest, fun z _ => by rw [hstep, if_pos hclose]⟩
    · rw [hstep, if_neg hclose] at h
      exact (afterBadUrl_stops rest h).of_step fun z _ => by rw [hstep, if_neg hclose]

theorem afterUrlChars_semicolon : afterUrlChars [';'] = [] := by
  rw [afterUrlChars, if_neg (by decide), if_neg (by decide), if_neg (by decide),
    if_neg (by decide), afterUrlChars]

theorem afterUrlChars_stops (t : List Char) (h : afterUrlChars (t ++ [';']) ≠ []) :
    Halts afterUrlChars t := by
  induction hn : t.length using Nat.strongRecOn generalizing t with
  | ind n ih =>
    cases t with
    | nil => exact absurd afterUrlChars_semicolon h
    | cons c t =>
      simp only [List.length_cons] at hn
      by_cases hclose : c = ')'
      · exact ⟨t, fun z _ => by rw [List.cons_append, afterUrlChars, if_pos hclose]⟩
      · by_cases hblank : isBlank c = true
        · have hstep : ∀ z, afterUrlChars (c :: t ++ z) = afterUrlEnd (t ++ z) := by
            intro z
            rw [List.cons_append, afterUrlChars, if_neg hclose, if_pos hblank]
          rw [hstep] at h
          exact (afterUrlEnd_stops t h).of_step fun z _ => hstep z
        · by_cases hbad : isBadInUrl c = true
          · have hstep : ∀ z, afterUrlChars (c :: t ++ z) = afterBadUrl (t ++ z) := by
              intro z
              rw [List.cons_append, afterUrlChars, if_neg hclose, if_neg hblank, if_pos hbad]
            rw [hstep] at h
            exact (afterBadUrl_stops t h).of_step fun z _ => hstep z
          · by_cases hescape : c = '\\'
            · cases t with
              | nil =>
                exfalso
                refine h ?_
                rw [List.singleton_append, afterUrlChars, if_neg hclose, if_neg hblank,
                  if_neg hbad, if_pos hescape, if_neg (by decide)]
                show afterUrlChars [] = []
                rw [afterUrlChars]
              | cons d t =>
                by_cases hline : isNewline d = true
                · have hstep : ∀ z, afterUrlChars (c :: d :: t ++ z) =
                      afterBadUrl (d :: t ++ z) := by
                    intro z
                    rw [List.cons_append, afterUrlChars, if_neg hclose, if_neg hblank,
                      if_neg hbad, if_pos hescape, if_pos (by simpa using hline)]
                  rw [hstep] at h
                  exact (afterBadUrl_stops (d :: t) h).of_step fun z _ => hstep z
                · have hstep : ∀ z, afterUrlChars (c :: d :: t ++ z) =
                      afterUrlChars (readEscape (d :: t ++ z)).2 := by
                    intro z
                    rw [List.cons_append, afterUrlChars, if_neg hclose, if_neg hblank,
                      if_neg hbad, if_pos hescape, if_neg (by simpa using hline)]
                  exact .of_escape hstep afterUrlChars_semicolon h fun left hleft hgoes =>
                    ih left.length (by omega) left hgoes rfl
            · have hstep : ∀ z, afterUrlChars (c :: t ++ z) = afterUrlChars (t ++ z) := by
                intro z
                rw [List.cons_append, afterUrlChars, if_neg hclose, if_neg hblank, if_neg hbad,
                  if_neg hescape]
              rw [hstep] at h
              exact (ih t.length (by omega) t h rfl).of_step fun z _ => hstep z

/-- An address is in quotes whatever ends it, or it is read to its own end. -/
theorem afterUrl?_stops (t : List Char)
    (h : ∀ after, afterUrl? (t ++ [';']) = some after → after ≠ []) :
    (∀ z, Stopped z → afterUrl? (t ++ z) = none) ∨
      ∃ left, ∀ z, Stopped z → afterUrl? (t ++ z) = some (left ++ z) := by
  cases hstart : t.dropWhile isBlank with
  | nil =>
    have hnone : afterUrl? (t ++ [';']) = some (afterUrlChars [';']) := by
      rw [afterUrl?, dropWhile_isBlank_semicolon hstart]
      rfl
    exact absurd afterUrlChars_semicolon (h _ hnone)
  | cons c rest =>
    have hstep : ∀ z, afterUrl? (t ++ z) =
        if c = '"' ∨ c = '\'' then none else some (afterUrlChars (c :: rest ++ z)) := by
      intro z
      rw [afterUrl?, dropWhile_isBlank_append (by simp [hstart]), hstart, List.cons_append]
      split <;> simp_all
    by_cases hquote : c = '"' ∨ c = '\''
    · exact .inl fun z _ => by rw [hstep, if_pos hquote]
    · right
      have hgoes := h _ (by rw [hstep, if_neg hquote])
      obtain ⟨left, hleft⟩ := afterUrlChars_stops (c :: rest) hgoes
      exact ⟨left, fun z hz => by rw [hstep, if_neg hquote, hleft z hz]⟩

/-! ### Tokens -/

theorem readNamed_paren {cs name inner : List Char} (h : readName cs = (name, '(' :: inner)) :
    readNamed cs =
      match if name.map Char.toLower = ['u', 'r', 'l'] then afterUrl? inner else none with
      | some after => (.other, after)
      | none => (.opening .parenthesis, inner) := by
  unfold readNamed
  rw [h]
  rfl

theorem readNamed_ident {cs name rest : List Char} (h : readName cs = (name, rest))
    (hparen : rest.head? ≠ some '(') : readNamed cs = (.ident (String.ofList name), rest) := by
  unfold readNamed
  rw [h]
  simp only
  split
  · simp at hparen
  · rfl

theorem readNamed_stops (t : List Char) (h : (readNamed (t ++ [';'])).2 ≠ []) :
    Gives readNamed t := by
  have hread : (readName (t ++ [';'])).2 ≠ [] := by
    intro hnil
    refine h ?_
    have hname : readName (t ++ [';']) = ((readName (t ++ [';'])).1, []) := Prod.ext rfl hnil
    rw [readNamed_ident hname (by simp)]
  obtain ⟨name, left, hname⟩ := readName_stops t hread
  by_cases hparen : left.head? = some '('
  · obtain ⟨inner, rfl⟩ : ∃ inner, left = '(' :: inner := by
      cases left with
      | nil => simp at hparen
      | cons c inner => exact ⟨inner, by rw [Option.some.inj hparen]⟩
    have hcut : ∀ z, Stopped z → readName (t ++ z) = (name, '(' :: (inner ++ z)) :=
      fun z hz => Prod.ext (hname z hz).1 ((hname z hz).2.exact (by simp))
    by_cases hurl : name.map Char.toLower = ['u', 'r', 'l']
    · have hafter : ∀ after, afterUrl? (inner ++ [';']) = some after → after ≠ [] := by
        intro after hsome hnil
        refine h ?_
        rw [readNamed_paren (hcut _ stopped_semicolon), if_pos hurl, hsome]
        exact hnil
      rcases afterUrl?_stops inner hafter with hnone | ⟨last, hlast⟩
      · refine ⟨.opening .parenthesis, inner, fun z hz => ?_⟩
        rw [readNamed_paren (hcut z hz), if_pos hurl, hnone z hz]
        exact ⟨rfl, .inl rfl⟩
      · refine ⟨.other, last, fun z hz => ?_⟩
        rw [readNamed_paren (hcut z hz), if_pos hurl, hlast z hz]
        exact ⟨rfl, .inl rfl⟩
    · refine ⟨.opening .parenthesis, inner, fun z hz => ?_⟩
      rw [readNamed_paren (hcut z hz), if_neg hurl]
      exact ⟨rfl, .inl rfl⟩
  · refine ⟨.ident (String.ofList name), left, fun z hz => ?_⟩
    obtain ⟨hfirst, hrest⟩ := hname z hz
    have hhead : (readName (t ++ z)).2.head? ≠ some '(' := by
      rcases hrest with heq | ⟨-, heq⟩
      · rw [heq]
        cases left with
        | nil =>
          obtain ⟨c, rest, rfl, hc⟩ := hz.exists_head (p := (· ≠ '(')) (by decide)
          simpa using hc
        | cons c left => exact hparen
      · obtain ⟨c, rest, hdrop, hc⟩ := hz.exists_dropOneBlank (p := (· ≠ '(')) (by decide)
        rw [heq, hdrop]
        simpa using hc
    rw [readNamed_ident (Prod.ext hfirst rfl) hhead]
    exact ⟨rfl, hrest⟩

theorem readSign_stops (c : Char) (t : List Char) (h : (readSign c (t ++ [';'])).2 ≠ []) :
    Gives (fun cs => readSign c cs) t := by
  have hnumber : ∀ z, Stopped z → startsNumber (c :: (t ++ z)) = startsNumber (c :: t) :=
    fun z hz => startsNumber_stopped hz (c :: t)
  have hhead : ∀ z, Stopped z → ((t ++ z).head? == some '-') = (t.head? == some '-') := by
    intro z hz
    cases t with
    | nil =>
      obtain ⟨d, rest, rfl, hd⟩ := hz.exists_head (p := (· ≠ '-')) (by decide)
      simpa using hd
    | cons d t => rfl
  have hsign : ∀ z, Stopped z → readSign c (t ++ z) =
      if startsNumber (c :: t) then (.other, afterNumber (c :: t ++ z))
      else if c = '#' && (startsName t || startsWithDigit t || t.head? == some '-') then
        (.other, (readName (t ++ z)).2)
      else if c = '@' && startsName t then (.atKeyword, (readName (t ++ z)).2)
      else (signToken c, t ++ z) := by
    intro z hz
    rw [readSign, hnumber z hz, startsName_stopped hz, startsWithDigit_stopped hz, hhead z hz]
    rfl
  rw [hsign _ stopped_semicolon] at h
  split at h
  · rename_i hcase
    obtain ⟨left, hleft⟩ := afterNumber_stops (c :: t) h
    refine ⟨.other, left, fun z hz => ?_⟩
    simp only [hsign z hz, if_pos hcase]
    exact ⟨trivial, hleft z hz⟩
  · rename_i hnot
    split at h
    · rename_i hcase
      obtain ⟨name, left, hread⟩ := readName_stops t h
      refine ⟨.other, left, fun z hz => ?_⟩
      simp only [hsign z hz, if_neg hnot, if_pos hcase]
      exact ⟨trivial, (hread z hz).2⟩
    · rename_i hnothash
      split at h
      · rename_i hcase
        obtain ⟨name, left, hread⟩ := readName_stops t h
        refine ⟨.atKeyword, left, fun z hz => ?_⟩
        simp only [hsign z hz, if_neg hnot, if_neg hnothash, if_pos hcase]
        exact ⟨trivial, (hread z hz).2⟩
      · rename_i hnotat
        refine ⟨signToken c, t, fun z hz => ?_⟩
        simp only [hsign z hz, if_neg hnot, if_neg hnothash, if_neg hnotat]
        exact ⟨trivial, .inl rfl⟩

/-- A token that no mark of several characters begins. -/
theorem Token.next?_cons {c : Char} {rest : List Char}
    (hmarks : ∀ mark ∈ [['/', '*'], ['-', '-', '>'], ['<', '!', '-', '-']],
      ¬ mark <+: c :: rest) :
    Token.next? (c :: rest) =
      if isBlank c then some (.blank, rest.dropWhile isBlank)
      else if c = '"' ∨ c = '\'' then some (.other, afterString c rest)
      else if startsName (c :: rest) then some (readNamed (c :: rest))
      else some (readSign c rest) := by
  rw [Token.next?]
  · rintro more rfl rfl
    exact hmarks ['/', '*'] (by simp) ⟨more, rfl⟩
  · rintro more rfl rfl
    exact hmarks ['-', '-', '>'] (by simp) ⟨more, rfl⟩
  · rintro more rfl rfl
    exact hmarks ['<', '!', '-', '-'] (by simp) ⟨more, rfl⟩

/-- A run of blanks takes the space before a stop with it. -/
theorem blanks_stops (t : List Char) :
    Gives (fun cs => (Token.blank, cs.dropWhile isBlank)) t := by
  by_cases hall : t.dropWhile isBlank = []
  · refine ⟨.blank, [], fun z hz => ⟨rfl, .inr ⟨rfl, ?_⟩⟩⟩
    have hdrop : z.dropWhile isBlank = dropOneBlank z := by
      cases hz with
      | @sign c h rest =>
        have hstays := not_isBlank_of_sign (List.mem_append_left ['!'] h)
        rw [List.dropWhile_cons_of_neg (by simp [hstays.2]), dropOneBlank,
          if_neg (by simp [hstays.1]), if_neg (by simp [hstays.2])]
      | @space c h rest =>
        rw [List.dropWhile_cons_of_pos (by decide),
          List.dropWhile_cons_of_neg (by simp [(not_isBlank_of_sign h).2])]
        rfl
    show (t ++ z).dropWhile isBlank = dropOneBlank z
    rw [List.dropWhile_append, if_pos (by simp [hall]), hdrop]
  · exact ⟨.blank, t.dropWhile isBlank,
      fun z _ => ⟨rfl, .inl (dropWhile_isBlank_append hall z)⟩⟩

theorem Halts.gives {f : List Char → List Char} {t : List Char} (h : Halts f t) (token : Token) :
    Gives (fun cs => (token, f cs)) t := by
  obtain ⟨left, hleft⟩ := h
  exact ⟨token, left, fun z hz => ⟨rfl, .inl (hleft z hz)⟩⟩

/-- It is enough to follow the reader that gives the token. -/
theorem Gives.follow {f : List Char → Token × List Char} {cs s : List Char} {token : Token}
    {rest : List Char} (hgives : (f (s ++ [';'])).2 ≠ [] → Gives f s)
    (hstep : ∀ z, Stopped z → Token.next? (cs ++ z) = some (f (s ++ z)))
    (h : Token.next? (cs ++ [';']) = some (token, rest)) (hrest : rest ≠ []) :
    ∃ left, rest = left ++ [';'] ∧ ∀ z, Stopped z → ∃ after,
      Token.next? (cs ++ z) = some (token, after) ∧ Left left z after := by
  have hmark := hstep _ stopped_semicolon
  rw [h, Option.some.injEq] at hmark
  obtain ⟨given, left, hleft⟩ := hgives (by rw [← hmark]; exact hrest)
  obtain ⟨hgiven, hafter⟩ := hleft _ stopped_semicolon
  rw [← hmark] at hgiven hafter
  refine ⟨left, hafter.semicolon, fun z hz => ⟨_, ?_, (hleft z hz).2⟩⟩
  rw [hstep z hz]
  exact congrArg some (Prod.ext ((hleft z hz).1.trans hgiven.symm) rfl)

theorem Halts.follow (given : Token) {f : List Char → List Char} {cs s : List Char}
    {token : Token} {rest : List Char} (hhalts : f (s ++ [';']) ≠ [] → Halts f s)
    (hstep : ∀ z, Stopped z → Token.next? (cs ++ z) = some (given, f (s ++ z)))
    (h : Token.next? (cs ++ [';']) = some (token, rest)) (hrest : rest ≠ []) :
    ∃ left, rest = left ++ [';'] ∧ ∀ z, Stopped z → ∃ after,
      Token.next? (cs ++ z) = some (token, after) ∧ Left left z after :=
  Gives.follow (f := fun cs => (given, f cs)) (fun hgoes => (hhalts hgoes).gives given) hstep h hrest

theorem gives_rest (token : Token) (s : List Char) : Gives (fun cs => (token, cs)) s :=
  ⟨token, s, fun _ _ => ⟨rfl, .inl rfl⟩⟩

/-- **A token that a semicolon ends is ended by every stop, and is the same.** -/
theorem Token.next?_stops {c : Char} {t : List Char} {token : Token} {rest : List Char}
    (h : Token.next? (c :: t ++ [';']) = some (token, rest)) (hrest : rest ≠ []) :
    ∃ left, rest = left ++ [';'] ∧ ∀ z, Stopped z → ∃ after,
      Token.next? (c :: t ++ z) = some (token, after) ∧ Left left z after := by
  by_cases hcomment : ['/', '*'] <+: c :: t
  · obtain ⟨s, hs⟩ := hcomment
    rw [← hs] at h ⊢
    exact Halts.follow .comment (afterComment_stops s) (fun z _ => rfl) h hrest
  by_cases hclose : ['-', '-', '>'] <+: c :: t
  · obtain ⟨s, hs⟩ := hclose
    rw [← hs] at h ⊢
    exact Gives.follow (fun _ => gives_rest .other s) (fun z _ => rfl) h hrest
  by_cases hopen : ['<', '!', '-', '-'] <+: c :: t
  · obtain ⟨s, hs⟩ := hopen
    rw [← hs] at h ⊢
    exact Gives.follow (fun _ => gives_rest .other s) (fun z _ => rfl) h hrest
  have hcons : ∀ z, Stopped z → Token.next? (c :: t ++ z) = _ := fun z hz =>
    @Token.next?_cons c (t ++ z) fun mark hmark hprefix => by
      simp only [List.mem_cons, List.not_mem_nil, or_false] at hmark
      rcases hmark with rfl | rfl | rfl
      · exact hcomment (prefix_of_stopped (by decide) hz hprefix)
      · exact hclose (prefix_of_stopped (by decide) hz hprefix)
      · exact hopen (prefix_of_stopped (by decide) hz hprefix)
  by_cases hblank : isBlank c = true
  · refine Gives.follow (fun _ => blanks_stops t) (fun z hz => ?_) h hrest
    rw [hcons z hz, if_pos hblank]
  by_cases hquote : c = '"' ∨ c = '\''
  · refine Halts.follow .other (afterString_stops hquote t) (fun z hz => ?_) h hrest
    rw [hcons z hz, if_neg hblank, if_pos hquote]
  have hname : ∀ z, Stopped z → startsName (c :: (t ++ z)) = startsName (c :: t) :=
    fun z hz => startsName_stopped hz (c :: t)
  by_cases hstarts : startsName (c :: t) = true
  · refine Gives.follow (readNamed_stops (c :: t)) (fun z hz => ?_) h hrest
    rw [hcons z hz, if_neg hblank, if_neg hquote, hname z hz, if_pos hstarts]
    rfl
  · refine Gives.follow (readSign_stops c t) (fun z hz => ?_) h hrest
    rw [hcons z hz, if_neg hblank, if_neg hquote, hname z hz, if_neg hstarts]

end CosmeticFilter.Css
