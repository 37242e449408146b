/-
What is read of a style sheet before a stop.

A rule is put together from texts with signs behind them: a name before a colon, a selector
before the brace of its block, a value before a semicolon.  What a reader of tokens makes of
such a text must not depend on which sign this is, nor on what comes after it.  So each
reader is followed here through a text that something ends, a sign or a space and a sign.
If a semicolon is left over behind the text, then the reader stops in the text, and it stops
at the same place whatever ends the text.  Where the semicolon has been read as well, in a
string or an address that does not end or behind a backslash, nothing is said.

One thing does depend on what follows: an escape by digits takes a space behind it.
-/
import CosmeticFilter.Css.Sheet

namespace CosmeticFilter.Css

open CosmeticFilter.Text

/-! ### Stops -/

/-- What ends the text before it: a sign that stands for itself, maybe behind a space. -/
inductive Stopped : List Char → Prop
  | sign {c : Char} (h : c ∈ [';', '\x7b', '\x7d', ':']) (rest : List Char) : Stopped (c :: rest)
  | space {c : Char} (h : c ∈ [';', '\x7b', '\x7d', ':', '!']) (rest : List Char) :
      Stopped (' ' :: c :: rest)

/-- What holds of the characters in a list can be tested one by one. -/
theorem forall_mem_of_all {p : Char → Prop} [DecidablePred p] {cs : List Char}
    (h : cs.all fun c => decide (p c)) : ∀ c ∈ cs, p c := by
  simpa using h

theorem not_isBlank_of_sign {c : Char} (h : c ∈ [';', '\x7b', '\x7d', ':', '!']) :
    isNewline c = false ∧ isBlank c = false := by
  have hall : ∀ d ∈ [';', '\x7b', '\x7d', ':', '!'], isNewline d = false ∧ isBlank d = false :=
    forall_mem_of_all (by decide)
  exact hall c h

theorem stopped_semicolon : Stopped [';'] :=
  .sign (by decide) []

/-- The first character of what ends a text. -/
theorem Stopped.exists_cons {z : List Char} (h : Stopped z) :
    ∃ c rest, z = c :: rest ∧ c ∈ [';', '\x7b', '\x7d', ':', ' '] := by
  cases h with
  | sign h rest => exact ⟨_, rest, rfl, List.mem_append_left [' '] h⟩
  | space h rest => exact ⟨' ', _, rfl, by decide⟩

/-- What holds of the characters of stops holds of the first one. -/
theorem Stopped.exists_head {z : List Char} (h : Stopped z) {p : Char → Prop} [DecidablePred p]
    (hp : [';', '\x7b', '\x7d', ':', ' '].all fun c => decide (p c)) :
    ∃ c rest, z = c :: rest ∧ p c := by
  obtain ⟨c, rest, heq, hc⟩ := h.exists_cons
  exact ⟨c, rest, heq, forall_mem_of_all hp c hc⟩

/-- Where a hexadecimal escape takes the space, the sign is left. -/
theorem Stopped.exists_dropOneBlank {z : List Char} (h : Stopped z) {p : Char → Prop}
    [DecidablePred p] (hp : [';', '\x7b', '\x7d', ':', '!'].all fun c => decide (p c)) :
    ∃ c rest, dropOneBlank z = c :: rest ∧ p c := by
  cases h with
  | @sign c h rest =>
    have hsign := List.mem_append_left ['!'] h
    have hstays := not_isBlank_of_sign hsign
    refine ⟨c, rest, ?_, forall_mem_of_all hp c hsign⟩
    rw [dropOneBlank, if_neg (by simp [hstays.1]), if_neg (by simp [hstays.2])]
  | space h rest => exact ⟨_, rest, rfl, forall_mem_of_all hp _ h⟩

/-! ### What is left before a stop -/

/-- A text before a stop has been read but for `left`.  The space before the stop may be gone
then, if an escape ends the text. -/
def Left (left z rest : List Char) : Prop :=
  rest = left ++ z ∨ (left = [] ∧ rest = dropOneBlank z)

theorem Left.exact {left z rest : List Char} (h : Left left z rest) (hleft : left ≠ []) :
    rest = left ++ z := by
  rcases h with h | ⟨hnil, -⟩
  · exact h
  · exact absurd hnil hleft

/-- Before a semicolon no space is lost. -/
theorem Left.semicolon {left rest : List Char} (h : Left left [';'] rest) :
    rest = left ++ [';'] := by
  rcases h with h | ⟨rfl, h⟩
  · exact h
  · rw [h]
    rfl

/-- The reader stops in the text, and leaves the same whatever ends the text. -/
def Halts (f : List Char → List Char) (t : List Char) : Prop :=
  ∃ left, ∀ z, Stopped z → f (t ++ z) = left ++ z

/-- A reader that goes on with another one in what is left of the text. -/
theorem Halts.of_step {f g : List Char → List Char} {t s : List Char} (h : Halts g s)
    (hstep : ∀ z, Stopped z → f (t ++ z) = g (s ++ z)) : Halts f t := by
  obtain ⟨left, hleft⟩ := h
  exact ⟨left, fun z hz => by rw [hstep z hz, hleft z hz]⟩

/-- The reader gives a result in the text, the same whatever ends the text. -/
def Gives {α : Type} (f : List Char → α × List Char) (t : List Char) : Prop :=
  ∃ result left, ∀ z, Stopped z → (f (t ++ z)).1 = result ∧ Left left z (f (t ++ z)).2

/-- A reader that adds nothing leaves no more than there was. -/
theorem Gives.exists_left {α : Type} {f : List Char → α × List Char} {t : List Char}
    (h : Gives f t) (hlength : ∀ cs, (f cs).2.length ≤ cs.length) :
    ∃ result left, left.length ≤ t.length ∧
      ∀ z, Stopped z → (f (t ++ z)).1 = result ∧ Left left z (f (t ++ z)).2 := by
  obtain ⟨result, left, hread⟩ := h
  have hmark := hlength (t ++ [';'])
  rw [(hread _ stopped_semicolon).2.semicolon, List.length_append, List.length_append] at hmark
  exact ⟨result, left, Nat.le_of_add_le_add_right hmark, hread⟩

/-! ### Escapes and names -/

theorem readHex_stops (acc n : Nat) (t : List Char) :
    ∃ code left, ∀ z, Stopped z → readHex acc n (t ++ z) = (code, left ++ z) := by
  induction n generalizing acc t with
  | zero => exact ⟨acc, t, fun _ _ => by rw [readHex]⟩
  | succ n ih =>
    cases t with
    | nil =>
      refine ⟨acc, [], fun z hz => ?_⟩
      obtain ⟨c, rest, rfl, hnone⟩ := hz.exists_head (p := (hexValue? · = none)) (by decide)
      rw [List.nil_append, readHex, hnone]
    | cons c t =>
      cases hvalue : hexValue? c with
      | none => exact ⟨acc, c :: t, fun z _ => by rw [List.cons_append, readHex, hvalue]⟩
      | some d =>
        obtain ⟨code, left, hread⟩ := ih (16 * acc + d) t
        refine ⟨code, left, fun z hz => ?_⟩
        rw [List.cons_append, readHex, hvalue]
        exact hread z hz

theorem dropNewline_stops {c : Char} {t : List Char} : Halts dropNewline (c :: t) := by
  by_cases hpair : c = '\r' ∧ t.head? = some '\n'
  · obtain ⟨rfl, hhead⟩ := hpair
    obtain ⟨rest, rfl⟩ : ∃ rest, t = '\n' :: rest := by
      cases t with
      | nil => simp at hhead
      | cons d rest => exact ⟨rest, by rw [Option.some.inj hhead]⟩
    exact ⟨rest, fun z _ => rfl⟩
  · refine ⟨t, fun z hz => ?_⟩
    obtain ⟨d, rest, rfl, hd⟩ := hz.exists_head (p := (· ≠ '\n')) (by decide)
    unfold dropNewline
    split
    · rename_i tail heq
      exfalso
      obtain ⟨rfl, hrest⟩ := List.cons.inj heq
      cases t with
      | nil =>
        exact hd (List.cons.inj hrest).1
      | cons e t => exact hpair ⟨rfl, congrArg some (List.cons.inj hrest).1⟩
    · rfl

theorem dropOneBlank_stops (t : List Char) :
    ∃ left, ∀ z, Stopped z → Left left z (dropOneBlank (t ++ z)) := by
  cases t with
  | nil => exact ⟨[], fun z _ => .inr ⟨rfl, rfl⟩⟩
  | cons c t =>
    by_cases hnewline : isNewline c = true
    · obtain ⟨left, hleft⟩ := dropNewline_stops (c := c) (t := t)
      refine ⟨left, fun z hz => .inl ?_⟩
      rw [← hleft z hz, List.cons_append, dropOneBlank, if_pos hnewline]
    · by_cases hblank : isBlank c = true
      · refine ⟨t, fun z _ => .inl ?_⟩
        rw [List.cons_append, dropOneBlank, if_neg hnewline, if_pos hblank]
      · refine ⟨c :: t, fun z _ => .inl ?_⟩
        rw [List.cons_append, dropOneBlank, if_neg hnewline, if_neg hblank]

theorem readEscape_stops (c : Char) (t : List Char) : Gives readEscape (c :: t) := by
  cases hvalue : hexValue? c with
  | none =>
    refine ⟨if c = '\x00' then '\uFFFD' else c, t, fun z _ => ?_⟩
    rw [List.cons_append, readEscape, hvalue]
    exact ⟨rfl, .inl rfl⟩
  | some v =>
    obtain ⟨code, mid, hread⟩ := readHex_stops v 5 t
    obtain ⟨left, hleft⟩ := dropOneBlank_stops mid
    refine ⟨charOf code, left, fun z hz => ?_⟩
    rw [List.cons_append, readEscape, hvalue]
    simp only [hread z hz]
    exact ⟨trivial, hleft z hz⟩

/-- A reader that an escape at the end of the text takes beyond it goes on behind the escape. -/
theorem Halts.of_escape {f : List Char → List Char} {s t : List Char} {d : Char}
    (hstep : ∀ z, f (s ++ z) = f (readEscape (d :: t ++ z)).2) (hend : f [';'] = [])
    (h : f (s ++ [';']) ≠ [])
    (hgoes : ∀ left, left.length ≤ (d :: t).length → f (left ++ [';']) ≠ [] → Halts f left) :
    Halts f s := by
  obtain ⟨e, left, hlength, hread⟩ := (readEscape_stops d t).exists_left readEscape_length
  rw [hstep, (hread _ stopped_semicolon).2.semicolon] at h
  have hsome : left ≠ [] := by
    rintro rfl
    exact h hend
  exact (hgoes left hlength h).of_step fun z hz => by rw [hstep, (hread z hz).2.exact hsome]

/-- No name goes on with a stop. -/
theorem readName_stopped {z : List Char} (hz : Stopped z) :
    readName z = ([], z) ∧ readName (dropOneBlank z) = ([], dropOneBlank z) := by
  have hstops : ∀ {c : Char} (rest : List Char), c ≠ '\\' ∧ isNameChar c = false →
      readName (c :: rest) = ([], c :: rest) := by
    intro c rest hnone
    rw [readName, if_neg hnone.1, if_neg (by simp [hnone.2])]
  constructor
  · obtain ⟨c, rest, rfl, hnone⟩ :=
      hz.exists_head (p := fun c => c ≠ '\\' ∧ isNameChar c = false) (by decide)
    exact hstops rest hnone
  · obtain ⟨c, rest, heq, hnone⟩ :=
      hz.exists_dropOneBlank (p := fun c => c ≠ '\\' ∧ isNameChar c = false) (by decide)
    rw [heq]
    exact hstops rest hnone

theorem readName_escape {rest : List Char} (h : rest.head?.any isNewline = false) :
    readName ('\\' :: rest) =
      ((readEscape rest).1 :: (readName (readEscape rest).2).1,
        (readName (readEscape rest).2).2) := by
  rw [readName, if_pos rfl, if_neg (by simp [h])]

theorem readName_char {c : Char} (hescape : c ≠ '\\') (hname : isNameChar c = true)
    (rest : List Char) :
    readName (c :: rest) =
      ((if c = '\x00' then '\uFFFD' else c) :: (readName rest).1, (readName rest).2) := by
  rw [readName, if_neg hescape, if_pos hname]

/-- A name with an escape at its front ends with it, or goes on behind it. -/
theorem readName_escape_stops {d : Char} {t : List Char} (hnewline : ¬ isNewline d = true)
    (h : (readName ('\\' :: d :: t ++ [';'])).2 ≠ [])
    (hgoes : ∀ left, left.length ≤ (d :: t).length → (readName (left ++ [';'])).2 ≠ [] →
      Gives readName left) : Gives readName ('\\' :: d :: t) := by
  have hstep : ∀ z, readName ('\\' :: d :: t ++ z) =
      ((readEscape (d :: t ++ z)).1 :: (readName (readEscape (d :: t ++ z)).2).1,
        (readName (readEscape (d :: t ++ z)).2).2) :=
    fun z => readName_escape (by simpa using hnewline)
  obtain ⟨e, left, hlength, hread⟩ := (readEscape_stops d t).exists_left readEscape_length
  by_cases hleft : left = []
  · subst hleft
    refine ⟨[e], [], fun z hz => ?_⟩
    obtain ⟨hfirst, hrest⟩ := hread z hz
    have hstops : readName (readEscape (d :: t ++ z)).2 =
        ([], (readEscape (d :: t ++ z)).2) := by
      rcases hrest with heq | ⟨-, heq⟩
      · rw [heq, List.nil_append, (readName_stopped hz).1]
      · rw [heq, (readName_stopped hz).2]
    rw [hstep, hstops]
    exact ⟨by rw [hfirst], hrest⟩
  · rw [hstep, (hread _ stopped_semicolon).2.semicolon] at h
    obtain ⟨name, last, hname⟩ := hgoes left hlength h
    refine ⟨e :: name, last, fun z hz => ?_⟩
    obtain ⟨hfirst, hrest⟩ := hread z hz
    rw [hstep, hfirst, hrest.exact hleft]
    exact ⟨by rw [(hname z hz).1], (hname z hz).2⟩

/-- A name that a semicolon ends is ended by every stop, and is the same. -/
theorem readName_stops (t : List Char) (h : (readName (t ++ [';'])).2 ≠ []) :
    Gives readName t := by
  induction hn : t.length using Nat.strongRecOn generalizing t with
  | ind n ih =>
    cases t with
    | nil =>
      refine ⟨[], [], fun z hz => ?_⟩
      rw [List.nil_append, (readName_stopped hz).1]
      exact ⟨rfl, .inl rfl⟩
    | cons c t =>
      simp only [List.length_cons] at hn
      by_cases hescape : c = '\\'
      · subst hescape
        cases t with
        | nil =>
          exfalso
          refine h ?_
          rw [List.singleton_append, readName_escape (by decide)]
          show (readName []).2 = []
          rw [readName]
        | cons d t =>
          by_cases hnewline : isNewline d = true
          · refine ⟨[], '\\' :: d :: t, fun z _ => ?_⟩
            rw [List.cons_append, List.cons_append, readName, if_pos rfl,
              if_pos (by simpa using hnewline)]
            exact ⟨rfl, .inl rfl⟩
          · exact readName_escape_stops hnewline h fun left hleft hgoes =>
              ih left.length (by omega) left hgoes rfl
      · by_cases hchar : isNameChar c = true
        · have hgoes : (readName (t ++ [';'])).2 ≠ [] := by
            rwa [List.cons_append, readName_char hescape hchar] at h
          obtain ⟨name, left, hname⟩ := ih t.length (by omega) t hgoes rfl
          refine ⟨(if c = '\x00' then '\uFFFD' else c) :: name, left, fun z hz => ?_⟩
          rw [List.cons_append, readName_char hescape hchar, (hname z hz).1]
          exact ⟨rfl, (hname z hz).2⟩
        · refine ⟨[], c :: t, fun z _ => ?_⟩
          rw [List.cons_append, readName, if_neg hescape, if_neg hchar]
          exact ⟨rfl, .inl rfl⟩

/-! ### Strings and comments -/

theorem afterString_semicolon {quote : Char} (hquote : quote = '"' ∨ quote = '\'') :
    afterString quote [';'] = [] := by
  have hother : ';' ≠ quote := by
    rcases hquote with rfl | rfl <;> decide
  rw [afterString, if_neg hother, if_neg (by decide), if_neg (by decide), afterString]

/-- A string that a semicolon does not become part of is whole. -/
theorem afterString_stops {quote : Char} (hquote : quote = '"' ∨ quote = '\'') (t : List Char)
    (h : afterString quote (t ++ [';']) ≠ []) : Halts (afterString quote) t := by
  induction hn : t.length using Nat.strongRecOn generalizing t with
  | ind n ih =>
    cases t with
    | nil => exact absurd (afterString_semicolon hquote) h
    | cons c t =>
      simp only [List.length_cons] at hn
      by_cases hend : c = quote
      · exact ⟨t, fun z _ => by rw [List.cons_append, afterString, if_pos hend]⟩
      · by_cases hnewline : isNewline c = true
        · refine ⟨c :: t, fun z _ => ?_⟩
          rw [List.cons_append, afterString, if_neg hend, if_pos hnewline]
        · by_cases hescape : c = '\\'
          · cases t with
            | nil =>
              exfalso
              refine h ?_
              rw [List.singleton_append, afterString, if_neg hend, if_neg hnewline,
                if_pos hescape, if_neg (by decide)]
              show afterString quote [] = []
              rw [afterString]
            | cons d t =>
              by_cases hline : isNewline d = true
              · have hstep : ∀ z, afterString quote (c :: d :: t ++ z) =
                    afterString quote (dropNewline (d :: t ++ z)) := by
                  intro z
                  rw [List.cons_append, afterString, if_neg hend, if_neg hnewline,
                    if_pos hescape, if_pos (by simpa using hline)]
                obtain ⟨mid, hmid⟩ := dropNewline_stops (c := d) (t := t)
                have hlength := dropNewline_length (d :: t ++ [';'])
                rw [hmid _ stopped_semicolon] at hlength
                simp only [List.length_append, List.length_cons] at hlength hn
                have hgoes : afterString quote (mid ++ [';']) ≠ [] := by
                  rwa [hstep, hmid _ stopped_semicolon] at h
                exact (ih mid.length (by omega) mid hgoes rfl).of_step fun z hz => by
                  rw [hstep, hmid z hz]
              · have hstep : ∀ z, afterString quote (c :: d :: t ++ z) =
                    afterString quote (readEscape (d :: t ++ z)).2 := by
                  intro z
                  rw [List.cons_append, afterString, if_neg hend, if_neg hnewline,
                    if_pos hescape, if_neg (by simpa using hline)]
                exact .of_escape hstep (afterString_semicolon hquote) h fun left hleft hgoes =>
                  ih left.length (by omega) left hgoes rfl
          · have hstep : ∀ z, afterString quote (c :: t ++ z) = afterString quote (t ++ z) := by
              intro z
              rw [List.cons_append, afterString, if_neg hend, if_neg hnewline, if_neg hescape]
            have hgoes : afterString quote (t ++ [';']) ≠ [] := by
              rwa [hstep] at h
            exact (ih t.length (by omega) t hgoes rfl).of_step fun z _ => hstep z

/-- No stop completes a mark that begins in the text before it. -/
theorem prefix_of_stopped {mark t z : List Char}
    (hmark : mark.all (· ∉ [';', '\x7b', '\x7d', ':', ' '])) (hz : Stopped z)
    (h : mark <+: t ++ z) : mark <+: t := by
  induction mark generalizing t with
  | nil => exact List.nil_prefix
  | cons m mark ih =>
    cases t with
    | nil =>
      exfalso
      obtain ⟨c, rest, rfl, hc⟩ := hz.exists_cons
      rw [List.nil_append, List.cons_prefix_cons] at h
      exact forall_mem_of_all hmark m List.mem_cons_self (h.1 ▸ hc)
    | cons c t =>
      rw [List.cons_append, List.cons_prefix_cons] at h
      rw [List.cons_prefix_cons]
      rw [List.all_cons, Bool.and_eq_true] at hmark
      exact ⟨h.1, ih hmark.2 h.2⟩

theorem afterComment_cons {c : Char} {rest : List Char} (h : ¬ ['*', '/'] <+: c :: rest) :
    afterComment (c :: rest) = afterComment rest := by
  rw [afterComment]
  rintro more rfl rfl
  exact h ⟨more, rfl⟩

theorem afterComment_stops (t : List Char) (h : afterComment (t ++ [';']) ≠ []) :
    Halts afterComment t := by
  induction t with
  | nil => exact absurd rfl h
  | cons c t ih =>
    by_cases hend : ['*', '/'] <+: c :: t
    · obtain ⟨rest, hrest⟩ := hend
      refine ⟨rest, fun z _ => ?_⟩
      rw [← hrest]
      rfl
    · have hstep : ∀ z, Stopped z → afterComment (c :: t ++ z) = afterComment (t ++ z) :=
        fun z hz => afterComment_cons fun hc => hend (prefix_of_stopped (by decide) hz hc)
      rw [hstep _ stopped_semicolon] at h
      exact (ih h).of_step hstep

/-! ### Numbers -/

/-- A run of characters that no stop belongs to ends before it. -/
theorem dropWhile_stopped {p : Char → Bool}
    (hp : [';', '\x7b', '\x7d', ':', ' '].all fun c => decide (p c = false)) (t : List Char)
    {z : List Char} (hz : Stopped z) : (t ++ z).dropWhile p = t.dropWhile p ++ z := by
  obtain ⟨c, rest, rfl, hc⟩ := hz.exists_head hp
  induction t with
  | nil =>
    rw [List.nil_append, List.dropWhile_cons_of_neg (by simp [hc])]
    rfl
  | cons d t ih =>
    rw [List.cons_append]
    by_cases hd : p d = true
    · rw [List.dropWhile_cons_of_pos hd, List.dropWhile_cons_of_pos hd, ih]
    · rw [List.dropWhile_cons_of_neg hd, List.dropWhile_cons_of_neg hd, List.cons_append]

theorem afterSign_cons (c : Char) (rest : List Char) :
    afterSign (c :: rest) = if c = '+' ∨ c = '-' then rest else c :: rest := by
  unfold afterSign
  split <;> simp_all

theorem afterFraction_cons (c : Char) (rest : List Char) :
    afterFraction (c :: rest) =
      if c = '.' ∧ startsWithDigit rest = true then afterDigits rest else c :: rest := by
  unfold afterFraction
  split <;> simp_all

theorem afterExponent_cons (c : Char) (rest : List Char) :
    afterExponent (c :: rest) =
      if (c = 'e' ∨ c = 'E') ∧ startsWithDigit (afterSign rest) = true then
        afterDigits (afterSign rest)
      else c :: rest := by
  unfold afterExponent
  split <;> simp_all

theorem startsName_cons (c : Char) (rest : List Char) :
    startsName (c :: rest) =
      if c = '-' then rest.head?.any fun c => isNameStart c || c == '-' || c == '\\'
      else if c = '\\' then !rest.head?.any isNewline
      else isNameStart c := by
  unfold startsName
  split <;> simp_all

theorem afterUnit_cons (c : Char) (rest : List Char) :
    afterUnit (c :: rest) =
      if c = '%' then rest
      else if startsName (c :: rest) then (readName (c :: rest)).2 else c :: rest := by
  unfold afterUnit
  split <;> simp_all

section

variable {z : List Char} (hz : Stopped z)

include hz

theorem startsWithDigit_stopped (t : List Char) :
    startsWithDigit (t ++ z) = startsWithDigit t := by
  cases t with
  | nil =>
    obtain ⟨c, rest, rfl, hnone⟩ := hz.exists_head (p := (isDigit · = false)) (by decide)
    exact hnone
  | cons c t => rfl

theorem afterDigits_stopped (t : List Char) : afterDigits (t ++ z) = afterDigits t ++ z :=
  dropWhile_stopped (by decide) t hz

theorem afterSign_stopped (t : List Char) : afterSign (t ++ z) = afterSign t ++ z := by
  cases t with
  | nil =>
    obtain ⟨c, rest, rfl, hnone⟩ :=
      hz.exists_head (p := fun c => ¬ (c = '+' ∨ c = '-')) (by decide)
    rw [List.nil_append, afterSign_cons, if_neg hnone]
    rfl
  | cons c t =>
    rw [List.cons_append, afterSign_cons, afterSign_cons]
    split <;> rfl

theorem afterFraction_stopped (t : List Char) :
    afterFraction (t ++ z) = afterFraction t ++ z := by
  cases t with
  | nil =>
    obtain ⟨c, rest, rfl, hnone⟩ := hz.exists_head (p := (· ≠ '.')) (by decide)
    rw [List.nil_append, afterFraction_cons, if_neg (fun h => hnone h.1)]
    rfl
  | cons c t =>
    rw [List.cons_append, afterFraction_cons, afterFraction_cons, startsWithDigit_stopped hz,
      afterDigits_stopped hz]
    split <;> rfl

theorem afterExponent_stopped (t : List Char) :
    afterExponent (t ++ z) = afterExponent t ++ z := by
  cases t with
  | nil =>
    obtain ⟨c, rest, rfl, hnone⟩ :=
      hz.exists_head (p := fun c => ¬ (c = 'e' ∨ c = 'E')) (by decide)
    rw [List.nil_append, afterExponent_cons, if_neg (fun h => hnone h.1)]
    rfl
  | cons c t =>
    rw [List.cons_append, afterExponent_cons, afterExponent_cons, afterSign_stopped hz,
      startsWithDigit_stopped hz, afterDigits_stopped hz]
    split <;> rfl

theorem startsNumber_stopped (t : List Char) : startsNumber (t ++ z) = startsNumber t := by
  unfold startsNumber
  rw [afterSign_stopped hz]
  cases afterSign t with
  | nil =>
    obtain ⟨c, rest, rfl, hpoint, hdigit⟩ :=
      hz.exists_head (p := fun c => c ≠ '.' ∧ isDigit c = false) (by decide)
    rw [List.nil_append]
    split
    · rename_i heq
      exact absurd (List.cons.inj heq).1 hpoint
    · exact hdigit
  | cons c rest =>
    by_cases hpoint : c = '.'
    · subst hpoint
      exact startsWithDigit_stopped hz rest
    · rw [List.cons_append]
      split
      · rename_i heq
        exact absurd (List.cons.inj heq).1 hpoint
      · split
        · rename_i heq
          exact absurd (List.cons.inj heq).1 hpoint
        · rfl

theorem startsName_stopped (t : List Char) : startsName (t ++ z) = startsName t := by
  have hhead : ∀ {p : Char → Bool},
      ([';', '\x7b', '\x7d', ':', ' '].all fun c => decide (p c = false)) →
      ∀ t : List Char, (t ++ z).head?.any p = t.head?.any p := by
    intro p hp t
    cases t with
    | nil =>
      obtain ⟨c, rest, rfl, hnone⟩ := hz.exists_head hp
      simpa using hnone
    | cons c t => rfl
  cases t with
  | nil =>
    obtain ⟨c, rest, rfl, hnone⟩ := hz.exists_head
      (p := fun c => c ≠ '-' ∧ c ≠ '\\' ∧ isNameStart c = false) (by decide)
    rw [List.nil_append, startsName_cons, if_neg hnone.1, if_neg hnone.2.1]
    exact hnone.2.2
  | cons c t =>
    rw [List.cons_append, startsName_cons, startsName_cons, hhead (by decide), hhead (by decide)]

end

theorem afterUnit_stops (t : List Char) (h : afterUnit (t ++ [';']) ≠ []) :
    ∃ left, ∀ z, Stopped z → Left left z (afterUnit (t ++ z)) := by
  cases t with
  | nil =>
    refine ⟨[], fun z hz => .inl ?_⟩
    have hname := startsName_stopped hz []
    obtain ⟨c, rest, rfl, hnone⟩ := hz.exists_head (p := (· ≠ '%')) (by decide)
    rw [List.nil_append] at hname ⊢
    rw [afterUnit_cons, if_neg hnone, hname]
    rfl
  | cons c t =>
    by_cases hpercent : c = '%'
    · exact ⟨t, fun z _ => .inl (by rw [List.cons_append, afterUnit_cons, if_pos hpercent])⟩
    · by_cases hname : startsName (c :: t) = true
      · have hstep : ∀ z, Stopped z →
            afterUnit (c :: t ++ z) = (readName (c :: t ++ z)).2 := by
          intro z hz
          rw [← startsName_stopped hz] at hname
          rw [List.cons_append] at hname ⊢
          rw [afterUnit_cons, if_neg hpercent, if_pos hname]
        rw [hstep _ stopped_semicolon] at h
        obtain ⟨name, left, hread⟩ := readName_stops (c :: t) h
        refine ⟨left, fun z hz => ?_⟩
        rw [hstep z hz]
        exact (hread z hz).2
      · refine ⟨c :: t, fun z hz => .inl ?_⟩
        rw [← startsName_stopped hz] at hname
        rw [List.cons_append] at hname ⊢
        rw [afterUnit_cons, if_neg hpercent, if_neg hname]

theorem afterNumber_stops (t : List Char) (h : afterNumber (t ++ [';']) ≠ []) :
    ∃ left, ∀ z, Stopped z → Left left z (afterNumber (t ++ z)) := by
  have hstep : ∀ z, Stopped z → afterNumber (t ++ z) =
      afterUnit (afterExponent (afterFraction (afterDigits (afterSign t))) ++ z) := by
    intro z hz
    rw [afterNumber, afterSign_stopped hz, afterDigits_stopped hz, afterFraction_stopped hz,
      afterExponent_stopped hz]
  rw [hstep _ stopped_semicolon] at h
  obtain ⟨left, hleft⟩ := afterUnit_stops _ h
  refine ⟨left, fun z hz => ?_⟩
  rw [hstep z hz]
  exact hleft z hz

end CosmeticFilter.Css
