/-
The bytes and the characters of a text.

A cursor over the bytes of a text gives the tokens that the reader of characters gives, and each of
them is left where the next one begins.  For the signs that are looked for are ASCII characters,
and no byte of another character is one of them; and the properties by which characters are passed
over do not tell characters beyond ASCII apart, so that a stretch of bytes is passed just as the
characters are that it belongs to.  What lies between two places is then made of whole characters.

Behind a backslash a byte is passed without a look.  It may be the first one of a character, whose
other bytes do not matter; or there is none, and the cursor has gone past the end.
-/
import CosmeticFilter.Proofs.Parentheses

namespace CosmeticFilter

open CosmeticFilter.Text

/-! ### Bytes taken for characters -/

namespace Text

/-- Characters beyond ASCII are not told apart. -/
def Coarse (p : Char → Bool) : Prop :=
  ∀ c d : Char, 128 ≤ c.toNat → 128 ≤ d.toNat → p c = p d

theorem coarse_ne {q : Char} (hq : q.toNat < 128) : Coarse (· != q) := by
  intro c d hc hd
  simp only [bne_iff_ne.mpr (ne_of_high hc hq), bne_iff_ne.mpr (ne_of_high hd hq)]

theorem coarse_isBlank : Coarse isBlank := by
  have hhigh : ∀ c : Char, 128 ≤ c.toNat → isBlank c = false := by
    intro c hc
    simp [isBlank, ne_of_high hc]
  intro c d hc hd
  rw [hhigh c hc, hhigh d hd]

theorem coarse_isNameChar : Coarse Token.isNameChar := by
  have hhigh : ∀ c : Char, 128 ≤ c.toNat → Token.isNameChar c = true := by
    intro c hc
    simp [Token.isNameChar, hc]
  intro c d hc hd
  rw [hhigh c hc, hhigh d hd]

variable {p : Char → Bool}

/-- Each byte of a character has the property if the character has it. -/
theorem Coarse.byte (hp : Coarse p) {c : Char} {b : UInt8} (hb : b ∈ String.utf8EncodeChar c) :
    p (Char.ofUInt8 b) = p c := by
  by_cases hc : c.toNat < 128
  · rw [utf8EncodeChar_ascii hc, List.mem_singleton] at hb
    rw [hb, ofUInt8_toUInt8 hc]
  · have hhigh := le_of_mem_utf8EncodeChar (Nat.le_of_not_lt hc) hb
    exact hp _ _ (UInt8.le_iff_toNat_le.mp hhigh) (Nat.le_of_not_lt hc)

theorem eq_nil_of_encode {cs : List Char} (h : encode cs = []) : cs = [] := by
  cases cs with
  | nil => rfl
  | cons c rest =>
    rw [encode_cons, List.append_eq_nil_iff] at h
    exact absurd h.1 String.utf8EncodeChar_ne_nil

/-- The bytes are passed as the characters are. -/
theorem takeWhile_encode (hp : Coarse p) (cs : List Char) :
    ((encode cs).takeWhile fun b => p (Char.ofUInt8 b)) = encode (cs.takeWhile p) := by
  induction cs with
  | nil => rfl
  | cons c rest ih =>
    by_cases hc : p c = true
    · rw [encode_cons, List.takeWhile_append_of_pos fun b hb => (hp.byte hb).trans hc, ih,
        List.takeWhile_cons_of_pos hc, encode_cons]
    · obtain ⟨b, more, hbytes⟩ :=
        List.exists_cons_of_ne_nil (String.utf8EncodeChar_ne_nil (c := c))
      have hb : ¬p (Char.ofUInt8 b) = true := by
        rwa [hp.byte (hbytes ▸ List.mem_cons_self)]
      rw [encode_cons, hbytes, List.cons_append, List.takeWhile_cons, if_neg hb,
        List.takeWhile_cons_of_neg hc]
      rfl

end Text

namespace Cursor

/-! ### Where a cursor stands -/

/-- The bytes from a place on are those of a text.  Past the end, `past` counts by how much. -/
structure Stands (bytes : List UInt8) (i : Nat) (cs : List Char) (past : Nat) : Prop where
  rest : bytes.drop i = encode cs
  place : i + (encode cs).length = bytes.length + past

namespace Stands

variable {bytes : List UInt8} {i j past : Nat} {c : Char} {cs front back : List Char}

theorem start (cs : List Char) : Stands (encode cs) 0 cs 0 :=
  ⟨rfl, Nat.add_comm _ _⟩

/-- Only the end of the text can be passed. -/
theorem beyond (h : Stands bytes i cs past) (hpast : past ≠ 0) :
    cs = [] ∧ i = bytes.length + past := by
  have hplace := h.place
  have hrest := congrArg List.length h.rest
  rw [List.length_drop] at hrest
  have hnil : encode cs = [] := List.eq_nil_of_length_eq_zero (by omega)
  rw [hnil] at hplace
  exact ⟨eq_nil_of_encode hnil, hplace⟩

/-- The cursor moves past the front of the text. -/
theorem move (h : Stands bytes i (front ++ back) past) :
    Stands bytes (i + (encode front).length) back past := by
  obtain ⟨hrest, hplace⟩ := h
  rw [encode_append] at hrest hplace
  rw [List.length_append] at hplace
  exact ⟨by rw [← List.drop_drop, hrest, List.drop_left], by omega⟩

theorem step (h : Stands bytes i (c :: cs) past) (hc : c.toNat < 128) :
    Stands bytes (i + 1) cs past := by
  have hone : (encode [c]).length = 1 := by rw [encode_ascii hc]; rfl
  have hfront : Stands bytes i ([c] ++ cs) past := h
  rw [← hone]
  exact hfront.move

theorem passWhile (h : Stands bytes i cs past) {p : Char → Bool} (hp : Coarse p) :
    Stands bytes (passWhile bytes p i) (cs.dropWhile p) past := by
  rw [Cursor.passWhile, h.rest, takeWhile_encode hp]
  rw [← List.takeWhile_append_dropWhile (p := p) (l := cs)] at h
  exact h.move

theorem getElem? (h : Stands bytes i cs past) : bytes[i]? = (encode cs).head? := by
  rw [← h.rest, List.head?_drop]

theorem signAt?_nil (h : Stands bytes i [] past) : signAt? bytes i = none := by
  rw [signAt?, h.getElem?]
  rfl

/-- A character beyond ASCII shows itself as another one. -/
theorem signAt?_cons (h : Stands bytes i (c :: cs) past) :
    ∃ d, signAt? bytes i = some d ∧ (c.toNat < 128 → d = c) ∧ (128 ≤ c.toNat → 128 ≤ d.toNat) := by
  obtain ⟨b, more, hbytes⟩ := List.exists_cons_of_ne_nil (String.utf8EncodeChar_ne_nil (c := c))
  refine ⟨Char.ofUInt8 b, ?_, fun hc => ?_, fun hc => ?_⟩
  · rw [signAt?, h.getElem?, encode_cons, hbytes]
    rfl
  · rw [utf8EncodeChar_ascii hc] at hbytes
    rw [← (List.cons.inj hbytes).1, ofUInt8_toUInt8 hc]
  · have hb : b ∈ String.utf8EncodeChar c := hbytes ▸ List.mem_cons_self
    exact UInt8.le_iff_toNat_le.mp (le_of_mem_utf8EncodeChar hc hb)

/-- An ASCII character is seen where it stands, and only there. -/
theorem signAt?_iff (h : Stands bytes i cs past) (sign : Char) (hsign : sign.toNat < 128) :
    signAt? bytes i = some sign ↔ cs.head? = some sign := by
  cases cs with
  | nil => simp [h.signAt?_nil]
  | cons c rest =>
    obtain ⟨d, hd, hascii, hhigh⟩ := h.signAt?_cons
    rw [hd, List.head?_cons, Option.some.injEq, Option.some.injEq]
    by_cases hc : c.toNat < 128
    · rw [hascii hc]
    · have hc := Nat.le_of_not_lt hc
      exact iff_of_false (ne_of_high (hhigh hc) hsign) (ne_of_high hc hsign)

theorem passOne (h : Stands bytes i cs 0) (hhead : ∀ c ∈ cs.head?, c.toNat < 128) :
    Stands bytes (passOne bytes i) (cs.drop 1) 0 := by
  have hplace := h.place
  cases cs with
  | nil =>
    have hend : ¬i < bytes.length := by simp at hplace; omega
    rw [Cursor.passOne, if_neg hend]
    exact h
  | cons c rest =>
    have hc := hhead c rfl
    have hfront : i < bytes.length := by rw [encode_ascii hc, List.length_cons] at hplace; omega
    rw [Cursor.passOne, if_pos hfront]
    exact h.step hc

/-- **What lies between two places** is decoded as it was written. -/
theorem textBetween_eq (h : Stands bytes i (front ++ back) 0) (hstop : Stands bytes j back 0) :
    textBetween bytes i j = String.ofList front := by
  have hplace := h.place
  have hend := hstop.place
  rw [encode_append, List.length_append] at hplace
  have hlength : j - i = (encode front).length := by omega
  rw [textBetween, if_pos (by omega), h.rest, encode_append, hlength, List.take_left,
    decode_encode]

theorem textBetween_passWhile (h : Stands bytes i cs 0) {p : Char → Bool} (hp : Coarse p) :
    textBetween bytes i (Cursor.passWhile bytes p i) = String.ofList (cs.takeWhile p) := by
  refine textBetween_eq ?_ (h.passWhile hp)
  rwa [List.takeWhile_append_dropWhile]

theorem textBetween_between (h : Stands bytes i cs 0) (hstop : Stands bytes j back 0)
    (hback : back <:+ cs) : textBetween bytes i j = String.ofList (between cs back) := by
  obtain ⟨front, rfl⟩ := hback
  rw [between_append]
  exact h.textBetween_eq hstop

end Stands

/-- What ends past the end is not among the bytes. -/
theorem textBetween_past {bytes : List UInt8} {j : Nat} {cs : List Char}
    (h : Stands bytes j cs 1) (i : Nat) : textBetween bytes i j = "" := by
  have hend := (h.beyond Nat.one_ne_zero).2
  exact if_neg fun hinside => by omega

/-! ### The same reading -/

/-- What bytes give is what characters give, and the cursor is left where the rest begins. -/
structure Agrees {α : Type} (bytes : List UInt8) (found : α × Nat) (read : α × List Char)
    (past : Nat) : Prop where
  value : found.1 = read.1
  stands : Stands bytes found.2 read.2 past

theorem Agrees.token {bytes : List UInt8} {found : Simple × Nat} {read : Simple × List Char}
    {past : Nat} (h : Agrees bytes found read past) :
    (some (Token.simple found.1), Cursor.mk found.2 false) =
      (some (Token.simple read.1), ⟨found.2, false⟩) := by
  rw [h.value]

section Readers

variable {bytes : List UInt8} {i past : Nat} {c : Char} {cs : List Char}

theorem readName_agrees (h : Stands bytes i cs 0) :
    Agrees bytes (readName bytes i) (Token.readName cs) 0 :=
  ⟨h.textBetween_passWhile coarse_isNameChar, h.passWhile coarse_isNameChar⟩

theorem readNamed_agrees (h : Stands bytes i (c :: cs) 0) (hc : c.toNat < 128) (sign : String)
    (make : String → Simple) :
    Agrees bytes (readNamed bytes sign make i) (Token.readNamed sign make cs) 0 := by
  obtain ⟨hvalue, hstands⟩ := readName_agrees (h.step hc)
  exact ⟨by simp only [readNamed, Token.readNamed, hvalue], hstands⟩

theorem readType_agrees (h : Stands bytes i (c :: cs) 0) :
    Agrees bytes (readType bytes i) (Token.readType c cs) 0 := by
  obtain ⟨hvalue, hstands⟩ := readName_agrees h
  unfold readType Token.readType
  simp only [hvalue]
  by_cases hc : Token.isNameChar c = true
  · have hfilled : ¬(Token.readName (c :: cs)).1.isEmpty = true := by
      simp [Token.readName, hc, String.isEmpty_iff]
    rw [if_neg hfilled, if_pos hc]
    exact ⟨rfl, hstands⟩
  · -- The sign is an ASCII character, and no name stands in front of it.
    have hascii : c.toNat < 128 := by
      by_contra hhigh
      exact hc (by simp [Token.isNameChar, Nat.le_of_not_lt hhigh])
    have hempty : (Token.readName (c :: cs)).1.isEmpty = true := by
      simp [Token.readName, hc]
    have hrest : (Token.readName (c :: cs)).2 = c :: cs := by
      simp [Token.readName, hc]
    rw [hrest] at hstands
    rw [if_pos hempty, if_neg hc]
    have hsingle : Stands bytes (readName bytes i).2 ([c] ++ cs) 0 := hstands
    refine ⟨?_, hstands.step hascii⟩
    simp only [hsingle.textBetween_eq (hstands.step hascii)]

/-! #### Attributes -/

theorem quoteAt?_eq (h : Stands bytes i cs past) :
    quoteAt? bytes i = cs.head?.filter fun c => c = '"' ∨ c = '\'' := by
  cases cs with
  | nil => rw [quoteAt?, h.signAt?_nil, List.head?_nil]
  | cons c rest =>
    obtain ⟨d, hd, hascii, hhigh⟩ := h.signAt?_cons
    rw [quoteAt?, hd, List.head?_cons]
    by_cases hc : c.toNat < 128
    · rw [hascii hc]
    · have hc := Nat.le_of_not_lt hc
      have hnone : ∀ e : Char, 128 ≤ e.toNat → ¬(e = '"' ∨ e = '\'') := by
        rintro e he (rfl | rfl) <;> exact absurd he (by decide)
      rw [Option.filter_some_neg (by simpa using hnone d (hhigh hc)),
        Option.filter_some_neg (by simpa using hnone c hc)]

theorem coarse_plain : Coarse fun c => !isBlank c && c != ']' := by
  intro c d hc hd
  have hbracket := coarse_ne (q := ']') (by decide) c d hc hd
  simp only at hbracket
  simp only [coarse_isBlank c d hc hd, hbracket]

/-- A sign that was looked for is passed if it is there. -/
theorem Stands.passSign (h : Stands bytes i cs 0) (sign : Char) (hsign : sign.toNat < 128) :
    Stands bytes (Cursor.passOne bytes (Cursor.passWhile bytes (· != sign) i))
      ((cs.dropWhile (· != sign)).drop 1) 0 := by
  refine (h.passWhile (coarse_ne hsign)).passOne fun c hc => ?_
  have heq := List.head?_dropWhile_not (· != sign) cs
  rw [hc] at heq
  obtain rfl : c = sign := by simpa using heq
  exact hsign

theorem readValue_agrees (h : Stands bytes i cs 0) :
    Agrees bytes (readValue bytes i) (Token.readValue cs) 0 := by
  unfold readValue
  rw [quoteAt?_eq h]
  cases cs with
  | nil => exact ⟨h.textBetween_passWhile coarse_plain, h.passWhile coarse_plain⟩
  | cons q rest =>
    unfold Token.readValue
    by_cases hq : q = '"' ∨ q = '\''
    · have hascii : q.toNat < 128 := by rcases hq with rfl | rfl <;> decide
      have hinner := h.step hascii
      simp only [List.head?_cons, Option.filter_some, hq, decide_true, if_true]
      exact ⟨hinner.textBetween_passWhile (coarse_ne hascii), hinner.passSign q hascii⟩
    · simp only [List.head?_cons, Option.filter_some, hq, decide_false, if_false,
        Bool.false_eq_true]
      exact ⟨h.textBetween_passWhile coarse_plain, h.passWhile coarse_plain⟩

theorem readEquals_agrees (h : Stands bytes i cs 0) :
    Agrees bytes (readEquals bytes i) (Token.afterEquals cs) 0 := by
  have hsign := h.passWhile coarse_isBlank
  unfold readEquals Token.afterEquals
  simp only [hsign.signAt?_iff '=' (by decide)]
  by_cases hhead : (cs.dropWhile isBlank).head? = some '='
  · obtain ⟨more, hmore⟩ := List.head?_eq_some_iff.mp hhead
    rw [hmore] at hsign
    have hvalue := readValue_agrees ((hsign.step (by decide)).passWhile coarse_isBlank)
    rw [if_pos hhead, hmore, hvalue.value]
    exact ⟨rfl, hvalue.stands⟩
  · rw [if_neg hhead]
    split
    · rename_i more hmore
      exact absurd (by rw [hmore]; rfl) hhead
    · exact ⟨rfl, hsign⟩

theorem readAttribute_agrees (h : Stands bytes i ('[' :: cs) 0) :
    Agrees bytes (readAttribute bytes i) (Token.readAttribute cs) 0 := by
  have hname := readName_agrees ((h.step (by decide)).passWhile coarse_isBlank)
  have hvalue := readEquals_agrees hname.stands
  have hclose := hvalue.stands.passWhile coarse_isBlank
  have hstop := hclose.passSign ']' (by decide)
  have hback := (Token.readAttribute_suffix cs).trans (List.suffix_cons '[' cs)
  rw [Token.readAttribute_eq] at hback ⊢
  unfold readAttribute
  simp only [hname.value, hvalue.value, ne_eq, hclose.signAt?_iff ']' (by decide)]
    at hback ⊢
  by_cases hhead : ((Token.afterEquals (Token.readName (cs.dropWhile isBlank)).2).2.dropWhile
      isBlank).head? = some ']'
  · obtain ⟨after, hafter⟩ := List.head?_eq_some_iff.mp hhead
    simp only [hafter, List.head?_cons, not_true, or_false] at hback hstop hclose ⊢
    split
    · rename_i hempty
      rw [if_pos hempty] at hback
      exact ⟨congrArg Simple.unsupported (h.textBetween_between hstop hback), hstop⟩
    · have hbehind := hclose.step (by decide)
      cases (Token.afterEquals (Token.readName (cs.dropWhile isBlank)).2).1 <;>
        exact ⟨rfl, hbehind⟩
  · rw [if_pos (Or.inr hhead)]
    split at hback
    · rename_i after hafter
      exact absurd (by rw [hafter]; rfl) hhead
    · exact ⟨congrArg Simple.unsupported (h.textBetween_between hstop hback), hstop⟩

/-! #### Arguments -/

/-- The cursor goes past the end if the argument ends in an escape of nothing. -/
theorem readArgument_agrees (h : Stands bytes i cs 0) :
    let arg := Token.readArgument 0 none cs
    Agrees bytes (readArgument bytes i) (String.ofList arg.text, arg.rest) arg.dangling.toNat := by
  intro arg
  have hscan : scanArgument 0 none (bytes.drop i) = scanned arg := by
    rw [h.rest]
    exact scanArgument_eq 0 quoting_none cs
  have hparts : cs = arg.text ++ if arg.closed then ')' :: arg.rest else arg.rest :=
    Token.readArgument_eq 0 none cs
  have hdangling : arg.dangling = (!arg.closed && Token.endsEscaping cs) :=
    Token.readArgument_dangling 0 none cs
  unfold readArgument
  simp only [hscan, scanned]
  by_cases hclosed : arg.closed = true
  · rw [if_pos hclosed] at hparts ⊢
    rw [hparts] at h
    rw [hdangling, hclosed]
    have hstop := h.move
    exact ⟨h.textBetween_eq hstop, hstop.step (by decide)⟩
  · have hrest : arg.rest = [] := Token.readArgument_open (Bool.eq_false_iff.mpr hclosed)
    rw [if_neg hclosed, hrest] at hparts
    rw [hparts] at h
    have hend := h.move
    have hplace : i + (encode arg.text).length = bytes.length := hend.place
    have hmin : min (i + ((encode arg.text).length + arg.dangling.toNat)) bytes.length =
        i + (encode arg.text).length := by omega
    rw [if_neg hclosed, hmin, hrest]
    refine ⟨h.textBetween_eq hend, List.drop_eq_nil_of_le ?_, ?_⟩
    · omega
    · show _ + 0 = _
      omega

theorem readPseudo_agrees (h : Stands bytes i (':' :: cs) 0) :
    Agrees bytes (readPseudo bytes i) (Token.readPseudo cs)
      (Token.isDangling (between (':' :: cs) (Token.readPseudo cs).2)).toNat := by
  have hinner := h.step (by decide)
  unfold readPseudo
  simp only [hinner.signAt?_iff ':' (by decide)]
  by_cases hcolon : cs.head? = some ':'
  · obtain ⟨more, rfl⟩ := List.head?_eq_some_iff.mp hcolon
    have hstop := (readName_agrees (hinner.step (by decide))).stands
    have hback := (Token.readPseudo_suffix (':' :: more)).trans (List.suffix_cons ':' _)
    have hplain : Token.isDangling (between (':' :: ':' :: more)
        (Token.readPseudo (':' :: more)).2) = false :=
      Token.isDangling_name [':', ':'] (by decide) more
    rw [if_pos hcolon, hplain]
    exact ⟨congrArg Simple.unsupported (h.textBetween_between hstop hback), hstop⟩
  · have hname := readName_agrees hinner
    rw [if_neg hcolon]
    unfold readArgument?
    simp only [hname.value, hname.stands.signAt?_iff '(' (by decide)]
    by_cases hparen : (Token.readName cs).2.head? = some '('
    · obtain ⟨inner, hopen⟩ := List.head?_eq_some_iff.mp hparen
      have hstands := hname.stands
      rw [hopen] at hstands
      have harg := readArgument_agrees (hstands.step (by decide))
      have hback := (Token.readPseudo_suffix cs).trans (List.suffix_cons ':' cs)
      rw [Token.readPseudo_open hopen] at hback ⊢
      rw [if_pos hparen, Token.isDangling_argument hopen]
      simp only [Option.map_some, harg.value, String.toList_ofList]
      cases Token.pseudoClass? (lower (Token.readName cs).1)
          (some (Token.readArgument 0 none inner).text) with
      | some found => exact ⟨rfl, harg.stands⟩
      | none =>
        refine ⟨congrArg Simple.unsupported ?_, harg.stands⟩
        cases hdangling : (Token.readArgument 0 none inner).dangling with
        | true =>
          have hstop := harg.stands
          rw [hdangling] at hstop
          exact textBetween_past hstop i
        | false =>
          have hstop := harg.stands
          rw [hdangling] at hstop
          exact h.textBetween_between hstop hback
    · have hplain : Token.isDangling (between (':' :: cs) (Token.readName cs).2) = false :=
        Token.isDangling_name [':'] (by decide) cs
      have hback : (Token.readName cs).2 <:+ ':' :: cs :=
        (List.dropWhile_suffix _).trans (List.suffix_cons ':' cs)
      rw [if_neg hparen, Token.readPseudo_bare hcolon hparen]
      simp only [Option.map_none, hplain]
      cases Token.pseudoClass? (lower (Token.readName cs).1) none with
      | some found => exact ⟨rfl, hname.stands⟩
      | none =>
        exact ⟨congrArg Simple.unsupported (h.textBetween_between hname.stands hback), hname.stands⟩

/-! #### Tokens -/

theorem passWhile_stay (h : Stands bytes i cs past) {p : Char → Bool} (hp : Coarse p)
    (hhead : ∀ c ∈ cs.head?, p c = false) : passWhile bytes p i = i := by
  have hnone : cs.takeWhile p = [] := by
    cases cs with
    | nil => rfl
    | cons c rest => exact List.takeWhile_cons_of_neg (by simp [hhead c rfl])
  rw [passWhile, h.rest, takeWhile_encode hp, hnone]
  rfl

theorem lt_passWhile (h : Stands bytes i (c :: cs) past) {p : Char → Bool} (hp : Coarse p)
    (hc : p c = true) : i < passWhile bytes p i := by
  have hfilled := List.length_pos_iff.mpr (String.utf8EncodeChar_ne_nil (c := c))
  rw [passWhile, h.rest, takeWhile_encode hp, List.takeWhile_cons_of_pos hc, encode_cons,
    List.length_append]
  omega

/-- At the end of the text the cursor stays. -/
theorem next_nil (h : Stands bytes i [] past) : next bytes ⟨i, false⟩ = (none, ⟨i, false⟩) := by
  have hstay := passWhile_stay h coarse_isBlank (by simp)
  simp [next, hstay, h.signAt?_nil]

/-- **A call reads the next token**, and leaves the cursor behind it. -/
theorem next_cons (h : Stands bytes i cs 0) {token : Token} {rest : List Char}
    (hnext : Token.next? cs = some (token, rest)) :
    ∃ stop, next bytes ⟨i, false⟩ = (some token, ⟨stop, false⟩) ∧
      Stands bytes stop rest (Token.isDangling (between cs rest)).toNat := by
  cases cs with
  | nil => cases hnext
  | cons c after =>
    -- Only behind a colon the cursor may go past the end.
    have hinside : ∀ {stop : Nat} {rest : List Char}, c ≠ ':' → Stands bytes stop rest 0 →
        Stands bytes stop rest (Token.isDangling (between (c :: after) rest)).toNat := by
      intro stop rest hc hstop
      rwa [Token.isDangling_of_ne hc]
    unfold Token.next? at hnext
    simp only at hnext
    by_cases hblank : isBlank c = true
    · rw [if_pos hblank] at hnext
      obtain ⟨rfl, rfl⟩ := Prod.mk.inj (Option.some.inj hnext)
      have hstop := h.passWhile coarse_isBlank
      rw [List.dropWhile_cons_of_pos hblank] at hstop
      have hmoved := lt_passWhile h coarse_isBlank hblank
      refine ⟨_, if_pos (Or.inr hmoved), hinside ?_ hstop⟩
      rintro rfl
      exact absurd hblank (by decide)
    · rw [if_neg hblank] at hnext
      have hstay : passWhile bytes isBlank i = i :=
        passWhile_stay h coarse_isBlank (by simpa using hblank)
      obtain ⟨d, hd, hascii, hhigh⟩ := h.signAt?_cons
      unfold next
      simp only [hstay, hd, Bool.false_eq_true, Nat.lt_irrefl, or_self, if_false]
      split at hnext <;> obtain ⟨rfl, rfl⟩ := Prod.mk.inj (Option.some.inj hnext)
      · obtain rfl := hascii (by decide)
        exact ⟨i + 1, rfl, hinside (by decide) (h.step (by decide))⟩
      · obtain rfl := hascii (by decide)
        exact ⟨i + 1, rfl, hinside (by decide) (h.step (by decide))⟩
      · obtain rfl := hascii (by decide)
        exact ⟨i + 1, rfl, hinside (by decide) (h.step (by decide))⟩
      · obtain rfl := hascii (by decide)
        exact ⟨i + 1, rfl, hinside (by decide) (h.step (by decide))⟩
      · obtain rfl := hascii (by decide)
        have hread := readNamed_agrees h (by decide) "." .class
        exact ⟨_, hread.token, hinside (by decide) hread.stands⟩
      · obtain rfl := hascii (by decide)
        have hread := readNamed_agrees h (by decide) "#" .id
        exact ⟨_, hread.token, hinside (by decide) hread.stands⟩
      · obtain rfl := hascii (by decide)
        have hread := readAttribute_agrees h
        exact ⟨_, hread.token, hinside (by decide) hread.stands⟩
      · obtain rfl := hascii (by decide)
        have hread := readPseudo_agrees h
        exact ⟨_, hread.token, hread.stands⟩
      · rename_i hstar hchild hadjacent hsibling hdot hhash hbracket hcolon
        have hother : ∀ sign : Char, sign.toNat < 128 → (c = sign → False) → d ≠ sign := by
          intro sign hsign hne
          by_cases hc : c.toNat < 128
          · exact hascii hc ▸ hne
          · exact ne_of_high (hhigh (Nat.le_of_not_lt hc)) hsign
        have hread := readType_agrees h
        refine ⟨_, ?_, hinside hcolon hread.stands⟩
        rw [← hread.token]
        split <;> rename_i heq <;> simp only [Option.some.injEq, reduceCtorEq] at heq
        · exact absurd heq (hother '*' (by decide) hstar)
        · exact absurd heq (hother '>' (by decide) hchild)
        · exact absurd heq (hother '+' (by decide) hadjacent)
        · exact absurd heq (hother '~' (by decide) hsibling)
        · exact absurd heq (hother '.' (by decide) hdot)
        · exact absurd heq (hother '#' (by decide) hhash)
        · exact absurd heq (hother '[' (by decide) hbracket)
        · exact absurd heq (hother ':' (by decide) hcolon)
        · rfl

end Readers

end Cursor

end CosmeticFilter
