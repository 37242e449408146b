/-
The tokens tile their text.

The reader is called until it gives no token.  Each call goes on where the one before has left the
cursor, and the bytes over which the calls have moved it are those of the text, in order and
without a gap.  So each token has a source of whole characters, which is what an unsupported one
keeps.  All of this is carried by one relation between a cursor, the text behind it and the calls,
which a call that gives a token extends at the front.

The cursor stays among the bytes, but for one kind of text: a pseudo-class at its end that ends in
a backslash with nothing to escape.  There it is left one byte past the end, where no source can be
cut out, and what is given in its place is the empty text.
-/
import CosmeticFilter.Proofs.ByteReading

namespace CosmeticFilter

open CosmeticFilter.Text

namespace Cursor

/-! ### The calls for a text -/

/-- A call has given the token, and has read it from this source. -/
structure Call.Reads (bytes : List UInt8) (call : Call) (token : Token) (source : List Char) :
    Prop where
  filled : source ≠ []
  /-- The cursor has moved over the bytes of the source. -/
  piece : call.piece bytes = encode source
  /-- It is left behind them, and one byte further if they end in an escape of nothing. -/
  stop : call.stop.index =
    call.start.index + (encode source).length + (Token.isDangling source).toNat
  /-- Otherwise it does not pass the end. -/
  past : bytes.length < call.stop.index ↔ Token.isDangling source = true
  /-- The source of a sign or a condition has no blanks at its front. -/
  sign : token ≠ .blank → ∀ c ∈ source.head?, isBlank c = false
  /-- What is unsupported keeps its source. -/
  kept : Token.isDangling source = false →
    ∀ text, token = .simple (.unsupported text) → text = String.ofList source
  /-- What ends past the end is unsupported, and keeps nothing. -/
  lost : Token.isDangling source = true → token = .simple (.unsupported "")

/-- The calls read the text from its front to its end, each from where the last one has ended. -/
inductive Tiles (bytes : List UInt8) : Cursor → List Char → List Call → Prop
  | done (cur : Cursor) : Tiles bytes cur [] [⟨cur, none, cur⟩]
  | call {cur stop : Cursor} {token : Token} {source rest : List Char} {made : List Call}
      (hnext : Token.next? (source ++ rest) = some (token, rest))
      (hreads : Call.Reads bytes ⟨cur, some token, stop⟩ token source)
      (hrest : Tiles bytes stop rest made) :
      Tiles bytes cur (source ++ rest) (⟨cur, some token, stop⟩ :: made)

/-- **One call.**  It moves the cursor over the source of its token, and no further. -/
theorem next_reads {bytes : List UInt8} {i : Nat} {source rest : List Char} {token : Token}
    (h : Stands bytes i (source ++ rest) 0)
    (hnext : Token.next? (source ++ rest) = some (token, rest)) :
    ∃ stop, next bytes ⟨i, false⟩ = (some token, ⟨stop, false⟩) ∧
      Call.Reads bytes ⟨⟨i, false⟩, some token, ⟨stop, false⟩⟩ token source ∧
      Stands bytes stop rest (Token.isDangling source).toNat := by
  obtain ⟨stop, hcall, hstop⟩ := next_cons h hnext
  rw [between_append] at hstop
  have hfilled : source ≠ [] := by
    rintro rfl
    exact Nat.lt_irrefl _ (Token.next?_length hnext)
  have hplace := h.place
  have hend := hstop.place
  rw [encode_append, List.length_append] at hplace
  -- What ends past the end is the last of the text.
  have hpast : Token.isDangling source = true → rest = [] ∧ stop = bytes.length + 1 := by
    intro hdangling
    rw [hdangling] at hstop
    exact hstop.beyond Nat.one_ne_zero
  refine ⟨stop, hcall, ⟨hfilled, ?_, ?_, ?_, fun htoken c hc => ?_, ?_, ?_⟩, hstop⟩
  · show (bytes.take stop).drop i = encode source
    rw [List.drop_take, h.rest, encode_append]
    cases hdangling : Token.isDangling source with
    | true =>
      obtain ⟨rfl, rfl⟩ := hpast hdangling
      rw [encode_nil, List.append_nil]
      rw [encode_nil, List.length_nil] at hplace
      exact List.take_of_length_le (by omega)
    | false =>
      rw [hdangling, Bool.toNat_false] at hend
      exact List.take_left' (by omega)
  · show stop = i + (encode source).length + (Token.isDangling source).toNat
    omega
  · show bytes.length < stop ↔ Token.isDangling source = true
    refine ⟨fun hstop => ?_, fun hdangling => (hpast hdangling).2 ▸ Nat.lt_succ_self _⟩
    by_contra hplain
    rw [Bool.eq_false_iff.mpr hplain, Bool.toNat_false] at hend
    omega
  · refine Token.head_of_next? hnext htoken c ?_
    rw [List.head?_append, hc]
    rfl
  · rintro hplain text rfl
    have htext := Token.next?_unsupported hnext
    rw [between_append] at htext
    exact htext hplain
  · intro hdangling
    refine Token.next?_isDangling hnext ?_
    rwa [between_append]

/-- From wherever the reader stands, its calls read what is left of the text. -/
theorem tiles_calls {bytes : List UInt8} {i past : Nat} {cs : List Char}
    (h : Stands bytes i cs past) : Tiles bytes ⟨i, false⟩ cs (calls bytes ⟨i, false⟩) := by
  induction hlength : cs.length using Nat.strongRecOn generalizing cs i past with
  | ind length ih =>
    subst hlength
    cases hnext : Token.next? cs with
    | none =>
      obtain rfl := Token.eq_nil_of_next? hnext
      rw [calls_none (next_nil h)]
      exact .done _
    | some found =>
      obtain ⟨token, rest⟩ := found
      obtain ⟨source, rfl⟩ := Token.next?_suffix hnext
      -- Something is left to read, so that the end cannot have been passed.
      obtain rfl : past = 0 := by
        by_contra hpast
        rw [(h.beyond hpast).1] at hnext
        cases hnext
      obtain ⟨stop, hcall, hreads, hstop⟩ := next_reads h hnext
      rw [calls_some hcall]
      exact .call hnext hreads (ih rest.length (Token.next?_length hnext) hstop rfl)

namespace Tiles

variable {bytes : List UInt8} {cur : Cursor} {cs : List Char} {made : List Call}

theorem tokens (h : Tiles bytes cur cs made) :
    made.map Call.token? = (Token.all cs).map some ++ [none] := by
  induction h with
  | done cur => rw [Token.all_eq]; rfl
  | call hnext _ _ ih => rw [List.map_cons, ih, Token.all_cons hnext]; rfl

theorem pieces (h : Tiles bytes cur cs made) : made.flatMap (Call.piece bytes) = encode cs := by
  induction h with
  | done cur => simp [Call.piece]
  | call _ hreads _ ih => rw [List.flatMap_cons, ih, hreads.piece, encode_append]

theorem head (h : Tiles bytes cur cs made) : made.head?.map Call.start = some cur := by
  cases h <;> rfl

theorem linked (h : Tiles bytes cur cs made) :
    made.IsChain fun call later => call.stop = later.start := by
  induction h with
  | done cur => exact .singleton _
  | call _ _ hrest ih =>
    refine List.isChain_cons.mpr ⟨fun later hlater => ?_, ih⟩
    have hstart := hrest.head
    rw [Option.mem_def.mp hlater] at hstart
    exact (Option.some.inj hstart).symm

theorem reads (h : Tiles bytes cur cs made) : ∀ call ∈ made,
    match call.token? with
    | none => call.stop = call.start
    | some token => ∃ source, call.Reads bytes token source := by
  induction h with
  | done cur => simp
  | call _ hreads _ ih => exact List.forall_mem_cons.mpr ⟨⟨_, hreads⟩, ih⟩

end Tiles

/--
**The calls tile the text.**  They give its tokens, and then none.  There is at most one more than
bytes.  The first starts at the front of the text, each other one where the one before has left the
cursor, and what they have moved it over is, together, the text.

What a call gives, it has read from whole characters, the first of which is no blank unless blanks
are what it gives; and what is unsupported is given as it was written.  Only a pseudo-class that
dangles, and so is the last thing in the text, is given as an empty text, and leaves the cursor one
byte past the end.
-/
theorem calls_tile (text : String) :
    let bytes := text.toUTF8.data.toList
    let made := calls bytes .start
    made.map Call.token? = (Token.all text.toList).map some ++ [none] ∧
      made.length ≤ bytes.length + 1 ∧
      made.head?.map Call.start = some .start ∧
      made.IsChain (fun call later => call.stop = later.start) ∧
      made.flatMap (Call.piece bytes) = bytes ∧
      ∀ call ∈ made,
        match call.token? with
        | none => call.stop = call.start
        | some token => ∃ source, call.Reads bytes token source := by
  intro bytes made
  have hbytes : bytes = encode text.toList := toUTF8_eq_encode text
  have hstart : Stands bytes 0 text.toList 0 := by
    rw [hbytes]
    exact .start text.toList
  have htiles : Tiles bytes .start text.toList made := tiles_calls hstart
  exact ⟨htiles.tokens, length_calls_le bytes .start, htiles.head, htiles.linked,
    htiles.pieces.trans hbytes.symm, htiles.reads⟩

/-- Of a pseudo-class that ends in a backslash nothing is kept, and the cursor passes the end. -/
theorem dangling_text_lost :
    let bytes := ":a(\\".toUTF8.data.toList
    bytes.length = 4 ∧ calls bytes .start =
      [⟨⟨0, false⟩, some (.simple (.unsupported "")), ⟨5, false⟩⟩,
        ⟨⟨5, false⟩, none, ⟨5, false⟩⟩] := by
  cbv

end Cursor

end CosmeticFilter
