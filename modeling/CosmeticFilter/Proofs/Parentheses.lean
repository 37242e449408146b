/-
Where an argument ends.

Two readers look for the parenthesis that closes an argument: the one of extended selectors,
which keeps its account as a nesting, and the one of tokens, which counts and remembers a quote.
They take the same steps, so they stop at the same parenthesis, and an argument that is not
closed is everything that is left.

The cursor over the bytes stops there as well.  All signs that it looks for are ASCII characters,
and the bytes of any other character are none of them.  It may well take only the first byte of
such a character with a backslash; the bytes that it meets then do not matter to it.
-/
import CosmeticFilter.Proofs.Cursor
import CosmeticFilter.Proofs.Sources

namespace CosmeticFilter

open SelectorList
open CosmeticFilter.Text

/-! ### The two readers -/

/-- Both readers stop at the same parenthesis, from wherever they start. -/
theorem closeArgument?_eq (depth : Nat) (quote : Option Char) (cs : List Char) :
    closeArgument? ⟨depth, quote⟩ cs =
      if (Token.readArgument depth quote cs).closed then
        some ((Token.readArgument depth quote cs).text, (Token.readArgument depth quote cs).rest)
      else none := by
  -- A character in front of what is read is in front of both arguments.
  have hcons : ∀ (c : Char) (arg : Token.Argument),
      (if arg.closed then some (arg.text, arg.rest) else none).map
          (fun found : List Char × List Char => (c :: found.1, found.2)) =
        if (arg.cons c).closed then some ((arg.cons c).text, (arg.cons c).rest) else none := by
    intro c arg
    unfold Token.Argument.cons
    cases arg.closed <;> rfl
  fun_induction Token.readArgument depth quote cs with
  | case1 => rfl
  | case2 => rfl
  | case3 depth quote c rest ih =>
    rw [closeArgument?, ih, ← hcons, ← hcons, Option.map_map]
    rfl
  | case4 depth c rest hend hescape q ih =>
    have hopen : ¬(c = ')' ∧ (⟨depth, some q⟩ : Nesting) = .top) := by
      rintro ⟨-, htop⟩
      cases htop
    have hafter : (⟨depth, some q⟩ : Nesting).after c =
        ⟨depth, if c = q then none else some q⟩ := by
      by_cases hq : c = q <;> simp [Nesting.after, hq]
    rw [closeArgument?_cons (ne_backslash hend hescape), if_neg hopen, hafter, ih, hcons]
  | case5 depth c rest hend hescape hquote ih =>
    have hopen : ¬(c = ')' ∧ (⟨depth, none⟩ : Nesting) = .top) := by
      rintro ⟨rfl, -⟩
      exact absurd hquote (by decide)
    have hafter : (⟨depth, none⟩ : Nesting).after c = ⟨depth, some c⟩ := by
      simp only [Nesting.after, if_pos hquote]
    rw [closeArgument?_cons (ne_backslash hend hescape), if_neg hopen, hafter, ih, hcons]
  | case6 depth rest hend hescape hquote ih =>
    have hafter : (⟨depth, none⟩ : Nesting).after '(' = ⟨depth + 1, none⟩ := by
      simp [Nesting.after]
    rw [closeArgument?_cons (by decide), if_neg (fun h => absurd h.1 (by decide)), hafter, ih,
      hcons]
  | case7 rest =>
    rw [closeArgument?_cons (by decide), if_pos ⟨rfl, rfl⟩]
    rfl
  | case8 rest outer hend hescape hquote hparen ih =>
    have hopen : ¬(')' = ')' ∧ (⟨outer + 1, none⟩ : Nesting) = .top) := by
      rintro ⟨-, htop⟩
      cases htop
    have hafter : (⟨outer + 1, none⟩ : Nesting).after ')' = ⟨outer, none⟩ := by
      simp [Nesting.after]
    rw [closeArgument?_cons (by decide), if_neg hopen, hafter, ih, hcons]
  | case9 depth c rest hend hescape hquote hparen hclose ih =>
    have hafter : (⟨depth, none⟩ : Nesting).after c = ⟨depth, none⟩ := by
      simp only [Nesting.after, if_neg hquote, if_neg hparen, if_neg hclose]
    rw [closeArgument?_cons (ne_backslash hend hescape), if_neg (fun h => hclose h.1), hafter, ih,
      hcons]

/-! ### The bytes of characters -/

/-- A character beyond ASCII has no byte that is an ASCII character. -/
theorem le_of_mem_utf8EncodeChar {c : Char} (hc : 128 ≤ c.toNat) {b : UInt8}
    (hb : b ∈ String.utf8EncodeChar c) : 128 ≤ b := by
  -- Each of its bytes is at least `0x80` by the way it is made.
  have hmade : ∀ n, 128 ≤ n % 256 → 128 ≤ UInt8.ofNat n := by
    intro n hn
    rw [UInt8.le_iff_toNat_le, UInt8.toNat_ofNat]
    exact hn
  have hval : c.val.toNat = c.toNat := rfl
  unfold String.utf8EncodeChar at hb
  simp only [hval] at hb
  by_cases hone : c.toNat ≤ 0x7f
  · omega
  · rw [if_neg hone] at hb
    by_cases htwo : c.toNat ≤ 0x7ff
    · rw [if_pos htwo] at hb
      simp only [List.mem_cons, List.not_mem_nil, or_false] at hb
      rcases hb with rfl | rfl <;> exact hmade _ (by omega)
    · rw [if_neg htwo] at hb
      by_cases hthree : c.toNat ≤ 0xffff
      · rw [if_pos hthree] at hb
        simp only [List.mem_cons, List.not_mem_nil, or_false] at hb
        rcases hb with rfl | rfl | rfl <;> exact hmade _ (by omega)
      · rw [if_neg hthree] at hb
        simp only [List.mem_cons, List.not_mem_nil, or_false] at hb
        rcases hb with rfl | rfl | rfl | rfl <;> exact hmade _ (by omega)

theorem utf8EncodeChar_ascii {c : Char} (hc : c.toNat < 128) :
    String.utf8EncodeChar c = [c.toUInt8] := by
  have hsize : c.utf8Size = 1 := by
    rw [Char.utf8Size_eq_one_iff, UInt32.le_iff_toNat_le]
    exact Nat.le_of_lt_succ hc
  exact String.utf8EncodeChar_eq_singleton hsize

/-- Behind a character's first byte, no byte is a sign. -/
theorem utf8EncodeChar_tail (c : Char) :
    ∃ b more, String.utf8EncodeChar c = b :: more ∧ ∀ other ∈ more, 128 ≤ other := by
  by_cases hc : c.toNat < 128
  · exact ⟨c.toUInt8, [], utf8EncodeChar_ascii hc, by simp⟩
  · obtain ⟨b, more, heq⟩ := List.exists_cons_of_ne_nil (String.utf8EncodeChar_ne_nil (c := c))
    refine ⟨b, more, heq, fun other hother => ?_⟩
    exact le_of_mem_utf8EncodeChar (by omega) (heq ▸ List.mem_cons_of_mem _ hother)

namespace Text

theorem ne_of_high {c d : Char} (hc : 128 ≤ c.toNat) (hd : d.toNat < 128) : c ≠ d := by
  rintro rfl
  omega

theorem ofUInt8_toUInt8 {c : Char} (hc : c.toNat < 128) : Char.ofUInt8 c.toUInt8 = c := by
  refine Char.toNat_inj.mp ?_
  show c.toNat % 256 = c.toNat
  omega

theorem encode_ascii {c : Char} (hc : c.toNat < 128) (cs : List Char) :
    encode (c :: cs) = c.toUInt8 :: encode cs := by
  rw [encode_cons, utf8EncodeChar_ascii hc, List.singleton_append]

theorem toUTF8_eq_encode (text : String) : text.toUTF8.data.toList = encode text.toList := by
  rw [String.toUTF8_eq_toByteArray, ← String.utf8Encode_toList, List.utf8Encode,
    List.toList_data_toByteArray, encode]

/-- A text is as long in bytes as its characters together. -/
theorem length_encode (cs : List Char) :
    (encode cs).length = (String.ofList cs).utf8ByteSize := by
  rw [← String.size_toByteArray, String.toByteArray_ofList, List.utf8Encode,
    List.size_toByteArray, encode]

end Text

/-! ### In bytes -/

/-- The quotes that a scan of the text remembers are ASCII characters. -/
def Quoting (quote : Option Char) : Prop :=
  ∀ q ∈ quote, q.toNat < 128

namespace Cursor

theorem quoting_none : Quoting none :=
  fun _ hq => nomatch hq

/-- A byte that is no ASCII character is passed over. -/
theorem scanArgument_high {b : UInt8} (hb : 128 ≤ b) {quote : Option Char} (hquote : Quoting quote)
    (depth : Nat) (rest : List UInt8) :
    scanArgument depth quote (b :: rest) = (scanArgument depth quote rest).behind 1 := by
  have hsign : ∀ sign : Char, sign.toNat < 128 → Char.ofUInt8 b ≠ sign := fun sign hsign =>
    ne_of_high (UInt8.le_iff_toNat_le.mp hb) hsign
  rw [scanArgument.eq_def]
  cases quote with
  | some q => simp only [hsign '\\' (by decide), if_false, hsign q (hquote q rfl)]
  | none =>
    simp only [hsign '\\' (by decide), hsign '"' (by decide), hsign '\'' (by decide),
      hsign '(' (by decide), hsign ')' (by decide), if_false, or_self]

theorem scanArgument_append {front : List UInt8} (hfront : ∀ b ∈ front, 128 ≤ b)
    {quote : Option Char} (hquote : Quoting quote) (depth : Nat) (rest : List UInt8) :
    scanArgument depth quote (front ++ rest) =
      (scanArgument depth quote rest).behind front.length := by
  induction front with
  | nil => rfl
  | cons b more ih =>
    obtain ⟨hb, hmore⟩ := List.forall_mem_cons.mp hfront
    rw [List.cons_append, scanArgument_high hb hquote, ih hmore]
    rfl

/-- Where the scan of the bytes stops if this argument is read. -/
def scanned (arg : Token.Argument) : Scanned :=
  ⟨(encode arg.text).length + arg.dangling.toNat, arg.closed⟩

theorem scanned_cons (c : Char) (arg : Token.Argument) :
    scanned (arg.cons c) = (scanned arg).behind (String.utf8EncodeChar c).length := by
  simp only [scanned, Token.Argument.cons, Scanned.behind, encode_cons, List.length_append,
    Scanned.mk.injEq, and_true]
  omega

theorem scanned_ascii {c : Char} (hc : c.toNat < 128) (arg : Token.Argument) :
    scanned (arg.cons c) = (scanned arg).behind 1 := by
  rw [scanned_cons, utf8EncodeChar_ascii hc]
  rfl

/-- **The scan of the bytes** stops where the argument ends. -/
theorem scanArgument_eq (depth : Nat) {quote : Option Char} (hquote : Quoting quote)
    (cs : List Char) :
    scanArgument depth quote (encode cs) = scanned (Token.readArgument depth quote cs) := by
  have hnone := quoting_none
  fun_induction Token.readArgument depth quote cs with
  | case1 => rfl
  | case2 => rfl
  | case3 depth quote c rest ih =>
    -- The backslash takes the first byte of the character, and the others do not matter.
    obtain ⟨b, more, hbytes, hmore⟩ := utf8EncodeChar_tail c
    rw [encode_ascii (by decide), encode_cons, hbytes, List.cons_append, scanArgument.eq_def,
      scanned_ascii (by decide), scanned_cons, hbytes, ← ih hquote]
    simp only [ofUInt8_toUInt8 (c := '\\') (by decide), if_true,
      scanArgument_append hmore hquote]
    rfl
  | case4 depth c rest hend hescape q ih =>
    have hslash := ne_backslash hend hescape
    by_cases hc : c.toNat < 128
    · have hafter : Quoting (if c = q then none else some q) := by
        split
        · exact hnone
        · exact hquote
      rw [encode_ascii hc, scanArgument.eq_def, scanned_ascii hc, ← ih hafter]
      simp only [ofUInt8_toUInt8 hc, if_neg hslash]
    · have hc := Nat.le_of_not_lt hc
      have hother : c ≠ q := ne_of_high hc (hquote q rfl)
      rw [if_neg hother] at ih ⊢
      rw [encode_cons, scanArgument_append (fun b => le_of_mem_utf8EncodeChar hc) hquote,
        scanned_cons, ih hquote]
  | case5 depth c rest hend hescape hsign ih =>
    have hc : c.toNat < 128 := by rcases hsign with rfl | rfl <;> decide
    have hafter : Quoting (some c) := fun q hq => Option.some.inj hq ▸ hc
    rw [encode_ascii hc, scanArgument.eq_def, scanned_ascii hc, ← ih hafter]
    simp only [ofUInt8_toUInt8 hc, if_neg (ne_backslash hend hescape), if_pos hsign]
  | case6 depth rest hend hescape hsign ih =>
    rw [encode_ascii (by decide), scanArgument.eq_def, scanned_ascii (by decide), ← ih hnone]
    simp only [ofUInt8_toUInt8 (c := '(') (by decide), if_neg (ne_backslash hend hescape),
      if_neg hsign, if_true]
  | case7 rest =>
    rw [encode_ascii (by decide), scanArgument.eq_def]
    rfl
  | case8 rest outer hend hescape hsign hparen ih =>
    rw [encode_ascii (by decide), scanArgument.eq_def, scanned_ascii (by decide), ← ih hnone]
    simp only [ofUInt8_toUInt8 (c := ')') (by decide), if_neg (ne_backslash hend hescape),
      if_neg hsign, if_neg hparen, if_true]
  | case9 depth c rest hend hescape hsign hparen hclose ih =>
    by_cases hc : c.toNat < 128
    · rw [encode_ascii hc, scanArgument.eq_def, scanned_ascii hc, ← ih hnone]
      simp only [ofUInt8_toUInt8 hc, if_neg (ne_backslash hend hescape), if_neg hsign,
        if_neg hparen, if_neg hclose]
    · have hc := Nat.le_of_not_lt hc
      rw [encode_cons, scanArgument_append (fun b => le_of_mem_utf8EncodeChar hc) hnone,
        scanned_cons, ih hnone]

end Cursor

/-- Where the cursor over the bytes finds the parenthesis that closes an argument, if it does. -/
def closingOffset? (depth : Nat) (quote : Option Char) (bytes : List UInt8) : Option Nat :=
  let scan := Cursor.scanArgument depth quote bytes
  if scan.closed then some scan.offset else none

/--
**The argument readers agree.**  Behind an opening parenthesis, the reader of extended selectors
finds a closing one just where the reader of tokens does, with the same argument in front of it
and the same text behind it.  The cursor over the bytes finds it at the same offset.  Where it
finds none, the reader of tokens takes everything that is left as the argument.
-/
theorem argument_readers_agree (s : String) :
    let read := Token.readArgument 0 none s.toList
    closeArgument? .top s.toList =
        (if read.closed then some (read.text, read.rest) else none) ∧
      closingOffset? 0 none s.toUTF8.data.toList =
        (if read.closed then some (String.ofList read.text).utf8ByteSize else none) ∧
      (read.closed = true → s.toList = read.text ++ ')' :: read.rest) ∧
      (closeArgument? .top s.toList = none → read.text = s.toList ∧ read.rest = []) := by
  intro read
  have hclose : closeArgument? .top s.toList =
      if read.closed then some (read.text, read.rest) else none :=
    closeArgument?_eq 0 none s.toList
  have hparts := Token.readArgument_eq 0 none s.toList
  refine ⟨hclose, ?_, fun hclosed => ?_, fun hnone => ?_⟩
  · have hscan : Cursor.scanArgument 0 none s.toUTF8.data.toList = Cursor.scanned read := by
      rw [toUTF8_eq_encode]
      exact Cursor.scanArgument_eq 0 Cursor.quoting_none s.toList
    have hdangling : read.dangling = (!read.closed && Token.endsEscaping s.toList) :=
      Token.readArgument_dangling 0 none s.toList
    simp only [closingOffset?, hscan, Cursor.scanned]
    split
    · rename_i hclosed
      rw [hclosed, Bool.not_true, Bool.false_and] at hdangling
      rw [hdangling, length_encode]
      rfl
    · rfl
  · rwa [if_pos hclosed] at hparts
  · have hopen : read.closed = false := by
      cases hclosed : read.closed with
      | false => rfl
      | true => simp [hclose, hclosed] at hnone
    have hrest : read.rest = [] := Token.readArgument_open hopen
    rw [if_neg (Bool.eq_false_iff.mp hopen), show _ = [] from hrest, List.append_nil] at hparts
    exact ⟨hparts.symm, hrest⟩

end CosmeticFilter
