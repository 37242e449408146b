/-
Reading selector text by its bytes.

The tokens of a text can be read from its bytes as well, by a cursor that moves over them.  All
signs that it looks for are ASCII characters, so a byte is taken for the character of its number;
what lies between two places of the cursor is decoded.

The end of the bytes does not hold the cursor: behind a backslash in an argument it moves by two.
Still, each call that gives a token moves it forward, or gives the blanks that an earlier call has
passed.  This holds of any bytes, be they those of a text or not, and is why reading ends.
-/
import CosmeticFilter.Selector.Token

namespace CosmeticFilter

open CosmeticFilter.Text

/-! ### Characters and their bytes -/

namespace Text

/-- The bytes of a text. -/
def encode (cs : List Char) : List UInt8 :=
  cs.flatMap String.utf8EncodeChar

@[simp] theorem encode_nil : encode [] = [] :=
  rfl

theorem encode_cons (c : Char) (cs : List Char) :
    encode (c :: cs) = String.utf8EncodeChar c ++ encode cs :=
  List.flatMap_cons

theorem encode_append (front rest : List Char) :
    encode (front ++ rest) = encode front ++ encode rest :=
  List.flatMap_append

/-- How many bytes a character has whose first byte is this one. -/
def characterSize (first : UInt8) : Nat :=
  if first < 0xC2 ∨ 0xF5 ≤ first then 1
  else if first < 0xE0 then 2
  else if first < 0xF0 then 3
  else 4

/-- The byte may be the second one of a character with this first byte. -/
def isSecond (first second : UInt8) : Bool :=
  (if first = 0xE0 then 0xA0 else if first = 0xF0 then 0x90 else 0x80) ≤ second &&
    second ≤ (if first = 0xED then 0x9F else if first = 0xF4 then 0x8F else 0xBF)

/-- How many of the bytes could still have become a character, if none stands at their front. -/
def brokenSize : List UInt8 → Nat
  | first :: second :: rest =>
    if 3 ≤ characterSize first && isSecond first second then
      2 + ((rest.take (characterSize first - 3)).takeWhile fun b => 0x80 ≤ b && b ≤ 0xBF).length
    else 1
  | _ => 1

/-- The text that bytes stand for.  Bytes that are no character give a replacement character. -/
def decode : List UInt8 → List Char
  | [] => []
  | b :: rest =>
    match ByteArray.utf8DecodeChar? (b :: rest).toByteArray 0 with
    | some c => c :: decode (rest.drop (c.utf8Size - 1))
    | none => '\uFFFD' :: decode (rest.drop (brokenSize (b :: rest) - 1))
termination_by bytes => bytes.length

/-- In the bytes of a text nothing is replaced. -/
theorem decode_encode (cs : List Char) : decode (encode cs) = cs := by
  induction cs with
  | nil => rw [encode_nil, decode]
  | cons c rest ih =>
    obtain ⟨b, more, hbytes⟩ := List.exists_cons_of_ne_nil (String.utf8EncodeChar_ne_nil (c := c))
    have hfirst :
        ByteArray.utf8DecodeChar? (b :: (more ++ encode rest)).toByteArray 0 = some c := by
      rw [← List.cons_append, ← hbytes, List.toByteArray_append]
      exact ByteArray.utf8DecodeChar?_utf8EncodeChar_append
    have hmore : c.utf8Size - 1 = more.length := by
      rw [← String.length_utf8EncodeChar, hbytes, List.length_cons, Nat.add_sub_cancel]
    rw [encode_cons, hbytes, List.cons_append, decode]
    simp only [hfirst]
    rw [hmore, List.drop_left, ih]

/-- The start of a character that breaks off is replaced as a whole. -/
example : decode [0x61, 0xE2, 0x82, 0x62] = ['a', '\uFFFD', 'b'] := by cbv

end Text

/-! ### The cursor -/

/-- Where a reader of bytes stands. -/
structure Cursor where
  index : Nat
  /-- Blanks have been passed, and no token has been given for them. -/
  pending : Bool
  deriving DecidableEq, Repr

namespace Cursor

/-- At the first byte. -/
def start : Cursor := ⟨0, false⟩

/-- Where a scan for a closing parenthesis has stopped. -/
structure Scanned where
  /-- How far the cursor has moved. -/
  offset : Nat
  /-- It stands at the parenthesis. -/
  closed : Bool
  deriving DecidableEq, Repr

/-- The scan has started some bytes earlier. -/
def Scanned.behind (scan : Scanned) (n : Nat) : Scanned :=
  { scan with offset := scan.offset + n }

/--
Looks for the parenthesis that closes an argument.  Parentheses between quotes do not count, and
behind a backslash the cursor moves by two, whether there is another byte or not.
-/
def scanArgument (depth : Nat) (quote : Option Char) : List UInt8 → Scanned
  | [] => ⟨0, false⟩
  | b :: rest =>
    let c := Char.ofUInt8 b
    if c = '\\' then
      match rest with
      | [] => ⟨2, false⟩
      | _ :: more => (scanArgument depth quote more).behind 2
    else
      match quote with
      | some q => (scanArgument depth (if c = q then none else some q) rest).behind 1
      | none =>
        if c = '"' ∨ c = '\'' then (scanArgument depth (some c) rest).behind 1
        else if c = '(' then (scanArgument (depth + 1) none rest).behind 1
        else if c = ')' then
          match depth with
          | 0 => ⟨0, true⟩
          | outer + 1 => (scanArgument outer none rest).behind 1
        else (scanArgument depth none rest).behind 1

section Readers

variable (bytes : List UInt8)

/-- The byte at a place, taken for a character. -/
def signAt? (i : Nat) : Option Char :=
  bytes[i]?.map Char.ofUInt8

/-- The first place from `i` on whose byte does not satisfy `p`. -/
def passWhile (p : Char → Bool) (i : Nat) : Nat :=
  i + ((bytes.drop i).takeWhile fun b => p (Char.ofUInt8 b)).length

/-- One byte on, if there is one. -/
def passOne (i : Nat) : Nat :=
  if i < bytes.length then i + 1 else i

/-- The text between two places, and none if they are not both among the bytes. -/
def textBetween (i j : Nat) : String :=
  if i ≤ j ∧ j ≤ bytes.length then String.ofList (decode ((bytes.drop i).take (j - i))) else ""

/-- The name at a place, and where it ends. -/
def readName (i : Nat) : String × Nat :=
  let stop := passWhile bytes Token.isNameChar i
  (textBetween bytes i stop, stop)

/-- A dot or a hash, and the name behind it. -/
def readNamed (sign : String) (make : String → Simple) (i : Nat) : Simple × Nat :=
  let name := readName bytes (i + 1)
  (if name.1.isEmpty then .unsupported sign else make name.1, name.2)

/-- A type selector, or one byte that starts no token. -/
def readType (i : Nat) : Simple × Nat :=
  let name := readName bytes i
  if name.1.isEmpty then (.unsupported (textBetween bytes name.2 (name.2 + 1)), name.2 + 1)
  else (.type (lower name.1), name.2)

/-- The argument behind an opening parenthesis, up to the one that closes it. -/
def readArgument (i : Nat) : String × Nat :=
  let scan := scanArgument 0 none (bytes.drop i)
  let stop := i + scan.offset
  if scan.closed then (textBetween bytes i stop, stop + 1)
  else (textBetween bytes i (min stop bytes.length), stop)

/-- The argument in parentheses at a place, if they open there. -/
def readArgument? (i : Nat) : Option String × Nat :=
  if signAt? bytes i = some '(' then
    let argument := readArgument bytes (i + 1)
    (some argument.1, argument.2)
  else (none, i)

/-- A colon and what belongs to it. -/
def readPseudo (i : Nat) : Simple × Nat :=
  if signAt? bytes (i + 1) = some ':' then
    let stop := (readName bytes (i + 2)).2
    (.unsupported (textBetween bytes i stop), stop)
  else
    let name := readName bytes (i + 1)
    let argument := readArgument? bytes name.2
    match Token.pseudoClass? (lower name.1) (argument.1.map String.toList) with
    | some found => (found, argument.2)
    | none => (.unsupported (textBetween bytes i argument.2), argument.2)

/-- The quote at a place, if there is one. -/
def quoteAt? (i : Nat) : Option Char :=
  (signAt? bytes i).filter fun c => c = '"' ∨ c = '\''

/-- The value of an attribute: quoted, or up to a blank or the closing bracket. -/
def readValue (i : Nat) : String × Nat :=
  match quoteAt? bytes i with
  | some q =>
    let stop := passWhile bytes (· != q) (i + 1)
    (textBetween bytes (i + 1) stop, passOne bytes stop)
  | none =>
    let stop := passWhile bytes (fun c => !isBlank c && c != ']') i
    (textBetween bytes i stop, stop)

/-- The equals sign and the value behind a name, if they are there. -/
def readEquals (i : Nat) : Option String × Nat :=
  let sign := passWhile bytes isBlank i
  if signAt? bytes sign = some '=' then
    let value := readValue bytes (passWhile bytes isBlank (sign + 1))
    (some value.1, value.2)
  else (none, sign)

/-- An opening bracket and what belongs to it, up to a closing one. -/
def readAttribute (i : Nat) : Simple × Nat :=
  let name := readName bytes (passWhile bytes isBlank (i + 1))
  let value := readEquals bytes name.2
  let close := passWhile bytes isBlank value.2
  if name.1.isEmpty ∨ signAt? bytes close ≠ some ']' then
    let stop := passOne bytes (passWhile bytes (· != ']') close)
    (.unsupported (textBetween bytes i stop), stop)
  else
    match value.1 with
    | some text => (.attributeIs (lower name.1) text, close + 1)
    | none => (.attribute (lower name.1), close + 1)

/-- One call of the reader: the next token, if there is one, and where the cursor is left. -/
def next (cur : Cursor) : Option Token × Cursor :=
  let i := passWhile bytes isBlank cur.index
  if cur.pending ∨ cur.index < i then (some .blank, ⟨i, false⟩)
  else
    let asSimple := fun (read : Simple × Nat) => (some (Token.simple read.1), ⟨read.2, false⟩)
    match signAt? bytes i with
    | none => (none, ⟨i, false⟩)
    | some '*' => (some (.simple .universal), ⟨i + 1, false⟩)
    | some '>' => (some (.combinator .child), ⟨i + 1, false⟩)
    | some '+' => (some (.combinator .adjacent), ⟨i + 1, false⟩)
    | some '~' => (some (.combinator .sibling), ⟨i + 1, false⟩)
    | some '.' => asSimple (readNamed bytes "." .class i)
    | some '#' => asSimple (readNamed bytes "#" .id i)
    | some '[' => asSimple (readAttribute bytes i)
    | some ':' => asSimple (readPseudo bytes i)
    | some _ => asSimple (readType bytes i)

end Readers

/-! ### Every call moves the cursor -/

section Moves

variable (bytes : List UInt8)

theorem le_passWhile (p : Char → Bool) (i : Nat) : i ≤ passWhile bytes p i :=
  Nat.le_add_right _ _

theorem le_passOne (i : Nat) : i ≤ passOne bytes i := by
  unfold passOne
  split <;> omega

theorem textBetween_self (i : Nat) : textBetween bytes i i = "" := by
  unfold textBetween
  split
  · rw [Nat.sub_self, List.take_zero, decode]
  · rfl

theorem le_readName (i : Nat) : i ≤ (readName bytes i).2 :=
  le_passWhile bytes _ i

theorem lt_readNamed (sign : String) (make : String → Simple) (i : Nat) :
    i < (readNamed bytes sign make i).2 :=
  le_readName bytes (i + 1)

theorem lt_readType (i : Nat) : i < (readType bytes i).2 := by
  have hname := le_readName bytes i
  unfold readType
  simp only
  split
  · exact Nat.lt_succ_of_le hname
  · rename_i hfilled
    -- A name that ends where it starts is empty.
    refine Nat.lt_of_le_of_ne hname fun heq => hfilled ?_
    rw [readName, show passWhile bytes Token.isNameChar i = i from heq.symm, textBetween_self]
    rfl

theorem le_readArgument (i : Nat) : i ≤ (readArgument bytes i).2 := by
  unfold readArgument
  simp only
  split <;> simp only <;> omega

theorem le_readArgument? (i : Nat) : i ≤ (readArgument? bytes i).2 := by
  unfold readArgument?
  split
  · exact Nat.le_of_succ_le (le_readArgument bytes (i + 1))
  · exact Nat.le_refl i

theorem lt_readPseudo (i : Nat) : i < (readPseudo bytes i).2 := by
  unfold readPseudo
  split
  · exact Nat.le_of_succ_le (le_readName bytes (i + 2))
  · have hstop : i < (readArgument? bytes (readName bytes (i + 1)).2).2 :=
      Nat.lt_of_lt_of_le (le_readName bytes (i + 1)) (le_readArgument? bytes _)
    simp only
    split <;> exact hstop

theorem le_readValue (i : Nat) : i ≤ (readValue bytes i).2 := by
  unfold readValue
  split
  · rename_i q _
    have hquoted := le_passWhile bytes (· != q) (i + 1)
    exact Nat.le_of_succ_le (Nat.le_trans hquoted (le_passOne bytes _))
  · exact le_passWhile bytes (fun c => !isBlank c && c != ']') i

theorem le_readEquals (i : Nat) : i ≤ (readEquals bytes i).2 := by
  have hsign := le_passWhile bytes isBlank i
  unfold readEquals
  simp only
  split
  · have hblank := le_passWhile bytes isBlank (passWhile bytes isBlank i + 1)
    exact Nat.le_of_succ_le
      (Nat.le_trans (Nat.succ_le_succ hsign) (Nat.le_trans hblank (le_readValue bytes _)))
  · exact hsign

theorem lt_readAttribute (i : Nat) : i < (readAttribute bytes i).2 := by
  have hclose : i < passWhile bytes isBlank
      (readEquals bytes (readName bytes (passWhile bytes isBlank (i + 1))).2).2 :=
    calc i + 1 ≤ passWhile bytes isBlank (i + 1) := le_passWhile bytes _ _
      _ ≤ (readName bytes (passWhile bytes isBlank (i + 1))).2 := le_readName bytes _
      _ ≤ (readEquals bytes (readName bytes (passWhile bytes isBlank (i + 1))).2).2 :=
        le_readEquals bytes _
      _ ≤ passWhile bytes isBlank _ := le_passWhile bytes _ _
  unfold readAttribute
  simp only
  split
  · exact Nat.lt_of_lt_of_le hclose (Nat.le_trans (le_passWhile bytes _ _) (le_passOne bytes _))
  · split <;> exact Nat.lt_succ_of_lt hclose

/-- What is left to a cursor: the bytes in front of it, and blanks that it has passed. -/
def left (bytes : List UInt8) (cur : Cursor) : Nat :=
  bytes.length - cur.index + cur.pending.toNat

variable {bytes}

theorem lt_of_signAt? {i : Nat} {c : Char} (h : signAt? bytes i = some c) : i < bytes.length := by
  obtain ⟨b, hb, -⟩ := Option.map_eq_some_iff.mp h
  exact (List.getElem?_eq_some_iff.mp hb).1

theorem lt_of_lt_passWhile {p : Char → Bool} {i : Nat} (h : i < passWhile bytes p i) :
    i < bytes.length := by
  refine Nat.lt_of_not_le fun hend => ?_
  rw [passWhile, List.drop_eq_nil_of_le hend] at h
  exact Nat.lt_irrefl i h

/-- **A call that gives a token** uses up some of what is left. -/
theorem left_next_lt {cur stop : Cursor} {token : Token}
    (h : next bytes cur = (some token, stop)) : left bytes stop < left bytes cur := by
  have hpass := le_passWhile bytes isBlank cur.index
  unfold next at h
  simp only at h
  split at h
  · rename_i hblank
    obtain ⟨-, rfl⟩ := Prod.mk.inj h
    by_cases hmoved : cur.index < passWhile bytes isBlank cur.index
    · have := lt_of_lt_passWhile hmoved
      simp only [left, Bool.toNat_false]
      omega
    · have hpending := hblank.resolve_right hmoved
      simp only [left, hpending, Bool.toNat_false, Bool.toNat_true]
      omega
  · -- Wherever the token ends, it is behind the sign that it starts with.
    have hsign : ∀ c k, signAt? bytes (passWhile bytes isBlank cur.index) = some c →
        passWhile bytes isBlank cur.index < k → stop = ⟨k, false⟩ →
        left bytes stop < left bytes cur := by
      rintro c k hc hk rfl
      have := lt_of_signAt? hc
      simp only [left, Bool.toNat_false]
      omega
    generalize passWhile bytes isBlank cur.index = i at h hsign
    split at h <;> rename_i hc <;> obtain ⟨htoken, hstop⟩ := Prod.mk.inj h
    · cases htoken
    all_goals refine hsign _ _ hc ?_ hstop.symm
    · exact Nat.lt_succ_self i
    · exact Nat.lt_succ_self i
    · exact Nat.lt_succ_self i
    · exact Nat.lt_succ_self i
    · exact lt_readNamed bytes _ _ i
    · exact lt_readNamed bytes _ _ i
    · exact lt_readAttribute bytes i
    · exact lt_readPseudo bytes i
    · exact lt_readType bytes i

end Moves

/-! ### Calls in a row -/

/-- One call of the reader: where it starts, what it gives and where it leaves the cursor. -/
structure Call where
  start : Cursor
  token? : Option Token
  stop : Cursor
  deriving DecidableEq, Repr

/-- The bytes over which a call has moved the cursor. -/
def Call.piece (bytes : List UInt8) (call : Call) : List UInt8 :=
  (bytes.take call.stop.index).drop call.start.index

/-- The calls from a cursor on, up to the first that gives no token. -/
def calls (bytes : List UInt8) (cur : Cursor) : List Call :=
  match _h : next bytes cur with
  | (none, stop) => [⟨cur, none, stop⟩]
  | (some token, stop) => ⟨cur, some token, stop⟩ :: calls bytes stop
termination_by left bytes cur
decreasing_by exact left_next_lt _h

theorem calls_none {bytes : List UInt8} {cur stop : Cursor} (h : next bytes cur = (none, stop)) :
    calls bytes cur = [⟨cur, none, stop⟩] := by
  rw [calls]
  split <;> simp_all

theorem calls_some {bytes : List UInt8} {cur stop : Cursor} {token : Token}
    (h : next bytes cur = (some token, stop)) :
    calls bytes cur = ⟨cur, some token, stop⟩ :: calls bytes stop := by
  rw [calls]
  split <;> simp_all

/-- **The number of calls.**  There is at most one more than bytes that are left. -/
theorem length_calls_le (bytes : List UInt8) (cur : Cursor) :
    (calls bytes cur).length ≤ left bytes cur + 1 := by
  fun_induction calls bytes cur with
  | case1 cur stop h => exact Nat.succ_le_succ (Nat.zero_le _)
  | case2 cur token stop h ih =>
    have := left_next_lt h
    rw [List.length_cons]
    omega

end Cursor

end CosmeticFilter
