/-
Tokens of style sheets.

`Token.next?` reads one token of CSS text.  Of the tokens only so much is kept as the
structure of rules needs: names, the brackets that open and close blocks, colons and
semicolons.  All other tokens are read to their ends and forgotten, since a bracket or
a semicolon inside a string, a comment or an address has no meaning.
-/
import CosmeticFilter.Text.Ascii
import CosmeticFilter.Text.Blank
import CosmeticFilter.Text.Scan

namespace CosmeticFilter.Css

open CosmeticFilter.Text

/-- The kinds of blocks.  A function is a block in parentheses. -/
inductive Block where
  | parenthesis | square | curly
  deriving DecidableEq, Repr

/-- A token, as far as the structure of rules is concerned. -/
inductive Token where
  | blank
  | comment
  | ident (name : String)
  | atKeyword
  | opening (block : Block)
  | closing (block : Block)
  | colon
  | semicolon
  | other
  deriving DecidableEq, Repr

/-! ### Characters -/

def isNewline (c : Char) : Bool :=
  c == '\n' || c == '\r' || c == '\x0C'

def isDigit (c : Char) : Bool :=
  '0' ≤ c && c ≤ '9'

/-- The character at the front is a digit. -/
def startsWithDigit : List Char → Bool
  | c :: _ => isDigit c
  | [] => false

/-- Letters, underscore, the null character and everything beyond ASCII. -/
def isNameStart (c : Char) : Bool :=
  c.isAlpha || c == '_' || c == '\x00' || 0x80 ≤ c.toNat

/-- The characters that a name goes on with. -/
def isNameChar (c : Char) : Bool :=
  isNameStart c || isDigit c || c == '-'

/-- The text starts with a name. -/
def startsName : List Char → Bool
  | [] => false
  | '-' :: rest => rest.head?.any fun c => isNameStart c || c == '-' || c == '\\'
  | '\\' :: rest => !rest.head?.any isNewline
  | c :: _ => isNameStart c

/-- Characters that no address without quotes may hold. -/
def isBadInUrl (c : Char) : Bool :=
  c == '"' || c == '\'' || c == '(' || c == '\x0B' || c == '\x7F' ||
    (0x01 ≤ c.toNat && c.toNat ≤ 0x08) || (0x0E ≤ c.toNat && c.toNat ≤ 0x1F)

/-- Drops one line end, the two characters of a carriage return and line feed together. -/
def dropNewline : List Char → List Char
  | '\r' :: '\n' :: rest => rest
  | cs => cs.drop 1

/-! ### Escapes and names -/

/-- The value of a hexadecimal digit. -/
def hexValue? (c : Char) : Option Nat :=
  if '0' ≤ c ∧ c ≤ '9' then some (c.toNat - '0'.toNat)
  else if 'a' ≤ c ∧ c ≤ 'f' then some (c.toNat - 'a'.toNat + 10)
  else if 'A' ≤ c ∧ c ≤ 'F' then some (c.toNat - 'A'.toNat + 10)
  else none

/-- At most `n` hexadecimal digits after the number `acc`. -/
def readHex (acc : Nat) : Nat → List Char → Nat × List Char
  | 0, cs => (acc, cs)
  | _ + 1, [] => (acc, [])
  | n + 1, c :: rest =>
    match hexValue? c with
    | some d => readHex (16 * acc + d) n rest
    | none => (acc, c :: rest)

/-- The character with this code point; the null character and what is none are replaced. -/
def charOf (code : Nat) : Char :=
  if code ≠ 0 ∧ (code < 0xD800 ∨ (0xDFFF < code ∧ code < 0x110000)) then Char.ofNat code
  else '\uFFFD'

/-- One blank after a hexadecimal escape belongs to it. -/
def dropOneBlank : List Char → List Char
  | c :: rest =>
    if isNewline c then dropNewline (c :: rest) else if isBlank c then rest else c :: rest
  | [] => []

/-- What follows the backslash of an escape. -/
def readEscape : List Char → Char × List Char
  | [] => ('\uFFFD', [])
  | c :: rest =>
    match hexValue? c with
    | some d =>
      let (code, after) := readHex d 5 rest
      (charOf code, dropOneBlank after)
    | none => (if c = '\x00' then '\uFFFD' else c, rest)

theorem dropNewline_length (cs : List Char) : (dropNewline cs).length ≤ cs.length := by
  unfold dropNewline
  split
  · simp only [List.length_cons]
    omega
  · simp

theorem readHex_length (acc n : Nat) (cs : List Char) :
    (readHex acc n cs).2.length ≤ cs.length := by
  fun_induction readHex acc n cs <;> simp_all
  omega

theorem dropOneBlank_length (cs : List Char) : (dropOneBlank cs).length ≤ cs.length := by
  unfold dropOneBlank
  split
  · split
    · exact dropNewline_length _
    · split <;> simp
  · simp

theorem readEscape_length (cs : List Char) : (readEscape cs).2.length ≤ cs.length := by
  unfold readEscape
  split
  · simp
  · rename_i c rest
    split
    · rename_i d _
      have := dropOneBlank_length (readHex d 5 rest).2
      have := readHex_length d 5 rest
      simp only [List.length_cons]
      omega
    · simp

/-- The name at the front of the text, its escapes resolved, and the rest. -/
def readName : List Char → List Char × List Char
  | [] => ([], [])
  | c :: rest =>
    if c = '\\' then
      if rest.head?.any isNewline then ([], c :: rest)
      else
        let escape := readEscape rest
        let (name, after) := readName escape.2
        (escape.1 :: name, after)
    else if isNameChar c then
      let (name, after) := readName rest
      ((if c = '\x00' then '\uFFFD' else c) :: name, after)
    else ([], c :: rest)
termination_by cs => cs.length
decreasing_by
  · exact Nat.lt_succ_of_le (readEscape_length rest)
  · exact Nat.lt_succ_self _

theorem readName_length (cs : List Char) : (readName cs).2.length ≤ cs.length := by
  fun_induction readName cs with
  | case1 => simp
  | case2 => simp
  | case3 rest hc escape name after hname ih =>
    have := readEscape_length rest
    simp only [hname, escape, List.length_cons] at *
    omega
  | case4 c rest _ _ name after hname ih =>
    simp only [hname, List.length_cons] at *
    omega
  | case5 => simp

/-! ### Strings, comments, numbers -/

/-- The text after the quote that ends a string; a line end ends it too, and stays. -/
def afterString (quote : Char) (cs : List Char) : List Char :=
  match cs with
  | [] => []
  | c :: rest =>
    if c = quote then rest
    else if isNewline c then c :: rest
    else if c = '\\' then
      if rest.head?.any isNewline then afterString quote (dropNewline rest)
      else afterString quote (readEscape rest).2
    else afterString quote rest
termination_by cs.length
decreasing_by
  · exact Nat.lt_succ_of_le (dropNewline_length rest)
  · exact Nat.lt_succ_of_le (readEscape_length rest)
  · exact Nat.lt_succ_self _

/-- The text after the end of a comment. -/
def afterComment : List Char → List Char
  | '*' :: '/' :: rest => rest
  | _ :: rest => afterComment rest
  | [] => []

/-- The text after a run of digits. -/
def afterDigits (cs : List Char) : List Char :=
  cs.dropWhile isDigit

/-- The text after a sign, if there is one. -/
def afterSign (cs : List Char) : List Char :=
  match cs with
  | '+' :: rest | '-' :: rest => rest
  | _ => cs

/-- The text after a decimal point with digits, if there is one. -/
def afterFraction (cs : List Char) : List Char :=
  match cs with
  | '.' :: rest => if startsWithDigit rest then afterDigits rest else cs
  | _ => cs

/-- The text after an exponent, if there is one. -/
def afterExponent (cs : List Char) : List Char :=
  match cs with
  | 'e' :: rest | 'E' :: rest =>
    if startsWithDigit (afterSign rest) then afterDigits (afterSign rest) else cs
  | _ => cs

/-- The text after a percent sign or the name of a unit, if there is one. -/
def afterUnit (cs : List Char) : List Char :=
  match cs with
  | '%' :: rest => rest
  | _ => if startsName cs then (readName cs).2 else cs

/-- The text starts with a number: a digit, maybe after a sign or a point. -/
def startsNumber (cs : List Char) : Bool :=
  match afterSign cs with
  | '.' :: rest => startsWithDigit rest
  | rest => startsWithDigit rest

/-- The text after a number and its unit. -/
def afterNumber (cs : List Char) : List Char :=
  afterUnit (afterExponent (afterFraction (afterDigits (afterSign cs))))

/-! ### Addresses -/

/-- The text after a faulty address, which ends at a closing parenthesis. -/
def afterBadUrl : List Char → List Char
  | [] => []
  | ')' :: rest => rest
  | '\\' :: ')' :: rest | '\\' :: '\\' :: rest => afterBadUrl rest
  | _ :: rest => afterBadUrl rest

/--
The text after the blanks and the closing parenthesis that end an address.  Where another
character stands the address is faulty, and that character, a backslash too, is a part of it.
-/
def afterUrlEnd (cs : List Char) : List Char :=
  match cs.dropWhile isBlank with
  | [] => []
  | ')' :: rest => rest
  | _ :: rest => afterBadUrl rest

/-- The text after the characters of an address and its end. -/
def afterUrlChars (cs : List Char) : List Char :=
  match cs with
  | [] => []
  | c :: rest =>
    if c = ')' then rest
    else if isBlank c then afterUrlEnd rest
    else if isBadInUrl c then afterBadUrl rest
    else if c = '\\' then
      if rest.head?.any isNewline then afterBadUrl rest
      else afterUrlChars (readEscape rest).2
    else afterUrlChars rest
termination_by cs.length
decreasing_by
  · exact Nat.lt_succ_of_le (readEscape_length rest)
  · exact Nat.lt_succ_self _

/--
The text after an address without quotes.  An address in quotes is none: then the
name before the parenthesis is that of an ordinary function.
-/
def afterUrl? (cs : List Char) : Option (List Char) :=
  let start := cs.dropWhile isBlank
  match start with
  | '"' :: _ | '\'' :: _ => none
  | _ => some (afterUrlChars start)

/-! ### Reading -/

/-- A name, a function or an address without quotes. -/
def readNamed (cs : List Char) : Token × List Char :=
  let (name, rest) := readName cs
  match rest with
  | '(' :: inner =>
    match (if name.map Char.toLower = ['u', 'r', 'l'] then afterUrl? inner else none) with
    | some after => (.other, after)
    | none => (.opening .parenthesis, inner)
  | _ => (.ident (String.ofList name), rest)

/-- A sign that stands for itself. -/
def signToken : Char → Token
  | '(' => .opening .parenthesis
  | ')' => .closing .parenthesis
  | '[' => .opening .square
  | ']' => .closing .square
  | '\x7b' => .opening .curly
  | '\x7d' => .closing .curly
  | ':' => .colon
  | ';' => .semicolon
  | _ => .other

/-- A token that is no blank, comment, string or name: numbers, marked names and signs. -/
def readSign (c : Char) (rest : List Char) : Token × List Char :=
  if startsNumber (c :: rest) then (.other, afterNumber (c :: rest))
  else if c = '#' && (startsName rest || startsWithDigit rest || rest.head? == some '-') then
    (.other, (readName rest).2)
  else if c = '@' && startsName rest then (.atKeyword, (readName rest).2)
  else (signToken c, rest)

/-- The first token of the text, and the rest. -/
def Token.next? : List Char → Option (Token × List Char)
  | [] => none
  | '/' :: '*' :: rest => some (.comment, afterComment rest)
  | '-' :: '-' :: '>' :: rest | '<' :: '!' :: '-' :: '-' :: rest => some (.other, rest)
  | c :: rest =>
    if isBlank c then some (.blank, rest.dropWhile isBlank)
    else if c = '"' ∨ c = '\'' then some (.other, afterString c rest)
    else if startsName (c :: rest) then some (readNamed (c :: rest))
    else some (readSign c rest)

/-! ### Every token takes a character -/

theorem afterString_length (quote : Char) (cs : List Char) :
    (afterString quote cs).length ≤ cs.length := by
  fun_induction afterString quote cs with
  | case1 => simp
  | case2 => simp
  | case3 => simp
  | case4 rest _ _ _ ih =>
    have := dropNewline_length rest
    simp only [List.length_cons]
    omega
  | case5 rest _ _ _ ih =>
    have := readEscape_length rest
    simp only [List.length_cons]
    omega
  | case6 _ rest _ _ _ ih =>
    simp only [List.length_cons]
    omega

theorem afterComment_length (cs : List Char) : (afterComment cs).length ≤ cs.length := by
  fun_induction afterComment cs <;> simp_all <;> omega

theorem afterDigits_length (cs : List Char) : (afterDigits cs).length ≤ cs.length :=
  length_dropWhile_le _ _

theorem afterSign_length (cs : List Char) : (afterSign cs).length ≤ cs.length := by
  unfold afterSign
  split <;> simp

theorem afterFraction_length (cs : List Char) : (afterFraction cs).length ≤ cs.length := by
  unfold afterFraction
  split
  · rename_i rest
    have := afterDigits_length rest
    split <;> simp only [List.length_cons] <;> omega
  · simp

theorem afterExponent_length (cs : List Char) : (afterExponent cs).length ≤ cs.length := by
  unfold afterExponent
  split
  · rename_i rest
    have := afterDigits_length (afterSign rest)
    have := afterSign_length rest
    split <;> simp only [List.length_cons] <;> omega
  · rename_i rest
    have := afterDigits_length (afterSign rest)
    have := afterSign_length rest
    split <;> simp only [List.length_cons] <;> omega
  · simp

theorem afterUnit_length (cs : List Char) : (afterUnit cs).length ≤ cs.length := by
  unfold afterUnit
  split
  · simp
  · split
    · exact readName_length _
    · simp

/-- A number takes its first digit or sign. -/
theorem afterNumber_length {c : Char} {cs : List Char} (h : startsNumber (c :: cs) = true) :
    (afterNumber (c :: cs)).length < (c :: cs).length := by
  have hunit := afterUnit_length
    (afterExponent (afterFraction (afterDigits (afterSign (c :: cs)))))
  have hexp := afterExponent_length (afterFraction (afterDigits (afterSign (c :: cs))))
  have hsign := afterSign_length (c :: cs)
  have hdigits := afterDigits_length (afterSign (c :: cs))
  have hfrac : (afterFraction (afterDigits (afterSign (c :: cs)))).length < (c :: cs).length := by
    unfold startsNumber at h
    split at h
    · rename_i rest hpoint
      rw [hpoint] at hsign ⊢
      have hstop : afterDigits ('.' :: rest) = '.' :: rest := by
        simp [afterDigits, isDigit]
      have := afterDigits_length rest
      rw [hstop]
      simp only [afterFraction, h, if_true, List.length_cons] at *
      omega
    · have hfirst : ∀ {ds : List Char}, startsWithDigit ds = true →
          (afterDigits ds).length < ds.length := by
        intro ds hds
        match ds, hds with
        | d :: ds, hds =>
          have := afterDigits_length ds
          have hstep : afterDigits (d :: ds) = afterDigits ds :=
            List.dropWhile_cons_of_pos hds
          rw [hstep, List.length_cons]
          omega
      have := hfirst h
      have := afterFraction_length (afterDigits (afterSign (c :: cs)))
      omega
  unfold afterNumber
  omega

theorem afterBadUrl_length (cs : List Char) : (afterBadUrl cs).length ≤ cs.length := by
  fun_induction afterBadUrl cs <;> simp_all <;> omega

theorem afterUrlEnd_length (cs : List Char) : (afterUrlEnd cs).length ≤ cs.length := by
  have hblank := length_dropWhile_le isBlank cs
  unfold afterUrlEnd
  split
  · simp
  · rename_i rest h
    rw [h, List.length_cons] at hblank
    omega
  · rename_i c rest _ h
    have := afterBadUrl_length rest
    rw [h, List.length_cons] at hblank
    omega

theorem afterUrlChars_length (cs : List Char) : (afterUrlChars cs).length ≤ cs.length := by
  fun_induction afterUrlChars cs with
  | case1 => simp
  | case2 => simp
  | case3 _ rest =>
    have := afterUrlEnd_length rest
    simp only [List.length_cons]
    omega
  | case4 _ rest =>
    have := afterBadUrl_length rest
    simp only [List.length_cons]
    omega
  | case5 rest =>
    have := afterBadUrl_length rest
    simp only [List.length_cons]
    omega
  | case6 rest _ _ _ _ ih =>
    have := readEscape_length rest
    simp only [List.length_cons]
    omega
  | case7 _ rest _ _ _ _ ih =>
    simp only [List.length_cons]
    omega

theorem afterUrl?_length {cs after : List Char} (h : afterUrl? cs = some after) :
    after.length ≤ cs.length := by
  unfold afterUrl? at h
  simp only at h
  split at h
  · simp at h
  · simp at h
  · obtain rfl := Option.some.inj h
    exact Nat.le_trans (afterUrlChars_length _) (length_dropWhile_le _ _)

/-- A name that starts has a first character. -/
theorem readName_length_of_startsName {cs : List Char} (h : startsName cs = true) :
    (readName cs).2.length < cs.length := by
  match cs, h with
  | c :: rest, h =>
    have hrest := readName_length rest
    rw [readName]
    split
    · rename_i hc
      subst hc
      have := readEscape_length rest
      have := readName_length (readEscape rest).2
      simp only [startsName, Bool.not_eq_eq_eq_not, Bool.not_true] at h
      simp only [h, Bool.false_eq_true, if_false, List.length_cons]
      omega
    · rename_i hc
      have hname : isNameChar c = true := by
        unfold startsName at h
        split at h
        · simp at h
        · rename_i heq
          simp [isNameChar, (List.cons.inj heq).1]
        · simp_all
        · simp_all [isNameChar]
      simp only [hname, if_true, List.length_cons]
      omega

theorem readNamed_length {cs : List Char} (h : startsName cs = true) :
    (readNamed cs).2.length < cs.length := by
  have hname := readName_length_of_startsName h
  unfold readNamed
  simp only
  split
  · rename_i inner hinner
    rw [hinner, List.length_cons] at hname
    split
    · rename_i after hafter
      split at hafter
      · have := afterUrl?_length hafter
        simp only
        omega
      · simp at hafter
    · simp only
      omega
  · exact hname

theorem readSign_length (c : Char) (rest : List Char) :
    (readSign c rest).2.length < (c :: rest).length := by
  have hname := readName_length rest
  unfold readSign
  split
  · rename_i h
    exact afterNumber_length h
  · split
    · simp only [List.length_cons]
      omega
    · split <;> simp only [List.length_cons] <;> omega

theorem Token.next?_length {cs rest : List Char} {token : Token}
    (h : Token.next? cs = some (token, rest)) : rest.length < cs.length := by
  unfold Token.next? at h
  split at h
  · simp at h
  · rename_i inner
    have := afterComment_length inner
    simp only [Option.some.injEq, Prod.mk.injEq] at h
    rw [← h.2]
    simp only [List.length_cons]
    omega
  · simp only [Option.some.injEq, Prod.mk.injEq] at h
    rw [← h.2]
    simp only [List.length_cons]
    omega
  · simp only [Option.some.injEq, Prod.mk.injEq] at h
    rw [← h.2]
    simp only [List.length_cons]
    omega
  · rename_i c after _ _ _
    split at h
    · have := length_dropWhile_le isBlank after
      simp only [Option.some.injEq, Prod.mk.injEq] at h
      rw [← h.2, List.length_cons]
      omega
    · split at h
      · have := afterString_length c after
        simp only [Option.some.injEq, Prod.mk.injEq] at h
        rw [← h.2, List.length_cons]
        omega
      · split at h
        · rename_i hstart
          have := readNamed_length hstart
          rw [Option.some.inj h] at this
          exact this
        · have := readSign_length c after
          rw [Option.some.inj h] at this
          exact this

end CosmeticFilter.Css
