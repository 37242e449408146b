/-
Tokens of selector text.

`Token.next?` reads one token: a run of blanks, a combinator sign or one simple
selector.  Reading is permissive: whatever is not a token of the subset becomes an
unsupported simple selector that keeps its text, so every text can be read to its
end.  Each token takes at least one character, which is why reading ends.
-/
import CosmeticFilter.Selector.Basic
import CosmeticFilter.Text.Ascii
import CosmeticFilter.Text.Blank
import CosmeticFilter.Text.Natural
import CosmeticFilter.Text.Scan

namespace CosmeticFilter

open CosmeticFilter.Text

/-- A token of selector text. -/
inductive Token where
  | blank
  | combinator (comb : Combinator)
  | simple (simple : Simple)
  deriving DecidableEq, Repr

namespace Token

/-- Characters of names: ASCII letters and digits, `-`, `_` and everything beyond ASCII. -/
def isNameChar (c : Char) : Bool :=
  c.isAlphanum || c == '-' || c == '_' || 0x80 ≤ c.toNat

/-- The name at the start of the text, and the rest. -/
def readName (cs : List Char) : String × List Char :=
  (String.ofList (cs.takeWhile isNameChar), cs.dropWhile isNameChar)

/-! ### Arguments in parentheses -/

/-- What reading an argument has found. -/
structure Argument where
  text : List Char
  /-- What follows the closing parenthesis, or nothing at the end of the text. -/
  rest : List Char
  /-- A closing parenthesis was found. -/
  closed : Bool
  /-- The text ends in a backslash that escapes nothing. -/
  dangling : Bool
  deriving DecidableEq, Repr

/-- One more character in front of the argument. -/
def Argument.cons (c : Char) (arg : Argument) : Argument :=
  { arg with text := c :: arg.text }

/--
Reads an argument up to the parenthesis that closes it.  Parentheses between quotes
do not count, and a backslash takes the next character with it.
-/
def readArgument (depth : Nat) (quote : Option Char) : List Char → Argument
  | [] => ⟨[], [], false, false⟩
  | ['\\'] => ⟨['\\'], [], false, true⟩
  | '\\' :: c :: rest => ((readArgument depth quote rest).cons c).cons '\\'
  | c :: rest =>
    match quote with
    | some q => (readArgument depth (if c = q then none else some q) rest).cons c
    | none =>
      if c = '"' ∨ c = '\'' then (readArgument depth (some c) rest).cons c
      else if c = '(' then (readArgument (depth + 1) none rest).cons c
      else if c = ')' then
        match depth with
        | 0 => ⟨[], rest, true, false⟩
        | outer + 1 => (readArgument outer none rest).cons c
      else (readArgument depth none rest).cons c

/-! ### Simple selectors -/

/-- After a dot or a hash: a name, or nothing usable. -/
def readNamed (sign : String) (make : String → Simple) (rest : List Char) : Simple × List Char :=
  let (name, after) := readName rest
  (if name.isEmpty then .unsupported sign else make name, after)

/-- A type selector, or one character that starts no token. -/
def readType (c : Char) (rest : List Char) : Simple × List Char :=
  if isNameChar c then
    let (name, after) := readName (c :: rest)
    (.type (lower name), after)
  else (.unsupported (String.ofList [c]), rest)

/-- The pseudo-class of this name and argument, if it is one of the subset. -/
def pseudoClass? (name : String) (argument : Option (List Char)) : Option Simple :=
  match name, argument with
  | "root", none => some .root
  | "scope", none => some .scope
  | "nth-child", some text =>
    match readNatural? maxWord (trim text) with
    | some (n + 1) => some (.nthChild (n + 1))
    | _ => none
  | _, _ => none

/--
Reads what follows a colon.  A second colon starts a pseudo-element, which no element
matches.  A pseudo-class outside the subset keeps its text, except that a text ending
in an escape of nothing keeps none.
-/
def readPseudo (rest : List Char) : Simple × List Char :=
  match rest with
  | ':' :: afterColons =>
    let after := (readName afterColons).2
    (.unsupported (String.ofList (between (':' :: rest) after)), after)
  | _ =>
    let (name, afterName) := readName rest
    match afterName with
    | '(' :: inner =>
      let arg := readArgument 0 none inner
      match pseudoClass? (lower name) (some arg.text) with
      | some found => (found, arg.rest)
      | none =>
        let text := if arg.dangling then [] else between (':' :: rest) arg.rest
        (.unsupported (String.ofList text), arg.rest)
    | _ =>
      match pseudoClass? (lower name) none with
      | some found => (found, afterName)
      | none => (.unsupported (String.ofList (between (':' :: rest) afterName)), afterName)

/-- The text after the next closing bracket, or the end. -/
def afterBracket (cs : List Char) : List Char :=
  (cs.dropWhile (· != ']')).drop 1

/-- The value after an equals sign: quoted, or up to a blank or the closing bracket. -/
def readValue (cs : List Char) : String × List Char :=
  match cs with
  | [] => ("", [])
  | q :: rest =>
    if q = '"' ∨ q = '\'' then
      (String.ofList (rest.takeWhile (· != q)), (rest.dropWhile (· != q)).drop 1)
    else
      let plain := fun c => !isBlank c && c != ']'
      (String.ofList (cs.takeWhile plain), cs.dropWhile plain)

/--
Reads what follows an opening bracket: a name, or a name, an equals sign and a value.
Everything else up to the next closing bracket is unsupported.
-/
def readAttribute (rest : List Char) : Simple × List Char :=
  let (name, afterName) := readName (rest.dropWhile isBlank)
  let (value, afterValue) : Option String × List Char :=
    match afterName.dropWhile isBlank with
    | '=' :: more =>
      let (value, after) := readValue (more.dropWhile isBlank)
      (some value, after)
    | other => (none, other)
  match afterValue.dropWhile isBlank with
  | ']' :: after =>
    if name.isEmpty then (.unsupported (String.ofList (between ('[' :: rest) after)), after)
    else
      match value with
      | some value => (.attributeIs (lower name) value, after)
      | none => (.attribute (lower name), after)
  | other =>
    let after := afterBracket other
    (.unsupported (String.ofList (between ('[' :: rest) after)), after)

/-! ### Reading -/

/-- The first token of the text, and the rest. -/
def next? : List Char → Option (Token × List Char)
  | [] => none
  | c :: rest =>
    let asSimple := fun (read : Simple × List Char) => some (Token.simple read.1, read.2)
    if isBlank c then some (.blank, rest.dropWhile isBlank)
    else
      match c with
      | '*' => some (.simple .universal, rest)
      | '>' => some (.combinator .child, rest)
      | '+' => some (.combinator .adjacent, rest)
      | '~' => some (.combinator .sibling, rest)
      | '.' => asSimple (readNamed "." .class rest)
      | '#' => asSimple (readNamed "#" .id rest)
      | '[' => asSimple (readAttribute rest)
      | ':' => asSimple (readPseudo rest)
      | _ => asSimple (readType c rest)

/-! ### Every token takes a character -/

theorem readName_length (cs : List Char) : (readName cs).2.length ≤ cs.length :=
  length_dropWhile_le _ _

theorem readArgument_length (depth : Nat) (quote : Option Char) (cs : List Char) :
    (readArgument depth quote cs).rest.length ≤ cs.length := by
  fun_induction readArgument depth quote cs <;> simp_all [Argument.cons] <;> omega

theorem readNamed_length (sign : String) (make : String → Simple) (cs : List Char) :
    (readNamed sign make cs).2.length ≤ cs.length :=
  readName_length cs

theorem readType_length (c : Char) (cs : List Char) :
    (readType c cs).2.length ≤ cs.length := by
  unfold readType
  split
  · rename_i h
    simpa [readName, List.dropWhile_cons, h] using length_dropWhile_le _ _
  · simp

theorem readPseudo_length (cs : List Char) : (readPseudo cs).2.length ≤ cs.length := by
  unfold readPseudo
  split
  · rename_i after
    have := readName_length after
    simp only [List.length_cons]
    omega
  · have hname := readName_length cs
    simp only
    split
    · rename_i inner hinner
      have harg := readArgument_length 0 none inner
      rw [hinner, List.length_cons] at hname
      split <;> simp only <;> omega
    · split <;> simpa using hname

theorem readValue_length (cs : List Char) : (readValue cs).2.length ≤ cs.length := by
  unfold readValue
  split
  · simp
  · rename_i q rest
    split
    · have := length_dropWhile_le (· != q) rest
      simp only [List.length_drop, List.length_cons]
      omega
    · exact length_dropWhile_le _ _

theorem readAttribute_length (cs : List Char) : (readAttribute cs).2.length ≤ cs.length := by
  have hblank := length_dropWhile_le isBlank
  have hname := Nat.le_trans (readName_length (cs.dropWhile isBlank)) (hblank cs)
  have hbracket : ∀ other : List Char, (afterBracket other).length ≤ other.length := fun other => by
    have := length_dropWhile_le (· != ']') other
    simp only [afterBracket, List.length_drop]
    omega
  have hvalue : ∀ value after,
      (match (readName (cs.dropWhile isBlank)).2.dropWhile isBlank with
        | '=' :: more =>
          (some (readValue (more.dropWhile isBlank)).1, (readValue (more.dropWhile isBlank)).2)
        | other => ((none : Option String), other)) = (value, after) →
      after.length ≤ cs.length := by
    intro value after h
    have hdrop := hblank (readName (cs.dropWhile isBlank)).2
    split at h
    · rename_i more hmore
      have := readValue_length (more.dropWhile isBlank)
      have := hblank more
      rw [hmore, List.length_cons] at hdrop
      simp only [Prod.mk.injEq] at h
      obtain ⟨-, rfl⟩ := h
      omega
    · simp only [Prod.mk.injEq] at h
      obtain ⟨-, rfl⟩ := h
      omega
  unfold readAttribute
  simp only
  generalize hv : (match (readName (cs.dropWhile isBlank)).2.dropWhile isBlank with
        | '=' :: more =>
          (some (readValue (more.dropWhile isBlank)).1, (readValue (more.dropWhile isBlank)).2)
        | other => ((none : Option String), other)) = found
  have hafter := hvalue found.1 found.2 hv
  have hrest := hblank found.2
  split
  · rename_i after hclose
    rw [hclose, List.length_cons] at hrest
    split
    · simp only; omega
    · split <;> simp only <;> omega
  · rename_i other _
    have := hbracket (found.2.dropWhile isBlank)
    simp only
    omega

theorem next?_length {cs rest : List Char} {token : Token} (h : next? cs = some (token, rest)) :
    rest.length < cs.length := by
  unfold next? at h
  split at h
  · simp at h
  · rename_i c after
    simp only at h
    split at h
    · simp only [Option.some.injEq, Prod.mk.injEq] at h
      have := length_dropWhile_le isBlank after
      rw [← h.2, List.length_cons]
      omega
    · have hnamed := readNamed_length "." Simple.class after
      have hid := readNamed_length "#" Simple.id after
      have hattr := readAttribute_length after
      have hpseudo := readPseudo_length after
      have htype := readType_length c after
      split at h <;> simp only [Option.some.injEq, Prod.mk.injEq] at h <;>
        rw [← h.2, List.length_cons] <;> omega

/-- All tokens of the text, in order. -/
def all (cs : List Char) : List Token :=
  match _h : next? cs with
  | none => []
  | some (token, rest) => token :: all rest
termination_by cs.length
decreasing_by exact next?_length _h

end Token

end CosmeticFilter
