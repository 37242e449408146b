/-
Style sheets from text.

A rule goes up to its block, and its selector is the text before the block as it
stands.  In the block a declaration goes up to the next semicolon outside of inner
blocks; its value too is kept as it stands.  Faulty declarations are left out, and a
rule whose block never opens is none.
-/
import CosmeticFilter.Css.Rule
import CosmeticFilter.Css.Token

namespace CosmeticFilter.Css

open CosmeticFilter.Text

/-! ### Blocks -/

/-- The blocks that are open after a token.  A bracket closes the innermost block or nothing. -/
def openAfter (blocks : List Block) : Token → List Block
  | .opening block => block :: blocks
  | .closing block => if blocks.head? = some block then blocks.tail else blocks
  | _ => blocks

/-- The text after the end of the outermost open block. -/
def afterBlocks (blocks : List Block) (cs : List Char) : List Char :=
  if blocks.isEmpty then cs
  else
    match _h : Token.next? cs with
    | none => []
    | some (token, rest) => afterBlocks (openAfter blocks token) rest
termination_by cs.length
decreasing_by exact Token.next?_length _h

/-- The text from the first character on that, outside of blocks, ends a declaration. -/
def fromDeclarationEnd (blocks : List Block) (cs : List Char) : List Char :=
  if blocks.isEmpty && (cs.head? == some ';' || cs.head? == some '\x7d') then cs
  else
    match _h : Token.next? cs with
    | none => []
    | some (token, rest) => fromDeclarationEnd (openAfter blocks token) rest
termination_by cs.length
decreasing_by exact Token.next?_length _h

/-- The text from the first token on that is neither blank nor comment. -/
def skipBlank (cs : List Char) : List Char :=
  match _h : Token.next? cs with
  | some (.blank, rest) | some (.comment, rest) => skipBlank rest
  | _ => cs
termination_by cs.length
decreasing_by all_goals exact Token.next?_length _h

/-- The text after the brace that opens the block of a rule. -/
def afterOpening? (blocks : List Block) (cs : List Char) : Option (List Char) :=
  match _h : Token.next? cs with
  | none => none
  | some (token, rest) =>
    if blocks.isEmpty && token == .opening .curly then some rest
    else afterOpening? (openAfter blocks token) rest
termination_by cs.length
decreasing_by exact Token.next?_length _h

/-- The text after an at-rule: it ends at a semicolon, or with its block. -/
def afterAtRule? (blocks : List Block) (cs : List Char) : Option (List Char) :=
  match _h : Token.next? cs with
  | none => none
  | some (token, rest) =>
    if blocks.isEmpty && token == .semicolon then some rest
    else if blocks.isEmpty && token == .opening .curly then some (afterBlocks [.curly] rest)
    else afterAtRule? (openAfter blocks token) rest
termination_by cs.length
decreasing_by exact Token.next?_length _h

/-! ### Declarations -/

/-- The parts before and after the last character `c`. -/
def splitLast? (c : Char) (cs : List Char) : Option (List Char × List Char) :=
  let backwards := cs.reverse
  match backwards.dropWhile (· != c) with
  | _ :: before => some (before.reverse, (backwards.takeWhile (· != c)).reverse)
  | [] => none

/-- Takes `!important` off the end of a value. -/
def splitPriority (value : List Char) : List Char × Option String :=
  match splitLast? '!' value with
  | some (before, flag) =>
    if sameName (String.ofList (trim flag)) "important" then (trimRight before, some "important")
    else (value, none)
  | none => (value, none)

/-- The declaration of a property, unless its value is empty. -/
def Declaration.ofValue? (property : String) (text : List Char) : Option Declaration :=
  let (value, priority) := splitPriority (trim text)
  if value.isEmpty then none else some ⟨property, String.ofList value, priority⟩

/-- The declaration at the front of a text that ends in `rest`: a name, a colon and a value. -/
def Declaration.read? (cs rest : List Char) : Option Declaration :=
  match Token.next? (skipBlank cs) with
  | some (.ident name, afterName) =>
    match Token.next? (skipBlank afterName) with
    | some (.colon, value) => Declaration.ofValue? (lower name) (between value rest)
    | _ => none
  | _ => none

/-- The text after the semicolon at its front, if there is one. -/
def dropSemicolon (cs : List Char) : List Char :=
  match cs with
  | ';' :: rest => rest
  | _ => cs

/-! ### What is left is shorter -/

theorem afterBlocks_length (blocks : List Block) (cs : List Char) :
    (afterBlocks blocks cs).length ≤ cs.length := by
  fun_induction afterBlocks blocks cs with
  | case1 => simp
  | case2 => simp
  | case3 _ _ _ token rest h ih =>
    have := Token.next?_length h
    omega

theorem skipBlank_length (cs : List Char) : (skipBlank cs).length ≤ cs.length := by
  fun_induction skipBlank cs with
  | case1 _ rest h ih =>
    have := Token.next?_length h
    omega
  | case2 _ rest h ih =>
    have := Token.next?_length h
    omega
  | case3 => exact Nat.le_refl _

theorem afterOpening?_length {blocks : List Block} {cs rest : List Char}
    (h : afterOpening? blocks cs = some rest) : rest.length < cs.length := by
  fun_induction afterOpening? blocks cs with
  | case1 => simp at h
  | case2 _ _ token after hnext =>
    obtain rfl := Option.some.inj h
    exact Token.next?_length hnext
  | case3 _ _ token after hnext _ ih =>
    have := Token.next?_length hnext
    have := ih h
    omega

theorem afterAtRule?_length {blocks : List Block} {cs rest : List Char}
    (h : afterAtRule? blocks cs = some rest) : rest.length < cs.length := by
  fun_induction afterAtRule? blocks cs with
  | case1 => simp at h
  | case2 _ _ token after hnext =>
    obtain rfl := Option.some.inj h
    exact Token.next?_length hnext
  | case3 _ _ token after hnext =>
    have := Token.next?_length hnext
    have := afterBlocks_length [.curly] after
    obtain rfl := Option.some.inj h
    omega
  | case4 _ _ token after hnext _ _ ih =>
    have := Token.next?_length hnext
    have := ih h
    omega

theorem fromDeclarationEnd_length (blocks : List Block) (cs : List Char) :
    (fromDeclarationEnd blocks cs).length ≤ cs.length := by
  fun_induction fromDeclarationEnd blocks cs with
  | case1 => simp
  | case2 => simp
  | case3 _ _ _ token rest h ih =>
    have := Token.next?_length h
    omega

theorem dropSemicolon_length (cs : List Char) : (dropSemicolon cs).length ≤ cs.length := by
  unfold dropSemicolon
  split <;> simp

/-- Past a declaration, and the semicolon after it, there is less text. -/
theorem afterDeclaration_length {cs : List Char} (hcs : cs ≠ []) (hclose : cs.head? ≠ some '\x7d') :
    (dropSemicolon (fromDeclarationEnd [] cs)).length < cs.length := by
  rw [fromDeclarationEnd]
  split
  · rename_i hend
    match cs, hcs with
    | c :: rest, _ =>
      simp_all [dropSemicolon]
  · split
    · simp only [dropSemicolon, List.length_nil]
      exact List.length_pos_iff.mpr hcs
    · rename_i token rest h
      have := Token.next?_length h
      have := fromDeclarationEnd_length (openAfter [] token) rest
      have := dropSemicolon_length (fromDeclarationEnd (openAfter [] token) rest)
      omega

/-! ### Rules -/

/-- The declarations of a block, and the text after the brace that closes it. -/
def readDeclarations (cs : List Char) : List Declaration × List Char :=
  let start := skipBlank cs
  if hend : start = [] ∨ start.head? = some '\x7d' then ([], start.drop 1)
  else
    let rest := fromDeclarationEnd [] start
    have : (dropSemicolon rest).length < cs.length :=
      Nat.lt_of_lt_of_le
        (afterDeclaration_length (fun h => hend (.inl h)) (fun h => hend (.inr h)))
        (skipBlank_length cs)
    let (more, after) := readDeclarations (dropSemicolon rest)
    ((Declaration.read? start rest).toList ++ more, after)
termination_by cs.length

/-- The selector of a rule: the text before the brace that opens its block. -/
def selectorText (cs : List Char) : String :=
  String.ofList (trim (cs.reverse.dropWhile (· == '\x7b')).reverse)

/-- The rule at the front of the text, and the rest. -/
def Rule.next? (cs : List Char) : Option (Rule × List Char) :=
  match Token.next? (skipBlank cs) with
  | some (.atKeyword, rest) => (afterAtRule? [] rest).map fun after => (.other, after)
  | _ =>
    (afterOpening? [] cs).map fun inner =>
      let (declarations, after) := readDeclarations inner
      (.style ⟨selectorText (between cs inner), declarations⟩, after)

theorem readDeclarations_length (cs : List Char) :
    (readDeclarations cs).2.length ≤ cs.length := by
  fun_induction readDeclarations cs with
  | case1 cs start =>
    have : start.length ≤ cs.length := skipBlank_length cs
    simp only [List.length_drop]
    omega
  | case2 cs start hend rest hlt more after hmore ih =>
    simp only [hmore] at ih ⊢
    omega

theorem Rule.next?_length {cs rest : List Char} {rule : Rule}
    (h : Rule.next? cs = some (rule, rest)) : rest.length < cs.length := by
  unfold Rule.next? at h
  split at h
  · rename_i after hnext
    obtain ⟨last, hlast, heq⟩ := Option.map_eq_some_iff.mp h
    obtain ⟨-, rfl⟩ := Prod.mk.inj heq
    have := Token.next?_length hnext
    have := skipBlank_length cs
    have := afterAtRule?_length hlast
    omega
  · obtain ⟨inner, hinner, heq⟩ := Option.map_eq_some_iff.mp h
    obtain ⟨-, rfl⟩ := Prod.mk.inj heq
    exact Nat.lt_of_le_of_lt (readDeclarations_length inner) (afterOpening?_length hinner)

/-- The rules of a text, in order. -/
def readRules (cs : List Char) : List Rule :=
  match _h : Rule.next? cs with
  | none => []
  | some (rule, rest) => rule :: readRules rest
termination_by cs.length
decreasing_by exact Rule.next?_length _h

/-- The rules of a style sheet. -/
def parse (css : String) : List Rule :=
  readRules css.toList

end CosmeticFilter.Css
