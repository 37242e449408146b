/-
Reading extended selectors.

The text is searched for the first `:name(` that names an extended pseudo-class.
What stands before is plain selector text, the argument up to the closing parenthesis
belongs to the pseudo-class, and the rest is read in the same way.  A reading also
tells which regular expressions it could not compile, whether it succeeds or not.
-/
import CosmeticFilter.Chain.Basic
import CosmeticFilter.Selector.Split

namespace CosmeticFilter

open CosmeticFilter.Text

/-- Why a text is no extended selector. -/
inductive ParseError where
  /-- The argument of an extended pseudo-class is not closed. -/
  | unmatchedParentheses (selector : String)
  /-- A name that starts like those of the extended pseudo-classes, but is none of them. -/
  | unknownPseudoClass (selector name : String)
  /-- A `contains` that stands alone has nothing to search in. -/
  | lonelyContains (selector : String)
  /-- A `has` without argument. -/
  | emptyHas (selector : String)
  deriving DecidableEq, Repr

namespace ParseError

/-- The text whose reading failed. -/
def selector : ParseError → String
  | unmatchedParentheses s | unknownPseudoClass s _ | lonelyContains s | emptyHas s => s

def message (e : ParseError) : String :=
  "Failed to parse extended selector " ++ e.selector ++
    match e with
    | unmatchedParentheses _ => " due to unmatched parentheses"
    | unknownPseudoClass _ name => ", invalid pseudo-class :" ++ name ++ "()"
    | lonelyContains _ => ", can't have a lonely :-abp-contains()"
    | emptyHas _ => ", :has() needs an argument"

end ParseError

/-! ### Pseudo-classes -/

/-- The extended pseudo-classes. -/
inductive PseudoClass where
  | properties | has | contains
  /-- A name that is reserved and means nothing. -/
  | unknown
  deriving DecidableEq, Repr

/-- The start of reserved names. -/
def reservedStart : List Char := "-abp-".toList

/-- The extended pseudo-class of a name; all other names are plain. -/
def PseudoClass.named? (name : List Char) : Option PseudoClass :=
  let name := name.map Char.toLower
  if name = "-abp-properties".toList then some .properties
  else if name = "-abp-has".toList ∨ name = "has".toList then some .has
  else if name = "-abp-contains".toList ∨ name = "has-text".toList then some .contains
  else if reservedStart.isPrefixOf name ∧ reservedStart.length < name.length then some .unknown
  else none

/-- The characters of pseudo-class names. -/
def isPseudoChar (c : Char) : Bool :=
  c.isAlphanum || c == '_' || c == '-'

/-- An extended pseudo-class found in a text. -/
structure FoundPseudo where
  /-- The text before its colon. -/
  before : List Char
  kind : PseudoClass
  name : List Char
  /-- The text after its opening parenthesis. -/
  after : List Char

/-- An extended pseudo-class at the start of a text that follows a colon. -/
def pseudoAt? (cs : List Char) : Option FoundPseudo :=
  match cs.dropWhile isPseudoChar with
  | '(' :: after =>
    let name := cs.takeWhile isPseudoChar
    (PseudoClass.named? name).map fun kind => ⟨[], kind, name, after⟩
  | _ => none

/-- The first extended pseudo-class of a text. -/
def findPseudo? : List Char → Option FoundPseudo
  | [] => none
  | c :: rest =>
    match (if c = ':' then pseudoAt? rest else none) with
    | some found => some found
    | none => (findPseudo? rest).map fun found => { found with before := c :: found.before }

/--
The argument whose text starts here, up to the parenthesis that closes it, and the
text after.  Parentheses between quotes do not count, and a backslash takes the next
character with it.
-/
def closeArgument? (n : SelectorList.Nesting) : List Char → Option (List Char × List Char)
  | [] => none
  | ['\\'] => none
  | '\\' :: c :: rest =>
    (closeArgument? n rest).map fun (argument, after) => ('\\' :: c :: argument, after)
  | c :: rest =>
    if c = ')' ∧ n = .top then some ([], rest)
    else (closeArgument? (n.after c) rest).map fun (argument, after) => (c :: argument, after)

/-! ### What is read is shorter -/

theorem pseudoAt?_length {cs : List Char} {found : FoundPseudo} (h : pseudoAt? cs = some found) :
    found.after.length < cs.length := by
  unfold pseudoAt? at h
  split at h
  · rename_i after hdrop
    obtain ⟨_, _, rfl⟩ := Option.map_eq_some_iff.mp h
    have := length_dropWhile_le isPseudoChar cs
    rw [hdrop, List.length_cons] at this
    exact this
  · simp at h

theorem findPseudo?_length {cs : List Char} {found : FoundPseudo}
    (h : findPseudo? cs = some found) : found.after.length < cs.length := by
  induction cs generalizing found with
  | nil => simp [findPseudo?] at h
  | cons c rest ih =>
    rw [findPseudo?] at h
    split at h
    · rename_i later hat
      obtain rfl := Option.some.inj h
      split at hat
      · exact Nat.lt_succ_of_lt (pseudoAt?_length hat)
      · simp at hat
    · obtain ⟨later, hlater, rfl⟩ := Option.map_eq_some_iff.mp h
      exact Nat.lt_succ_of_lt (@ih later hlater)

theorem closeArgument?_length {n : SelectorList.Nesting} {cs argument after : List Char}
    (h : closeArgument? n cs = some (argument, after)) :
    argument.length + after.length < cs.length := by
  fun_induction closeArgument? n cs generalizing argument after with
  | case1 => simp at h
  | case2 => simp at h
  | case3 n c rest ih =>
    obtain ⟨⟨a, b⟩, hab, heq⟩ := Option.map_eq_some_iff.mp h
    have := ih hab
    simp only [Prod.mk.injEq] at heq
    obtain ⟨rfl, rfl⟩ := heq
    simp only [List.length_cons]
    omega
  | case4 n c rest _ _ _ =>
    simp only [Option.some.injEq, Prod.mk.injEq] at h
    obtain ⟨rfl, rfl⟩ := h
    simp
  | case5 n c rest _ _ _ ih =>
    obtain ⟨⟨a, b⟩, hab, heq⟩ := Option.map_eq_some_iff.mp h
    have := ih hab
    simp only [Prod.mk.injEq] at heq
    obtain ⟨rfl, rfl⟩ := heq
    simp only [List.length_cons]
    omega

/-! ### Reading -/

/-- A reading: the links or the error, and the expressions that did not compile, in order. -/
structure Reading where
  links : Except ParseError Chain
  rejected : List String

namespace Reading

def ok (links : Chain) : Reading := ⟨.ok links, []⟩

def fail (e : ParseError) : Reading := ⟨.error e, []⟩

/-- A link in front of what is read after it. -/
def cons (link : Link) (rest : Reading) : Reading :=
  { rest with links := rest.links.map (link :: ·) }

/-- A link with a regular expression in front of what is read after it. -/
def consExpression (make : Option Regex → Link) (source : String) (expression : Option Regex)
    (rest : Reading) : Reading :=
  let read := rest.cons (make expression)
  if expression.isSome then read else { read with rejected := source :: read.rejected }

/-- Plain text in front of what is read after it, if there is any. -/
def consPlain (text : List Char) (rest : Reading) : Reading :=
  if text.isEmpty then rest else rest.cons (.plain (String.ofList text))

end Reading

/-- The chain is a single `contains`. -/
def Chain.isLonelyContains : Chain → Bool
  | [.contains _] => true
  | _ => false

/-- Reads the links of a text; errors name the whole selector. -/
def readLinks (selector : String) (cs : List Char) : Reading :=
  if cs.isEmpty then .ok []
  else
    match _hfound : findPseudo? cs with
    | none => .ok [.plain (String.ofList cs)]
    | some found =>
      Reading.consPlain found.before <|
        match _hclose : closeArgument? .top found.after with
        | none => .fail (.unmatchedParentheses selector)
        | some (argument, after) =>
          match found.kind with
          | .unknown => .fail (.unknownPseudoClass selector (String.ofList found.name))
          | .properties =>
            let text := String.ofList argument
            Reading.consExpression .properties (Argument.styleExpression text)
              (Regex.ofStyle? text) (readLinks selector after)
          | .contains =>
            let text := String.ofList argument
            Reading.consExpression .contains (Argument.textExpression text).1
              (Regex.ofText? text) (readLinks selector after)
          | .has =>
            let inner := readLinks selector argument
            match inner.links with
            | .error _ => inner
            | .ok links =>
              if links.isEmpty then { inner with links := .error (.emptyHas selector) }
              else if links.isLonelyContains then
                { inner with links := .error (.lonelyContains selector) }
              else
                let rest := (readLinks selector after).cons (.has links)
                { rest with rejected := inner.rejected ++ rest.rejected }
termination_by cs.length
decreasing_by
  all_goals
    have hafter := findPseudo?_length _hfound
    have hargument := closeArgument?_length _hclose
    omega

namespace Chain

/-- Reads an extended selector. -/
def read (selector : String) : Reading :=
  let reading := readLinks selector selector.toList
  match reading.links with
  | .ok links =>
    if links.isLonelyContains then { reading with links := .error (.lonelyContains selector) }
    else reading
  | .error _ => reading

/-- The chain of an extended selector. -/
def parse (selector : String) : Except ParseError Chain :=
  (read selector).links

end Chain

end CosmeticFilter
