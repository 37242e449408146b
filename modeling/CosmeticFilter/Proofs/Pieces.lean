/-
Reading regular expressions text by text.

A text is read as some parts if reading goes on behind it with these parts in place, whatever
is read then.  A repetition sign is the exception: a question mark behind it would belong to it.
Texts that are read as parts can be put one behind the other, and the parts follow each other in
the same way.  This is shown here for the pieces that wildcard expressions are translated to:
characters as they stand, dots and anchors, repetitions, groups, and the brackets in the
expressions of separators and domains.
-/
import CosmeticFilter.Proofs.Substring

namespace CosmeticFilter.Regex

open CosmeticFilter.Text CosmeticFilter.Unicode

/-- Unicode is on, and blanks stand for themselves. -/
structure Flags.Usual (flags : Flags) : Prop where
  unicode : flags.unicode = true
  layout : flags.freeLayout = false

theorem startFlags_usual (caseless multiLine : Bool) : (startFlags caseless multiLine).Usual :=
  ⟨rfl, rfl⟩

theorem Flags.Usual.skip {flags : Flags} (h : flags.Usual) (cs : List Char) :
    flags.skip cs = cs := by
  rw [Flags.skip, h.layout, if_neg Bool.false_ne_true]

/-! ### Brackets -/

theorem hexValue?_lt {c : Char} {x : Nat} (h : hexValue? c = some x) : x < 16 := by
  have hle : ∀ a b : Char, a ≤ b ↔ a.toNat ≤ b.toNat := fun a b => UInt32.le_iff_toNat_le
  simp only [hexValue?, hle] at h
  split at h
  · rename_i hdigit
    have hvalue := Option.some.inj h
    have hnine : '9'.toNat = 57 := rfl
    have hzero : '0'.toNat = 48 := rfl
    omega
  · split at h
    · rename_i hsmall
      have hvalue := Option.some.inj h
      have hf : 'f'.toNat = 102 := rfl
      have ha : 'a'.toNat = 97 := rfl
      omega
    · split at h
      · rename_i hcapital
        have hvalue := Option.some.inj h
        have hf : 'F'.toNat = 70 := rfl
        have ha : 'A'.toNat = 65 := rfl
        omega
      · simp at h

section Brackets

variable {flags : Flags} (h : flags.Usual)

include h

/-- An item that starts with a backslash is read before what follows it. -/
theorem finishBracket?_escape {top next : OpenBracket} (outer : List OpenBracket)
    {cs rest : List Char} (hitem : readRange? flags top ('\\' :: cs) = some (next, rest))
    (hless : rest.length ≤ cs.length) :
    finishBracket? flags top outer ('\\' :: cs) = finishBracket? flags next outer rest := by
  have hstep : bracketStep? flags top outer ('\\' :: cs) = some (.inside next outer rest) := by
    simp [bracketStep?, h.skip, hitem]
  rw [finishBracket?, hstep]
  exact if_pos (Nat.lt_succ_of_le hless)

/-- The bracket ends, and its items are a set. -/
theorem finishBracket?_close (top : OpenBracket) : ∃ set height, ∀ rest,
    finishBracket? flags top [] (']' :: rest) = some (.ofSet set true height, rest) := by
  rcases hcombined : top.combined flags with ⟨set, height⟩
  have hclose : ∃ finished, finishClass? flags top.negated set = some finished := by
    simp [finishClass?, h.unicode]
  obtain ⟨finished, hfinished⟩ := hclose
  refine ⟨finished, height + 1, fun rest => ?_⟩
  rw [finishBracket?]
  simp [bracketStep?, h.skip, OpenBracket.close?, hcombined, hfinished, h.unicode]

/-- Two hexadecimal digits are a character. -/
theorem readItem?_hex {a b : Char} {x y : Nat} (ha : hexValue? a = some x)
    (hb : hexValue? b = some y) (rest : List Char) :
    readItem? flags ('\\' :: 'x' :: a :: b :: rest) =
      some (.char (Char.ofNat (16 * x + y)) true, rest) := by
  have hx := hexValue?_lt ha
  have hy := hexValue?_lt hb
  have hbrace : a ≠ '\x7b' := by
    rintro rfl
    have hnone : hexValue? '\x7b' = none := rfl
    simp [hnone] at ha
  have hcode : 16 * x + y < 0xD800 := by omega
  simp [readItem?, readEscape?, readCodePoint?, readHex?, h.skip, ha, hb, hbrace, charOf?, hcode]

/-- A range between two characters by their numbers. -/
theorem finishBracket?_interval (top : OpenBracket) {a b c d : Char} {x y z w : Nat}
    (ha : hexValue? a = some x) (hb : hexValue? b = some y) (hc : hexValue? c = some z)
    (hd : hexValue? d = some w) (hle : Char.ofNat (16 * x + y) ≤ Char.ofNat (16 * z + w)) :
    ∃ next, ∀ rest, finishBracket? flags top []
      ('\\' :: 'x' :: a :: b :: '-' :: '\\' :: 'x' :: c :: d :: rest) =
        finishBracket? flags next [] rest := by
  refine ⟨_, fun rest => finishBracket?_escape h [] (?_ : readRange? flags top _ = some (top.add
    (.interval (Char.ofNat (16 * x + y)).toNat (Char.ofNat (16 * z + w)).toNat) 0, rest)) ?_⟩
  · simp [readRange?, readItem?_hex h ha hb, readItem?_hex h hc hd, h.skip, itemChar?, h.unicode,
      hle]
  · simp only [List.length_cons]
    omega

/-- One character by its number, before another one. -/
theorem finishBracket?_single (top : OpenBracket) {a b : Char} {x y : Nat}
    (ha : hexValue? a = some x) (hb : hexValue? b = some y) :
    ∃ next, ∀ rest, finishBracket? flags top [] ('\\' :: 'x' :: a :: b :: '\\' :: rest) =
      finishBracket? flags next [] ('\\' :: rest) := by
  refine ⟨_, fun rest => finishBracket?_escape h [] (?_ : readRange? flags top _ = some (top.add
    (.only (Char.ofNat (16 * x + y))) 0, '\\' :: rest)) ?_⟩
  · simp [readRange?, readItem?_hex h ha hb, h.skip, itemChar?, h.unicode]
  · simp only [List.length_cons]
    omega

/-- All but slashes. -/
theorem readBracket?_noSlash : ∃ set height, ∀ rest,
    readBracket? flags ("^/]".toList ++ rest) = some (.ofSet set true height, rest) := by
  let top : OpenBracket := ⟨true, none, .empty⟩
  have hopen : ∀ rest, openBracket? flags ('^' :: '/' :: ']' :: rest) =
      some (top, '/' :: ']' :: rest) := by
    intro rest
    simp [openBracket?, h.skip, readHyphens, h.layout, top]
  have hstep : ∀ rest, bracketStep? flags top [] ('/' :: ']' :: rest) =
      some (.inside (top.add (.only '/') 0) [] (']' :: rest)) := by
    intro rest
    simp [bracketStep?, h.skip, readRange?, readItem?, itemChar?, h.unicode]
  obtain ⟨set, height, hclose⟩ := finishBracket?_close h (top.add (.only '/') 0)
  refine ⟨set, height, fun rest => ?_⟩
  show readBracket? flags ('^' :: '/' :: ']' :: rest) = _
  rw [readBracket?, hopen]
  simp only [Option.bind_eq_bind, Option.bind_some]
  rw [finishBracket?, hstep]
  simp [hclose]

/-- Word characters and hyphens. -/
theorem readBracket?_word : ∃ set height, ∀ rest,
    readBracket? flags ("\\w\\-]".toList ++ rest) = some (.ofSet set true height, rest) := by
  let top : OpenBracket := ⟨false, none, .empty⟩
  let word := top.add (shortClass flags 'w') 0
  have hopen : ∀ rest, openBracket? flags ('\\' :: rest) = some (top, '\\' :: rest) := by
    intro rest
    simp [openBracket?, h.skip, readHyphens, h.layout, top]
  have hword : ∀ rest, readRange? flags top ('\\' :: 'w' :: '\\' :: rest) =
      some (word, '\\' :: rest) := by
    intro rest
    simp [readRange?, readItem?, readEscape?, h.skip, word]
  have hhyphen : ∀ rest, readRange? flags word ('\\' :: '-' :: ']' :: rest) =
      some (word.add (.only '-') 0, ']' :: rest) := by
    intro rest
    simp [readRange?, readItem?, readEscape?, isEscapable, h.skip, itemChar?, h.unicode]
  obtain ⟨set, height, hclose⟩ := finishBracket?_close h (word.add (.only '-') 0)
  refine ⟨set, height, fun rest => ?_⟩
  show readBracket? flags ('\\' :: 'w' :: '\\' :: '-' :: ']' :: rest) = _
  rw [readBracket?, hopen]
  simp only [Option.bind_eq_bind, Option.bind_some]
  rw [finishBracket?_escape h [] (hword _) (by simp),
    finishBracket?_escape h [] (hhyphen _) (by simp), hclose]

/-- The characters of ASCII that separate. -/
theorem readBracket?_separator : ∃ set height, ∀ rest,
    readBracket? flags
        ("\\x00-\\x24\\x26-\\x2C\\x2F\\x3A-\\x40\\x5B-\\x5E\\x60\\x7B-\\x7F]".toList ++ rest) =
      some (.ofSet set true height, rest) := by
  have hopen : ∀ rest, openBracket? flags ('\\' :: rest) =
      some (⟨false, none, .empty⟩, '\\' :: rest) := by
    intro rest
    simp [openBracket?, h.skip, readHyphens, h.layout]
  have h0 : hexValue? '0' = some 0 := rfl
  have h2 : hexValue? '2' = some 2 := rfl
  have h3 : hexValue? '3' = some 3 := rfl
  have h4 : hexValue? '4' = some 4 := rfl
  have h5 : hexValue? '5' = some 5 := rfl
  have h6 : hexValue? '6' = some 6 := rfl
  have h7 : hexValue? '7' = some 7 := rfl
  have ha : hexValue? 'A' = some 10 := rfl
  have hb : hexValue? 'B' = some 11 := rfl
  have hc : hexValue? 'C' = some 12 := rfl
  have he : hexValue? 'E' = some 14 := rfl
  have hf : hexValue? 'F' = some 15 := rfl
  obtain ⟨first, hfirst⟩ :=
    finishBracket?_interval h ⟨false, none, .empty⟩ h0 h0 h2 h4 (by decide)
  obtain ⟨second, hsecond⟩ := finishBracket?_interval h first h2 h6 h2 hc (by decide)
  obtain ⟨third, hthird⟩ := finishBracket?_single h second h2 hf
  obtain ⟨fourth, hfourth⟩ := finishBracket?_interval h third h3 ha h4 h0 (by decide)
  obtain ⟨fifth, hfifth⟩ := finishBracket?_interval h fourth h5 hb h5 he (by decide)
  obtain ⟨sixth, hsixth⟩ := finishBracket?_single h fifth h6 h0
  obtain ⟨last, hlast⟩ := finishBracket?_interval h sixth h7 hb h7 hf (by decide)
  obtain ⟨set, height, hclose⟩ := finishBracket?_close h last
  refine ⟨set, height, fun rest => ?_⟩
  simp only [String.reduceToList, List.cons_append, List.nil_append, readBracket?, hopen,
    Option.bind_eq_bind, Option.bind_some]
  rw [hfirst, hsecond, hthird, hfourth, hfifth, hsixth, hlast, hclose]

end Brackets

/-! ### Parts -/

/-- The state when these parts have been read as well. -/
def State.behind (state : State) (parts : List Part) (rest : List Char) : State :=
  { state with
    level := { state.level with parts := parts.reverse ++ state.level.parts }
    rest := rest }

@[simp] theorem State.behind_flags (state : State) (parts : List Part) (rest : List Char) :
    (state.behind parts rest).flags = state.flags := rfl

@[simp] theorem State.behind_rest (state : State) (parts : List Part) (rest : List Char) :
    (state.behind parts rest).rest = rest := rfl

theorem State.behind_single (state : State) (part : Part) (rest : List Char) :
    state.behind [part] rest = { state with level := state.level.add part, rest := rest } := rfl

theorem State.behind_behind (state : State) (first second : List Part) (rest more : List Char) :
    (state.behind first rest).behind second more = state.behind (first ++ second) more := by
  simp [behind]

/-- The text is read as these parts, whatever follows. -/
def Reads (flags : Flags) (text : List Char) (parts : List Part) : Prop :=
  ∀ (state : State) (rest : List Char), state.flags = flags → state.rest = text ++ rest →
    state.finish? = (state.behind parts rest).finish?

/-- The text is read as these parts if no question mark follows. -/
def ReadsApart (flags : Flags) (text : List Char) (parts : List Part) : Prop :=
  ∀ (state : State) (rest : List Char), state.flags = flags → state.rest = text ++ rest →
    rest.head? ≠ some '?' → state.finish? = (state.behind parts rest).finish?

variable {flags : Flags} {text more : List Char} {part : Part} {parts others : List Part}

theorem Reads.apart (h : Reads flags text parts) : ReadsApart flags text parts :=
  fun state rest hflags hrest _ => h state rest hflags hrest

theorem readsApart_nil : ReadsApart flags [] [] := by
  intro state rest _ hrest _
  rw [List.nil_append] at hrest
  rw [State.behind, ← hrest]
  rfl

theorem ReadsApart.append (h : ReadsApart flags text parts) (hmore : ReadsApart flags more others)
    (hhead : more.head? ≠ some '?') : ReadsApart flags (text ++ more) (parts ++ others) := by
  intro state rest hflags hrest hend
  have hnext : (more ++ rest).head? ≠ some '?' := by
    cases more with
    | nil => exact hend
    | cons c cs => exact hhead
  rw [h state (more ++ rest) hflags (by rw [hrest, List.append_assoc]) hnext,
    hmore (state.behind parts (more ++ rest)) rest hflags rfl hend, State.behind_behind]

/-- To read on is to take one step and to read on. -/
theorem State.finish?_step {state next : State} {c : Char} {rest : List Char}
    (hflags : state.flags.Usual) (hrest : state.rest = c :: rest)
    (hstep : state.step? c rest = some next) (hless : next.rest.length ≤ rest.length) :
    state.finish? = next.finish? := by
  rw [State.finish?, hflags.skip, hrest]
  simp only [hstep]
  rw [if_pos (by rw [List.length_cons]; omega)]

section Steps

variable (h : flags.Usual)

include h

/-- One step is enough if it adds a part. -/
theorem Reads.of_step {c : Char}
    (hstep : ∀ (state : State) (rest : List Char), state.flags = flags →
      state.step? c (text ++ rest) = some (state.behind [part] rest)) :
    Reads flags (c :: text) [part] := by
  intro state rest hflags hrest
  refine State.finish?_step (hflags ▸ h) hrest (hstep state rest hflags) ?_
  have hlength : rest.length ≤ (text ++ rest).length := by
    rw [List.length_append]
    omega
  exact hlength

theorem reads_literal (c : Char) : Reads flags (escapeChar c) [literalPart flags c] := by
  intro state rest hflags hrest
  obtain ⟨first, more, hfirst, hstep⟩ := step?_literal state (hflags ▸ h.unicode) c rest
  refine State.finish?_step (hflags ▸ h) (hrest.trans hfirst) ?_ ?_
  · rw [hstep, State.behind_single, ← hflags]
  · have hlength := congrArg List.length hfirst
    have hescape : 1 ≤ (escapeChar c).length := by
      unfold escapeChar
      split <;> simp
    rw [List.length_append, List.length_cons] at hlength
    rw [State.behind_rest]
    omega

theorem reads_dot : Reads flags ['.'] [.ofSet (anyChar flags) true 0] :=
  .of_step h fun state rest hflags => by
    simp [State.step?, readPrimitive?, hflags, h.unicode, State.behind, Level.add]

theorem reads_start : Reads flags ['^'] [.ofTest (startTest flags)] :=
  .of_step h fun state rest hflags => by
    simp [State.step?, readPrimitive?, hflags, State.behind, Level.add]

theorem reads_end : Reads flags ['$'] [.ofTest (endTest flags)] :=
  .of_step h fun state rest hflags => by
    simp [State.step?, readPrimitive?, hflags, State.behind, Level.add]

theorem reads_bracket {set : CodeSet} {height : Nat}
    (hbracket : ∀ rest, readBracket? flags (text ++ rest) = some (.ofSet set true height, rest)) :
    Reads flags ('[' :: text) [.ofSet set true height] :=
  .of_step h fun state rest hflags => by
    simp [State.step?, hflags, hbracket, State.behind, Level.add]

/-! Repetitions and groups. -/

omit h in
theorem State.repeat?_behind (state : State) (hrepeatable : part.repeatable = true)
    (least : Nat) (most : Option Nat) {cs rest : List Char} (hend : rest.head? ≠ some '?') :
    (state.behind [part] cs).repeat? least most rest =
      some (state.behind [.repetition least most (!state.flags.lazyFirst) part] rest) := by
  have hmark : ∀ after, rest ≠ '?' :: after := by
    rintro after rfl
    exact hend rfl
  rw [State.repeat?]
  · simp [State.behind, hrepeatable]
  · exact hmark

/-- A sign behind a part repeats it. -/
theorem Reads.repeated (hpart : Reads flags text [part]) (hrepeatable : part.repeatable = true)
    {sign : Char} {least : Nat} {most : Option Nat}
    (hsign : ∀ (state : State) (rest : List Char),
      state.step? sign rest = state.repeat? least most rest) :
    ReadsApart flags (text ++ [sign]) [.repetition least most (!flags.lazyFirst) part] := by
  intro state rest hflags hrest hend
  have hone := hpart state (sign :: rest) hflags (by simpa using hrest)
  have hrepeat : (state.behind [part] (sign :: rest)).repeat? least most rest = _ :=
    State.repeat?_behind state hrepeatable least most hend
  rw [← hsign, hflags] at hrepeat
  rw [hone]
  exact State.finish?_step (by rw [State.behind_flags, hflags]; exact h) rfl hrepeat (Nat.le_refl _)

/-- A group that is not remembered starts a level of its own. -/
theorem State.finish?_open {state : State} {rest : List Char} (hflags : state.flags = flags)
    (hrest : state.rest = "(?:".toList ++ rest) :
    state.finish? = (state.openGroup flags none rest).finish? := by
  have hstep : state.step? '(' ('?' :: ':' :: rest) = some (state.openGroup flags none rest) := by
    simp [State.step?, State.group?, hflags, h.skip, readFlags?]
  have hlength : rest.length ≤ ('?' :: ':' :: rest).length := by
    simp only [List.length_cons]
    omega
  exact State.finish?_step (hflags ▸ h)
    (show state.rest = '(' :: '?' :: ':' :: rest from hrest) hstep hlength

/-- A closing parenthesis adds the group to the level around it. -/
theorem State.finish?_close {state : State} {rest : List Char} {group : OpenGroup}
    {outer : List OpenGroup} (hflags : state.flags = flags) (hrest : state.rest = ')' :: rest)
    (houter : state.outer = group :: outer) :
    state.finish? = ({ state with
      flags := group.flags
      level := group.level.add (state.level.whole.group group.index)
      outer := outer
      rest := rest } : State).finish? := by
  refine State.finish?_step (hflags ▸ h) hrest ?_ (Nat.le_refl _)
  simp [State.step?, State.closeGroup?, houter]

/-- A group with one alternative is the sequence of its parts. -/
theorem reads_group {inner : List Char} (hinner : ReadsApart flags inner parts) :
    Reads flags ("(?:".toList ++ inner ++ [')']) [(Part.sequence parts).group none] := by
  intro state rest hflags hrest
  have hopen : state.rest = "(?:".toList ++ (inner ++ ')' :: rest) := by
    rw [hrest]
    simp
  rw [State.finish?_open h hflags hopen,
    hinner (state.openGroup flags none (inner ++ ')' :: rest)) (')' :: rest) rfl rfl (by simp),
    State.finish?_close h rfl rfl rfl]
  simp [State.behind, State.openGroup, Level.whole, Level.empty, Level.add, Part.choice, hflags]

/-- A group with two alternatives of one part each. -/
theorem reads_choice {left right : List Char} {first second : Part}
    (hleft : Reads flags left [first]) (hright : Reads flags right [second]) :
    Reads flags ("(?:".toList ++ left ++ '|' :: right ++ [')'])
      [(Part.choice first [second]).group none] := by
  intro state rest hflags hrest
  have hopen : state.rest = "(?:".toList ++ (left ++ '|' :: (right ++ ')' :: rest)) := by
    rw [hrest]
    simp
  let inside := state.openGroup flags none (left ++ '|' :: (right ++ ')' :: rest))
  let middle := inside.behind [first] ('|' :: (right ++ ')' :: rest))
  let next : State :=
    { middle with level := middle.level.nextAlternative, rest := right ++ ')' :: rest }
  have hbar : middle.finish? = next.finish? :=
    State.finish?_step h rfl rfl (Nat.le_refl _)
  rw [State.finish?_open h hflags hopen, hleft inside _ rfl rfl, hbar,
    hright next (')' :: rest) rfl rfl, State.finish?_close h rfl rfl rfl]
  simp [next, middle, inside, State.behind, State.openGroup, Level.whole, Level.empty, Level.add,
    Level.nextAlternative, Part.sequence, hflags]

end Steps

end CosmeticFilter.Regex
