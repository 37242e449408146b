/-
Printed style sheets are read back.

A block is printed as entries, each with a semicolon behind it: declarations, and texts that
ought to be declarations and are none.  Every entry is whole and closes what it opens, so
it is read by itself, and a faulty one is left out without a trace in those around it.

The priority of a declaration is not read from tokens: it is what stands behind the last
exclamation mark of the text of the value, and this may be one that is escaped, as a part
of a name.  So it has to be said of a value without priority that its text does not end so.
-/
import CosmeticFilter.Proofs.Canonical
import CosmeticFilter.Proofs.Comments
import CosmeticFilter.Proofs.Extended

namespace CosmeticFilter.Css

open CosmeticFilter.Text

/-! ### Entries of a block -/

/-- The tokens close what they open, and no semicolon among them ends a declaration. -/
structure Enclosed (list : List Token) : Prop where
  balanced : Balanced [] list
  unended : .semicolon ∉ outer [] list

instance (list : List Token) : Decidable (Enclosed list) :=
  decidable_of_iff (Balanced [] list ∧ .semicolon ∉ outer [] list)
    ⟨fun h => ⟨h.1, h.2⟩, fun h => ⟨h.balanced, h.unended⟩⟩

theorem Enclosed.append {first last : List Token} (hfirst : Enclosed first)
    (hlast : Enclosed last) : Enclosed (first ++ last) where
  balanced := hfirst.balanced.append hlast.balanced
  unended := by
    rw [outer_append, hfirst.balanced.closed, List.mem_append, not_or]
    exact ⟨hfirst.unended, hlast.unended⟩

theorem Enclosed.dropGap {list : List Token} (h : Enclosed list) :
    Enclosed (list.dropWhile Token.isGap) where
  balanced := h.balanced.dropGap
  unended hsemicolon := h.unended (outer_dropGap_subset _ hsemicolon)

theorem enclosed_ident (name : String) : Enclosed [.ident name] where
  balanced := ⟨rfl, by simp [outer]⟩
  unended := by simp [outer]

/-- A text that may stand before a semicolon in a block. -/
structure IsEntry (t : List Char) : Prop where
  whole : IsWhole t
  enclosed : Enclosed (tokensOf t)

instance (t : List Char) : Decidable (IsEntry t) :=
  decidable_of_iff (IsWhole t ∧ Enclosed (tokensOf t))
    ⟨fun h => ⟨h.1, h.2⟩, fun h => ⟨h.whole, h.enclosed⟩⟩

theorem IsEntry.cons_space {t : List Char} (h : IsEntry t) : IsEntry (' ' :: t) := by
  obtain ⟨hwhole, htokens⟩ := h.whole.cons_space
  refine ⟨hwhole, ?_⟩
  rcases htokens with htokens | htokens
  · rw [htokens]
    exact h.enclosed
  · rw [htokens]
    have hblank : Enclosed [.blank] := by decide
    exact hblank.append h.enclosed

theorem fromDeclarationEnd_entry {t : List Char} (h : IsEntry t) (rest : List Char) :
    fromDeclarationEnd [] (t ++ ';' :: rest) = ';' :: rest := by
  rw [fromDeclarationEnd_reads (h.whole.reads_sign (by decide) rest) [],
    h.enclosed.balanced.closed, fromDeclarationEnd]
  · rfl
  · intro token htoken
    exact ⟨fun hsemicolon => h.enclosed.unended (hsemicolon ▸ htoken),
      fun hcurly => h.enclosed.balanced.inner (hcurly ▸ htoken)⟩

theorem Declaration.read?_skipBlank (cs rest : List Char) :
    Declaration.read? (skipBlank cs) rest = Declaration.read? cs rest := by
  unfold Declaration.read?
  rw [skipBlank_skipBlank]

theorem Declaration.read?_cons_space (cs rest : List Char) :
    Declaration.read? (' ' :: cs) rest = Declaration.read? cs rest := by
  rw [← Declaration.read?_skipBlank (' ' :: cs), skipBlank_cons_blank rfl,
    Declaration.read?_skipBlank]

/-- **An entry is read by itself**, whether it is a declaration or not. -/
theorem readDeclarations_entry {t : List Char} (h : IsEntry t) (rest : List Char) :
    readDeclarations (t ++ ';' :: rest) =
      ((Declaration.read? (t ++ ';' :: rest) (';' :: rest)).toList ++ (readDeclarations rest).1,
        (readDeclarations rest).2) := by
  obtain ⟨s, -, hs, htokens, hskip⟩ := skipBlank_whole h.whole
  have hstart := hskip ';' (by decide) rest
  have hentry : IsEntry s := ⟨hs, htokens ▸ h.enclosed.dropGap⟩
  rw [readDeclarations_step hstart (by simp) ?_ (fromDeclarationEnd_entry hentry rest),
    ← Declaration.read?_skipBlank (t ++ ';' :: rest), hstart]
  · rfl
  · cases s with
    | nil => simp
    | cons c s => simpa using hentry.enclosed.balanced.head_ne hs

/-! ### What is read of an entry -/

section Read

variable {t : List Char} {sign : Char}

/-- Behind the gap at its front a whole text is read token by token. -/
theorem IsWhole.next?_skipBlank (h : IsWhole t) (hsign : sign ∈ [';', '\x7b', '\x7d', ':'])
    {token : Token} {more : List Token}
    (hfirst : (tokensOf t).dropWhile Token.isGap = token :: more) (rest : List Char) :
    ∃ left, IsWhole left ∧ tokensOf left = more ∧
      Token.next? (skipBlank (t ++ sign :: rest)) = some (token, left ++ sign :: rest) := by
  obtain ⟨s, -, hs, htokens, hskip⟩ := skipBlank_whole h
  rw [hskip sign hsign rest]
  rw [hfirst] at htokens
  cases s with
  | nil => simp [tokensOf_nil] at htokens
  | cons c s =>
    obtain ⟨first, left, -, hleft, hlist, hnext⟩ := hs.first_sign
    rw [htokens] at hlist
    obtain ⟨rfl, rfl⟩ := List.cons.inj hlist
    exact ⟨left, hleft, rfl, hnext sign hsign rest⟩

/-- A text that is a gap is passed over. -/
theorem IsWhole.skipBlank_gap (h : IsWhole t) (hsign : sign ∈ [';', '\x7b', '\x7d', ':'])
    (hgap : (tokensOf t).dropWhile Token.isGap = []) (rest : List Char) :
    skipBlank (t ++ sign :: rest) = sign :: rest := by
  obtain ⟨s, -, hs, htokens, hskip⟩ := skipBlank_whole h
  rw [hskip sign hsign rest]
  cases s with
  | nil => rfl
  | cons c s =>
    obtain ⟨first, left, -, -, hlist, -⟩ := hs.first_sign
    rw [hgap, hlist] at htokens
    simp at htokens

/-- The first token behind a gap; behind a text that is one it is the sign. -/
theorem IsWhole.exists_next?_skipBlank (h : IsWhole t)
    (hsign : sign ∈ [';', '\x7b', '\x7d', ':']) (rest : List Char) :
    ∃ left, Token.next? (skipBlank (t ++ sign :: rest)) =
      some ((((tokensOf t).dropWhile Token.isGap).head?.getD (signToken sign)), left) := by
  cases hlist : (tokensOf t).dropWhile Token.isGap with
  | nil =>
    rw [h.skipBlank_gap hsign hlist, Token.next?_sign (List.mem_append_left ['!'] hsign)]
    exact ⟨rest, rfl⟩
  | cons token more =>
    obtain ⟨left, -, -, hnext⟩ := h.next?_skipBlank hsign hlist rest
    exact ⟨left ++ sign :: rest, hnext⟩

theorem Declaration.read?_nameless (h : IsWhole t)
    (hname : ∀ name, ((tokensOf t).dropWhile Token.isGap).head? ≠ some (.ident name))
    (rest : List Char) : Declaration.read? (t ++ ';' :: rest) (';' :: rest) = none := by
  obtain ⟨left, hnext⟩ := h.exists_next?_skipBlank (show ';' ∈ _ by decide) rest
  unfold Declaration.read?
  rw [hnext]
  cases hlist : ((tokensOf t).dropWhile Token.isGap).head? with
  | none => rfl
  | some token =>
    cases token with
    | ident name => exact absurd hlist (hname name)
    | _ => rfl

theorem Declaration.read?_uncoloned (h : IsWhole t) {name : String} {more : List Token}
    (hname : (tokensOf t).dropWhile Token.isGap = .ident name :: more)
    (hcolon : (more.dropWhile Token.isGap).head? ≠ some .colon) (rest : List Char) :
    Declaration.read? (t ++ ';' :: rest) (';' :: rest) = none := by
  obtain ⟨left, hleft, rfl, hnext⟩ := h.next?_skipBlank (show ';' ∈ _ by decide) hname rest
  obtain ⟨last, hsecond⟩ := hleft.exists_next?_skipBlank (show ';' ∈ _ by decide) rest
  unfold Declaration.read?
  rw [hnext]
  simp only
  rw [hsecond]
  cases hlist : ((tokensOf left).dropWhile Token.isGap).head? with
  | none => rfl
  | some token =>
    cases token with
    | colon => exact absurd hlist hcolon
    | _ => rfl

/-- The text is an identifier with this name, maybe with blanks and comments around it. -/
structure Names (t : List Char) (name : String) : Prop where
  whole : IsWhole t
  tokens : (tokensOf t).filter (!·.isGap) = [.ident name]

/-- Behind a name and a colon everything is the value. -/
theorem Declaration.read?_named {name : String} (h : Names t name) (value rest : List Char) :
    Declaration.read? (t ++ ':' :: value ++ ';' :: rest) (';' :: rest) =
      Declaration.ofValue? (lower name) value := by
  obtain ⟨gap, more, htokens, hgap, -, hmore⟩ := List.filter_eq_cons_iff.mp h.tokens
  have hfirst : (tokensOf t).dropWhile Token.isGap = .ident name :: more := by
    rw [htokens, List.dropWhile_append_of_pos (by simpa using hgap),
      List.dropWhile_cons_of_neg (by simp [Token.isGap])]
  have hlast : more.dropWhile Token.isGap = [] :=
    List.dropWhile_eq_nil_iff.mpr (by simpa using List.filter_eq_nil_iff.mp hmore)
  have hcut : t ++ ':' :: value ++ ';' :: rest = t ++ ':' :: (value ++ ';' :: rest) := by simp
  obtain ⟨left, hleft, rfl, hnext⟩ := h.whole.next?_skipBlank (show ':' ∈ _ by decide) hfirst
    (value ++ ';' :: rest)
  unfold Declaration.read?
  rw [hcut, hnext]
  simp only
  rw [hleft.skipBlank_gap (by decide) hlast, Token.next?_sign (by decide)]
  show Declaration.ofValue? (lower name) (between (value ++ ';' :: rest) (';' :: rest)) = _
  rw [between_append]

end Read

/-! ### Values -/

theorem splitLast?_append {c : Char} {back : List Char} (h : c ∉ back) (front : List Char) :
    splitLast? c (front ++ c :: back) = some (front, back) := by
  have hback : ∀ d ∈ back.reverse, (d != c) = true := by
    intro d hd
    simp only [bne_iff_ne, ne_eq]
    rintro rfl
    exact h (List.mem_reverse.mp hd)
  have hreverse : (front ++ c :: back).reverse = back.reverse ++ c :: front.reverse := by simp
  have hdrop : (back.reverse ++ c :: front.reverse).dropWhile (· != c) = c :: front.reverse := by
    rw [List.dropWhile_append_of_pos hback, List.dropWhile_cons_of_neg (by simp)]
  have htake : (back.reverse ++ c :: front.reverse).takeWhile (· != c) = back.reverse := by
    rw [List.takeWhile_append_of_pos hback, List.takeWhile_cons_of_neg (by simp), List.append_nil]
  simp only [splitLast?, hreverse, hdrop, htake, List.reverse_reverse]

theorem eq_of_splitLast? {c : Char} {cs front back : List Char}
    (h : splitLast? c cs = some (front, back)) : cs = front ++ c :: back := by
  have hcut := List.takeWhile_append_dropWhile (p := (· != c)) (l := cs.reverse)
  unfold splitLast? at h
  simp only at h
  split at h
  · rename_i d before hdrop
    obtain ⟨rfl, rfl⟩ := Prod.mk.inj (Option.some.inj h)
    have hd : d = c := by
      have hhead := List.head?_dropWhile_not (· != c) cs.reverse
      simpa [hdrop] using hhead
    rw [hdrop, hd] at hcut
    calc cs = (cs.reverse.takeWhile (· != c) ++ c :: before).reverse := by
          rw [hcut, List.reverse_reverse]
      _ = before.reverse ++ c :: (cs.reverse.takeWhile (· != c)).reverse := by simp
  · simp at h

/-- The text does not end in an exclamation mark with `important` behind it. -/
def Unflagged (value : List Char) : Prop :=
  ∀ front flag, value = front ++ '!' :: flag →
    sameName (String.ofList (trim flag)) "important" = false

theorem unflagged_of_not_mem {value : List Char} (h : '!' ∉ value) : Unflagged value := by
  rintro front flag rfl
  simp at h

theorem splitPriority_unflagged {value : List Char} (h : Unflagged value) :
    splitPriority value = (value, none) := by
  unfold splitPriority
  split
  · rename_i before flag hsplit
    rw [if_neg (by simp [h _ _ (eq_of_splitLast? hsplit)])]
  · rfl

theorem splitPriority_important (value : List Char) :
    splitPriority (value ++ " !important".toList) = (trimRight value, some "important") := by
  have hcut : value ++ " !important".toList = (value ++ [' ']) ++ '!' :: "important".toList := by
    simp
  have hflag : sameName (String.ofList (trim "important".toList)) "important" = true := by
    decide
  unfold splitPriority
  rw [hcut, splitLast?_append (by decide)]
  simp only
  rw [if_pos hflag, trimRight, List.reverse_concat, List.dropWhile_cons_of_pos (by decide),
    trimRight]

theorem not_mem_of_important {flag : List Char}
    (h : sameName (String.ofList (trim flag)) "important" = true) : '!' ∉ flag := by
  intro hmark
  rcases CosmeticFilter.Token.mem_trim_or_isWhite hmark with htrim | hwhite
  · have hletters : (trim flag).map Char.toLower = "important".toList.map Char.toLower := by
      simpa [sameName] using h
    have hlower := List.mem_map_of_mem (f := Char.toLower) htrim
    rw [hletters] at hlower
    exact absurd hlower (by decide)
  · exact absurd hwhite (by decide)

/-- White space is taken off behind a text that has none at its ends. -/
theorem trim_behind {cs : List Char} (h : trim cs = cs) (hcs : cs ≠ []) (back : List Char) :
    trim (cs ++ back) = cs ++ trimRight back := by
  obtain ⟨hfirst, hlast⟩ := ends_of_trim h
  obtain ⟨c, more, hhead⟩ := List.exists_cons_of_ne_nil hcs
  have hend := (List.dropLast_concat_getLast hcs).symm
  exact trim_append back hhead (hfirst c more hhead) hend (hlast _ _ hend)

/-! ### Printed blocks -/

theorem IsEntry.important {t : List Char} (h : IsEntry t) :
    IsEntry (t ++ " !important".toList) := by
  have hname : Token.next? "important;".toList = some (.ident "important", [';']) := by
    decide +kernel
  have hflag : Reads "!important;".toList [.other, .ident "important"] [';'] :=
    .cons (Token.next?_sign (by decide) _) (.cons hname (.nil _))
  have hspaced : Reads " !important;".toList [.blank, .other, .ident "important"] [';'] :=
    .cons (Token.next?_blank rfl _) hflag
  have hcut : t ++ " !important".toList ++ [';'] = t ++ " !important;".toList := by simp
  rcases h.whole.reads (z := " !important;".toList) (.space (by decide) _) with hread | hread
  · obtain ⟨hwhole, htokens⟩ := isWhole_of_reads (hcut ▸ hread.append hspaced)
    exact ⟨hwhole, htokens ▸ h.enclosed.append (by decide)⟩
  · obtain ⟨hwhole, htokens⟩ := isWhole_of_reads (hcut ▸ hread.append hflag)
    exact ⟨hwhole, htokens ▸ h.enclosed.append (by decide)⟩

/-- The text is the identifier that it is read as, in lower case. -/
structure IsProperty (name : String) : Prop where
  whole : IsWhole name.toList
  tokens : tokensOf name.toList = [.ident name]
  lowered : lower name = name

instance (name : String) : Decidable (IsProperty name) :=
  decidable_of_iff (IsWhole name.toList ∧ tokensOf name.toList = [.ident name] ∧
    lower name = name)
    ⟨fun h => ⟨h.1, h.2.1, h.2.2⟩, fun h => ⟨h.whole, h.tokens, h.lowered⟩⟩

theorem IsProperty.names {name : String} (h : IsProperty name) : Names name.toList name where
  whole := h.whole
  tokens := by
    rw [h.tokens]
    rfl

/-- A declaration of a property, with a trimmed value and maybe the one priority. -/
structure Declaration.Printable (declaration : Declaration) : Prop where
  property : IsProperty declaration.property
  filled : declaration.value.toList ≠ []
  trimmed : trim declaration.value.toList = declaration.value.toList
  value : IsEntry declaration.value.toList
  priority : declaration.priority = some "important" ∨
    declaration.priority = none ∧ Unflagged declaration.value.toList

/-- **A printed declaration is read back** from what stands behind its colon. -/
theorem Declaration.Printable.exists_value {declaration : Declaration}
    (h : declaration.Printable) :
    ∃ value, declaration.text.toList = declaration.property.toList ++ ':' :: value ++ [';'] ∧
      IsEntry value ∧ Declaration.ofValue? declaration.property value = some declaration := by
  obtain ⟨property, value, priority⟩ := declaration
  have hfilled : value.toList.isEmpty = false := by simpa using h.filled
  have htrim : ∀ flag, trim (' ' :: (value.toList ++ flag)) = value.toList ++ trimRight flag :=
    fun flag => by rw [SelectorList.trim_cons (by decide), trim_behind h.trimmed h.filled]
  rcases h.priority with hpriority | ⟨hpriority, hunflagged⟩
  · obtain rfl : priority = some "important" := hpriority
    refine ⟨' ' :: (value.toList ++ " !important".toList), by simp [text],
      h.value.important.cons_space, ?_⟩
    have hflag : trimRight " !important".toList = " !important".toList := by decide
    have hlength := length_trim_le value.toList
    rw [h.trimmed] at hlength
    have hvalue : trimRight value.toList = value.toList :=
      (trimRight_front _).eq_of_length_le hlength
    rw [ofValue?, htrim, hflag, splitPriority_important, hvalue]
    simp [hfilled]
  · obtain rfl : priority = none := hpriority
    refine ⟨' ' :: value.toList, by simp [text], h.value.cons_space, ?_⟩
    have hvalue : trim (' ' :: value.toList) = value.toList := by
      rw [SelectorList.trim_cons (by decide)]
      exact h.trimmed
    rw [ofValue?, hvalue, splitPriority_unflagged hunflagged]
    simp [hfilled]

/-- What ought to be a declaration and is none. -/
inductive Faulty : List Char → Prop
  /-- There is no identifier at the front. -/
  | nameless {t : List Char}
      (h : ∀ name, ((tokensOf t).dropWhile Token.isGap).head? ≠ some (.ident name)) : Faulty t
  /-- There is no colon behind the identifier. -/
  | uncoloned {t : List Char} {name : String} {more : List Token}
      (hname : (tokensOf t).dropWhile Token.isGap = .ident name :: more)
      (h : (more.dropWhile Token.isGap).head? ≠ some .colon) : Faulty t
  /-- There is nothing behind the colon. -/
  | valueless {t value : List Char} {name : String} (hname : Names t name)
      (h : trim value = []) : Faulty (t ++ ':' :: value)
  /-- There is nothing behind the colon but a priority. -/
  | flagged {t value flag : List Char} {name : String} (hname : Names t name)
      (hvalue : trim value = '!' :: flag)
      (hflag : sameName (String.ofList (trim flag)) "important" = true) :
      Faulty (t ++ ':' :: value)

/-- What a block is made of. -/
inductive Entry where
  | declaration (printed : Declaration)
  /-- A text in the place of a declaration. -/
  | faulty (text : List Char)

namespace Entry

def text : Entry → List Char
  | .declaration printed => printed.text.toList
  | faulty text => text ++ [';']

def declaration? : Entry → Option Declaration
  | .declaration printed => some printed
  | faulty _ => none

def WellFormed : Entry → Prop
  | .declaration printed => printed.Printable
  | faulty text => IsEntry text ∧ Faulty text

end Entry

theorem Faulty.read? {t : List Char} (h : Faulty t) (hwhole : IsWhole t) (rest : List Char) :
    Declaration.read? (t ++ ';' :: rest) (';' :: rest) = none := by
  cases h with
  | nameless hname => exact Declaration.read?_nameless hwhole hname rest
  | uncoloned hname hcolon => exact Declaration.read?_uncoloned hwhole hname hcolon rest
  | valueless hname hvalue =>
    rw [Declaration.read?_named hname, Declaration.ofValue?, hvalue]
    rfl
  | @flagged _ value flag _ hname hvalue hflag =>
    have hlast := splitLast?_append (not_mem_of_important hflag) []
    rw [List.nil_append] at hlast
    have hsplit : splitPriority ('!' :: flag) = ([], some "important") := by
      unfold splitPriority
      rw [hlast]
      simp only
      rw [if_pos hflag]
      rfl
    rw [Declaration.read?_named hname, Declaration.ofValue?, hvalue, hsplit]
    rfl

/-- **Every entry is read for itself**: a declaration as it is, and a faulty text as none. -/
theorem Entry.WellFormed.exists_text {entry : Entry} (h : entry.WellFormed) :
    ∃ t, entry.text = t ++ [';'] ∧ IsEntry t ∧
      ∀ rest, Declaration.read? (t ++ ';' :: rest) (';' :: rest) = entry.declaration? := by
  cases entry with
  | faulty t =>
    obtain ⟨hentry, hfaulty⟩ := h
    exact ⟨t, rfl, hentry, hfaulty.read? hentry.whole⟩
  | declaration printed =>
    obtain ⟨value, htext, hvalue, hread⟩ := Declaration.Printable.exists_value h
    refine ⟨printed.property.toList ++ ':' :: value, htext, ?_, fun rest => ?_⟩
    · obtain ⟨hwhole, htokens⟩ := h.property.whole.append_sign (show ':' ∈ _ by decide) hvalue.whole
      have hbehind : Enclosed ([signToken ':'] ++ tokensOf value) :=
        Enclosed.append (by decide) hvalue.enclosed
      refine ⟨hwhole, htokens ▸ Enclosed.append ?_ hbehind⟩
      rw [h.property.tokens]
      exact enclosed_ident _
    · rw [Declaration.read?_named h.property.names, h.property.lowered, hread]
      rfl

/-- The inside of a printed block. -/
def blockText (entries : List Entry) : List Char :=
  entries.flatMap (fun entry => ' ' :: entry.text) ++ [' ']

theorem blockText_cons {entry : Entry} {t : List Char} (h : entry.text = t ++ [';'])
    (entries : List Entry) :
    blockText (entry :: entries) = ' ' :: t ++ ';' :: blockText entries := by
  simp [blockText, h]

theorem blockText_isContent {entries : List Entry} (h : ∀ entry ∈ entries, entry.WellFormed) :
    IsContent (blockText entries) := by
  induction entries with
  | nil => exact of_decide_eq_true (by decide +kernel)
  | cons entry entries ih =>
    obtain ⟨hentry, hrest⟩ := List.forall_mem_cons.mp h
    obtain ⟨t, htext, ht, -⟩ := hentry.exists_text
    obtain ⟨hwhole, htokens⟩ := ht.cons_space.whole.append_sign (show ';' ∈ _ by decide)
      (ih hrest).whole
    have hbehind : Balanced [] ([signToken ';'] ++ tokensOf (blockText entries)) :=
      Balanced.append (by decide) (ih hrest).balanced
    rw [blockText_cons htext]
    exact ⟨hwhole, htokens ▸ ht.cons_space.enclosed.balanced.append hbehind⟩

/-- **Faulty declarations are left out**, and those around them are read as they are. -/
theorem readDeclarations_blockText {entries : List Entry}
    (h : ∀ entry ∈ entries, entry.WellFormed) :
    (readDeclarations (blockText entries ++ ['\x7d'])).1 =
      entries.filterMap Entry.declaration? := by
  induction entries with
  | nil => decide +kernel
  | cons entry entries ih =>
    obtain ⟨hentry, hrest⟩ := List.forall_mem_cons.mp h
    obtain ⟨t, htext, ht, hread⟩ := hentry.exists_text
    have hcut : blockText (entry :: entries) ++ ['\x7d'] =
        ' ' :: t ++ ';' :: (blockText entries ++ ['\x7d']) := by
      simp [blockText_cons htext]
    rw [hcut, readDeclarations_entry ht.cons_space, List.cons_append,
      Declaration.read?_cons_space, hread, ih hrest, List.filterMap_cons]
    cases entry.declaration? <;> rfl

/-! ### Printed sheets -/

/-- A selector list as it may stand before a block. -/
structure IsSelectorText (selector : String) : Prop where
  filled : selector.toList ≠ []
  trimmed : trim selector.toList = selector.toList
  prelude : IsPrelude selector.toList
  opens : (tokensOf selector.toList).head?.any Token.opensStyle = true

/-- What a sheet is printed from. -/
inductive Item where
  | style (selector : String) (entries : List Entry)
  /-- An at-rule that ends at a semicolon. -/
  | statement (prelude : List Char)
  /-- An at-rule with a block. -/
  | block (prelude content : List Char)

namespace Item

def written : Item → RuleText
  | style selector entries => .style (selector.toList ++ [' ']) (blockText entries)
  | statement prelude => .statement prelude
  | block prelude content => .block prelude content

def rule : Item → Rule
  | style selector entries => .style ⟨selector, entries.filterMap Entry.declaration?⟩
  | _ => .other

def WellFormed : Item → Prop
  | style selector entries => IsSelectorText selector ∧ ∀ entry ∈ entries, entry.WellFormed
  | statement prelude => (RuleText.statement prelude).WellFormed
  | block prelude content => (RuleText.block prelude content).WellFormed

end Item

theorem IsSelectorText.written {selector : String} (h : IsSelectorText selector) :
    IsPrelude (selector.toList ++ [' ']) ∧
      (tokensOf (selector.toList ++ [' '])).head?.any Token.opensStyle = true := by
  obtain ⟨hwhole, htokens | htokens⟩ := h.prelude.whole.space
  · refine ⟨⟨hwhole, ?_, ?_⟩, ?_⟩ <;> rw [htokens]
    · exact h.prelude.balanced
    · exact h.prelude.braceless
    · exact h.opens
  · refine ⟨⟨hwhole, ?_, ?_⟩, ?_⟩ <;> rw [htokens]
    · exact h.prelude.balanced.append (by decide)
    · rw [outer_append, h.prelude.balanced.closed, List.mem_append, not_or]
      exact ⟨h.prelude.braceless, by decide⟩
    · have hopens := h.opens
      cases htokens : tokensOf selector.toList with
      | nil => simp [htokens] at hopens
      | cons token more => simpa [htokens] using hopens

theorem IsSelectorText.selectorText {selector : String} (h : IsSelectorText selector) :
    selectorText (selector.toList ++ [' '] ++ ['\x7b']) = selector := by
  have hstripped : ((selector.toList ++ [' '] ++ ['\x7b']).reverse.dropWhile
      (· == '\x7b')).reverse = selector.toList ++ [' '] := by
    rw [List.reverse_concat, List.dropWhile_cons_of_pos (by decide), List.reverse_concat,
      List.dropWhile_cons_of_neg (by decide), ← List.reverse_concat, List.reverse_reverse]
  rw [Css.selectorText, hstripped, SelectorList.trim_concat (by decide), h.trimmed,
    String.ofList_toList]

theorem Item.WellFormed.written {item : Item} (h : item.WellFormed) :
    item.written.WellFormed := by
  cases item with
  | style selector entries => exact ⟨h.1.written.1, blockText_isContent h.2, h.1.written.2⟩
  | statement prelude => exact h
  | block prelude content => exact h

theorem Item.WellFormed.behind {item : Item} (h : item.WellFormed) :
    item.written.behind [] = item.rule := by
  cases item with
  | style selector entries =>
    show Rule.style ⟨selectorText (selector.toList ++ [' '] ++ ['\x7b']), _⟩ = _
    rw [h.1.selectorText, readDeclarations_blockText h.2, Item.rule]
  | statement prelude => rfl
  | block prelude content => rfl

/-- The text with each item on a line of its own. -/
def printed (items : List Item) : SheetText where
  pieces := items.map fun item => ([.newline], item.written)
  last := []

/-- Every rule takes at least one character of the text. -/
theorem length_readRules_le (cs : List Char) : (readRules cs).length ≤ cs.length := by
  fun_induction readRules cs with
  | case1 => exact Nat.zero_le _
  | case2 cs rule rest hnext ih =>
    have hshorter := Rule.next?_length hnext
    rw [List.length_cons]
    omega

/-- **What is printed is read back**, and reading ends on every text. -/
theorem parse_printed {items : List Item} (h : ∀ item ∈ items, item.WellFormed) :
    parse (printed items).text = items.map Item.rule ∧
      ∀ css : String, (parse css).length ≤ css.length := by
  refine ⟨?_, fun css => ?_⟩
  · have hprinted : (printed items).WellFormed := by
      intro piece hpiece
      obtain ⟨item, hitem, rfl⟩ := List.mem_map.mp hpiece
      exact (h item hitem).written
    rw [SheetText.parse_text hprinted, printed, List.map_map]
    refine List.map_congr_left fun item hitem => ?_
    have hblank : item.written.behind (gapText [.newline]) = item.written.behind [] :=
      (item.written.behind_gap_iff _).mpr fun _ => List.forall_mem_singleton.mpr rfl
    exact hblank.trans (h item hitem).behind
  · rw [← String.length_toList]
    exact length_readRules_le css.toList

/-- A rule with a faulty declaration between two others, and an at-rule around another rule. -/
def boxItems : List Item :=
  [.style ".box" [.declaration ⟨"color", "red", some "important"⟩, .faulty "width".toList,
      .declaration ⟨"height", "2px", none⟩],
    .block "@media print ".toList " .box \x7b width: 0 \x7d ".toList]

theorem parse_printed_boxes : (∀ item ∈ boxItems, item.WellFormed) ∧
    (printed boxItems).text = "\n.box \x7b color: red !important; width; height: 2px; \x7d" ++
      "\n@media print \x7b .box \x7b width: 0 \x7d \x7d" ∧
    parse (printed boxItems).text =
      [.style ⟨".box", [⟨"color", "red", some "important"⟩, ⟨"height", "2px", none⟩]⟩,
        .other] := by
  have hselector : IsSelectorText ".box" :=
    ⟨by decide, by decide, by decide +kernel, by decide +kernel⟩
  have hcolor : Declaration.Printable ⟨"color", "red", some "important"⟩ :=
    ⟨by decide +kernel, by decide, by decide, by decide +kernel, .inl rfl⟩
  have hheight : Declaration.Printable ⟨"height", "2px", none⟩ :=
    ⟨by decide +kernel, by decide, by decide, by decide +kernel,
      .inr ⟨rfl, unflagged_of_not_mem (by decide)⟩⟩
  have hwidth : IsEntry "width".toList ∧ Faulty "width".toList := by
    have hname : (tokensOf "width".toList).dropWhile Token.isGap = [.ident "width"] := by
      decide +kernel
    exact ⟨by decide +kernel, .uncoloned hname (by decide)⟩
  have hitems : ∀ item ∈ boxItems, item.WellFormed := by
    refine List.forall_mem_cons.mpr ⟨⟨hselector, ?_⟩, List.forall_mem_singleton.mpr ?_⟩
    · simp only [List.forall_mem_cons]
      exact ⟨hcolor, hwidth, hheight, by simp⟩
    · show (RuleText.block "@media print ".toList " .box \x7b width: 0 \x7d ".toList).WellFormed
      decide +kernel
  exact ⟨hitems, by decide +kernel, (parse_printed hitems).1⟩

/-- A value that is one identifier, with an escaped exclamation mark in it. -/
def markItems : List Item :=
  [.style "a" [.declaration ⟨"b", "c\\!important", none⟩]]

/-- What stands behind the escaped mark is taken for the priority of the declaration. -/
theorem escaped_mark_taken :
    (IsSelectorText "a" ∧ IsProperty "b") ∧
      (trim "c\\!important".toList = "c\\!important".toList ∧ IsEntry "c\\!important".toList ∧
        tokensOf "c\\!important".toList = [.ident "c!important"]) ∧
      (printed markItems).text = "\na \x7b b: c\\!important; \x7d" ∧
      markItems.map Item.rule = [.style ⟨"a", [⟨"b", "c\\!important", none⟩]⟩] ∧
      parse (printed markItems).text = [.style ⟨"a", [⟨"b", "c\\", some "important"⟩]⟩] := by
  have hselector : IsSelectorText "a" :=
    ⟨by decide, by decide, by decide +kernel, by decide +kernel⟩
  have hvalue : trim "c\\!important".toList = "c\\!important".toList ∧
      IsEntry "c\\!important".toList ∧
        tokensOf "c\\!important".toList = [.ident "c!important"] := by
    decide +kernel
  exact ⟨⟨hselector, by decide +kernel⟩, hvalue, by decide +kernel, rfl, by decide +kernel⟩

end CosmeticFilter.Css
