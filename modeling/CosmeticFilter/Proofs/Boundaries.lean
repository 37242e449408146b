/-
Where a selector ends.

Two readers have to agree on it.  The one that cuts a list at its commas keeps account of quotes
and parentheses wherever they stand, and of backslashes.  The one that reads the tokens of a member
minds quotes around a value only, knows no backslash there, and closes an argument at the end of
the text.

They agree in what is supported.  A comma behind a supported text is no token of the subset, and
in an argument that is still open it leaves no number, so that a list is refused in which a comma
was not cut.  And it is cut wherever the first text closes what it opens, which it does if its
attributes do so and no argument is left open.
-/
import CosmeticFilter.Proofs.Commas
import CosmeticFilter.Proofs.Lookahead

namespace CosmeticFilter

open CosmeticFilter.Text

/-! ### Pieces of a text -/

namespace Token

/-- The tokens of the text, each with the stretch that it is read from. -/
def pieces (cs : List Char) : List (Token × List Char) :=
  match _h : next? cs with
  | none => []
  | some (token, rest) => (token, between cs rest) :: pieces rest
termination_by cs.length
decreasing_by exact next?_length _h

theorem pieces_cons {token : Token} {front rest : List Char}
    (hnext : next? (front ++ rest) = some (token, rest)) :
    pieces (front ++ rest) = (token, front) :: pieces rest := by
  rw [pieces]
  split
  · rename_i hnone
    rw [hnone] at hnext
    cases hnext
  · rename_i heq
    rw [heq] at hnext
    obtain ⟨rfl, rfl⟩ := Prod.mk.inj (Option.some.inj hnext)
    rw [between_append]

/-! ### A comma behind a text -/

/-- White characters in front of a comma do not help. -/
theorem exists_unsupported_white {more : List Char} (hmore : ∀ c ∈ more, isWhite c = true)
    (back : List Char) : ∃ text, .simple (.unsupported text) ∈ all (more ++ ',' :: back) := by
  induction hlength : more.length using Nat.strongRecOn generalizing more with
  | ind length ih =>
    subst hlength
    cases more with
    | nil =>
      have hnext : next? (',' :: back) = some (.simple (.unsupported ","), back) := rfl
      rw [List.nil_append, all_cons hnext]
      exact ⟨",", List.mem_cons_self⟩
    | cons c more =>
      obtain ⟨hc, hmore⟩ := List.forall_mem_cons.mp hmore
      -- Blanks and names end in front of the comma, with fewer white characters left.
      have hrun : ∀ p : Char → Bool, p ',' = false →
          (∀ cs, ∃ token, next? (c :: cs) = some (token, cs.dropWhile p)) →
          ∃ text, .simple (.unsupported text) ∈ all (c :: more ++ ',' :: back) := by
        intro p hcomma hread
        obtain ⟨left, hleft, hdrop⟩ := dropWhile_append_comma hcomma [] more back
        rw [List.nil_append, List.dropWhile_nil, List.nil_append] at hdrop
        obtain ⟨token, hnext⟩ := hread (more ++ ',' :: back)
        rw [hdrop] at hnext
        obtain ⟨text, htold⟩ := ih left.length (Nat.lt_succ_of_le hleft.length_le)
          (fun d hd => hmore d (hleft.subset hd)) rfl
        rw [List.cons_append, all_cons hnext]
        exact ⟨text, List.mem_cons_of_mem _ htold⟩
      by_cases hblank : isBlank c = true
      · exact hrun isBlank (by decide) fun cs => ⟨.blank, by simp [next?, hblank]⟩
      by_cases hname : isNameChar c = true
      · exact hrun isNameChar (by decide) fun cs => ⟨_, next?_type hname cs⟩
      have hnext : next? (c :: (more ++ ',' :: back)) =
          some (.simple (.unsupported (String.ofList [c])), more ++ ',' :: back) := by
        unfold next?
        simp only [hblank, Bool.false_eq_true, if_false]
        split <;> first | exact absurd hc (by decide) | rw [readType, if_neg hname]
      rw [List.cons_append, all_cons hnext]
      exact ⟨_, List.mem_cons_self⟩

/-- **A comma behind a supported text** is read as what is not supported. -/
theorem exists_unsupported_comma {cs : List Char}
    (hsupported : ∀ cond, .simple cond ∈ all cs → cond.isSupported = true) {more : List Char}
    (hmore : ∀ c ∈ more, isWhite c = true) (back : List Char) :
    ∃ text, .simple (.unsupported text) ∈ all (cs ++ (more ++ ',' :: back)) := by
  fun_induction all cs generalizing more with
  | case1 cs hnext =>
    rw [eq_nil_of_next? hnext, List.nil_append]
    exact exists_unsupported_white hmore back
  | case2 cs token rest hnext ih =>
    obtain ⟨hfirst, hbehind⟩ : (∀ cond, token = .simple cond → cond.isSupported = true) ∧
        ∀ cond, .simple cond ∈ all rest → cond.isSupported = true :=
      ⟨fun cond heq => hsupported cond (heq ▸ List.mem_cons_self),
        fun cond hcond => hsupported cond (List.mem_cons_of_mem _ hcond)⟩
    cases next?_stands hnext hfirst with
    | run c p after htext hrest hcomma _ _ _ hgoes =>
      obtain ⟨left, hleft, hdrop⟩ := dropWhile_append_comma hcomma after more back
      obtain ⟨longer, hlonger⟩ := hgoes more back hmore
      rw [hdrop, ← hrest] at hlonger
      obtain ⟨text, htold⟩ := ih hbehind fun d hd => hmore d (hleft.subset hd)
      rw [htext, List.cons_append, all_cons hlonger]
      exact ⟨text, List.mem_cons_of_mem _ htold⟩
    | closed _ _ _ _ hstays =>
      obtain ⟨text, htold⟩ := ih hbehind hmore
      rw [all_cons (hstays _)]
      exact ⟨text, List.mem_cons_of_mem _ htold⟩
    | opened _ _ _ _ _ _ _ hrefused =>
      obtain ⟨text, after, hnone⟩ := hrefused more back hmore
      rw [all_cons hnone]
      exact ⟨text, List.mem_cons_self⟩

end Token

/-! ### Where a scan of the pieces ends -/

namespace SelectorList

theorem scans_closes : Scans closes fun _ stand => stand :=
  fun n _ rest hslash _ => closes_cons hslash n rest

theorem closes_sealed {front : List Char} (h : Sealed front) (depth : Nat) (back : List Char) :
    closes ⟨depth, none⟩ (front ++ back) = closes ⟨depth, none⟩ back := by
  rw [h.scan_append scans_closes, List.foldr_fixed]

section Opened

variable {front argument : List Char} (hfront : ∀ c ∈ front, isScanSign c = false)
  (hargument : ∀ c ∈ argument, isScanSign c = false)

include hfront hargument

/-- Out of an argument that nothing closes the scan does not come. -/
theorem closes_opened : closes .top (front ++ '(' :: argument) = false := by
  have hinside := closes_sealed (.of_letters hargument) 1 []
  rw [List.append_nil] at hinside
  rw [Nesting.top, closes_sealed (.of_letters hfront), closes_cons (by decide)]
  exact hinside

theorem getLast?_opened : (front ++ '(' :: argument).getLast? ≠ some ')' := by
  intro hlast
  have hmem := List.mem_of_getLast? hlast
  rw [List.mem_append, List.mem_cons] at hmem
  rcases hmem with hmem | hparen | hmem
  · exact absurd (hfront _ hmem) (by decide)
  · exact absurd hparen (by decide)
  · exact absurd (hargument _ hmem) (by decide)

end Opened

end SelectorList

namespace Token

open SelectorList

/-- The attributes of the text, each scanned by itself, close what they open. -/
def AttributesClose (cs : List Char) : Prop :=
  ∀ piece ∈ pieces cs, (∃ name value, piece.1 = .simple (.attributeIs name value)) →
    closes .top piece.2 = true

/-- The arguments of the text are closed by a parenthesis. -/
def ArgumentsClosed (cs : List Char) : Prop :=
  ∀ piece ∈ pieces cs, (∃ position, piece.1 = .simple (.nthChild position)) →
    piece.2.getLast? = some ')'

/-- **Where the attributes close** what they open, only an argument can be left open. -/
theorem closes_iff_argumentsClosed {cs : List Char}
    (hsupported : ∀ cond, .simple cond ∈ all cs → cond.isSupported = true)
    (hattributes : AttributesClose cs) {back : List Char} (hback : ∀ c ∈ back, isWhite c = true) :
    closes .top (cs ++ back) = true ↔ ArgumentsClosed cs := by
  have hblank : ∀ c ∈ back, isScanSign c = false := fun c hc => isScanSign_of_isWhite (hback c hc)
  fun_induction all cs with
  | case1 cs hnext =>
    obtain rfl := eq_nil_of_next? hnext
    have hend := closes_sealed (.of_letters hblank) 0 []
    rw [List.append_nil] at hend
    rw [List.nil_append, SelectorList.Nesting.top, hend]
    simp [ArgumentsClosed, pieces, next?, closes, SelectorList.Nesting.top]
  | case2 cs token rest hnext ih =>
    obtain ⟨hfirst, hbehind⟩ : (∀ cond, token = .simple cond → cond.isSupported = true) ∧
        ∀ cond, .simple cond ∈ all rest → cond.isSupported = true :=
      ⟨fun cond heq => hsupported cond (heq ▸ List.mem_cons_self),
        fun cond hcond => hsupported cond (List.mem_cons_of_mem _ hcond)⟩
    -- A token out of which the scan comes as it went in leaves all to the others.
    have hpass : ∀ front, cs = front ++ rest →
        (closes .top (front ++ (rest ++ back)) = closes .top (rest ++ back)) →
        (∀ position, token = .simple (.nthChild position) → front.getLast? = some ')') →
        (closes .top (cs ++ back) = true ↔ ArgumentsClosed cs) := by
      rintro front rfl hscan hplace
      rw [AttributesClose, pieces_cons hnext, List.forall_mem_cons] at hattributes
      rw [ArgumentsClosed, pieces_cons hnext, List.forall_mem_cons, List.append_assoc, hscan,
        forall_exists_index]
      exact (ih hbehind hattributes.2).trans (and_iff_right hplace).symm
    cases next?_stands hnext hfirst with
    | run c p after htext hrest _ hc hletters hplace _ =>
      have hsealed : Sealed (c :: after.takeWhile p) := .letter hc (.of_letters fun d hd =>
        hletters d (List.all_eq_true.mp List.all_takeWhile d hd))
      refine hpass (c :: after.takeWhile p) ?_ (closes_sealed hsealed 0 _)
        fun position heq => absurd heq (hplace position)
      rw [htext, hrest, List.cons_append, List.takeWhile_append_dropWhile]
    | closed front htext hsealed hplace _ =>
      refine hpass front htext ?_ hplace
      by_cases hvalue : ∃ name value, token = .simple (.attributeIs name value)
      · subst htext
        rw [AttributesClose, pieces_cons hnext, List.forall_mem_cons] at hattributes
        exact closes_append (hattributes.1 hvalue) _
      · exact closes_sealed (hsealed fun name value heq => hvalue ⟨name, value, heq⟩) 0 _
    | opened front argument position htext hrest htoken hletters _ =>
      obtain ⟨hfront, hargument⟩ := List.forall_mem_append.mp hletters
      have hscan : closes .top (cs ++ back) = false := by
        rw [htext, List.append_assoc, List.cons_append]
        exact closes_opened hfront (List.forall_mem_append.mpr ⟨hargument, hblank⟩)
      have hopen : ¬ArgumentsClosed cs := by
        subst hrest
        intro hclosed
        rw [← List.append_nil cs] at hnext hclosed
        rw [ArgumentsClosed, pieces_cons hnext, List.forall_mem_cons, htext] at hclosed
        exact getLast?_opened hfront hargument (hclosed.1 ⟨position, htoken⟩)
      simp [hscan, hopen]

end Token

namespace SelectorList

/-! ### Members and the list -/

/-- The attributes of all members close what they open. -/
def AttributesClose (text : String) : Prop :=
  ∀ part ∈ splitFrom .top text.toList, Token.AttributesClose (trim part)

/-- The arguments of all members are closed by a parenthesis. -/
def ArgumentsClosed (text : String) : Prop :=
  ∀ part ∈ splitFrom .top text.toList, Token.ArgumentsClosed (trim part)

/-- Where the comma is cut, the two lists are read one behind the other. -/
theorem parse_append_of_closes {front : String} (hclosed : closes .top front.toList = true)
    (back : String) : parse (front ++ "," ++ back) = parse front ++ parse back := by
  rw [parse, split_append_comma, splitFrom_append_comma hclosed, List.map_append, List.map_append]
  rfl

theorem isSupported_append {list others : SelectorList} (h : list.isSupported = true)
    (hothers : others.isSupported = true) : SelectorList.isSupported (list ++ others) = true := by
  rw [SelectorList.isSupported, Bool.and_eq_true] at h hothers ⊢
  rw [List.all_append, h.2, hothers.2]
  obtain ⟨sel, more, rfl⟩ := List.exists_cons_of_ne_nil (l := list) (by simpa using h.1)
  exact ⟨rfl, rfl⟩

section Supported

variable {front back : String} (hfront : (parse front).isSupported = true)

include hfront

theorem supported_of_part {part : List Char} (hpart : part ∈ splitFrom .top front.toList) :
    (Complex.parse (String.ofList (trim part))).isSupported = true := by
  refine List.all_eq_true.mp (Bool.and_eq_true _ _ ▸ hfront).2 _ ?_
  rw [parse_eq]
  exact List.mem_map_of_mem (List.mem_map_of_mem hpart)

theorem supported_of_piece {part : List Char} (hpart : part ∈ splitFrom .top front.toList)
    {cond : Simple} (hcond : .simple cond ∈ Token.all (trim part)) : cond.isSupported = true := by
  refine Complex.supported_of_mem_all (supported_of_part hfront hpart) ?_
  rwa [String.toList_ofList]

theorem filled_of_part {part : List Char} (hpart : part ∈ splitFrom .top front.toList) :
    trimLeft part ≠ [] := by
  intro hnil
  have hsupported := supported_of_part hfront hpart
  have hempty : String.ofList (trimRight []) = "" := rfl
  rw [trim, hnil, hempty, Complex.parse_empty] at hsupported
  cases hsupported

/-- **Where a comma is not cut**, the list is refused. -/
theorem not_supported_of_open (hopen : closes .top front.toList = false) :
    (parse (front ++ "," ++ back)).isSupported = false := by
  obtain ⟨parts, last, behind, others, hparts, hlonger⟩ :=
    splitFrom_append_kept hopen back.toList
  have hlast : last ∈ splitFrom .top front.toList := by simp [hparts]
  obtain ⟨tail, htail, hwhite⟩ := exists_white_behind (trimLeft last)
  rw [← trim] at htail
  have htrim : trim (last ++ ',' :: behind) = trim last ++ (tail ++ ',' :: trimRight behind) := by
    rw [trim, trimLeft_append (filled_of_part hfront hlast), trimRight_append (by decide), htail,
      List.append_assoc]
  obtain ⟨text, htold⟩ := Token.exists_unsupported_comma
    (fun _ => supported_of_piece hfront hlast) hwhite (trimRight behind)
  rw [← htrim] at htold
  by_contra hjoined
  have hpart : last ++ ',' :: behind ∈ splitFrom .top (front ++ "," ++ back).toList := by
    simp [hlonger]
  have hcond := supported_of_piece (by simpa using hjoined) hpart htold
  cases hcond

/-- **The scan of a supported list** ends at the top if no argument is left open. -/
theorem closes_iff_argumentsClosed (hattributes : AttributesClose front) :
    closes .top front.toList = true ↔ ArgumentsClosed front := by
  have hpart : ∀ part ∈ splitFrom .top front.toList,
      (closes .top part = true ↔ Token.ArgumentsClosed (trim part)) := by
    intro part hmem
    obtain ⟨tail, htail, hwhite⟩ := exists_white_behind (trimLeft part)
    rw [← trim] at htail
    have hlead : Sealed (part.takeWhile isWhite) := .of_letters fun c hc =>
      isScanSign_of_isWhite (List.all_eq_true.mp List.all_takeWhile c hc)
    have hscan : closes .top part = closes .top (trimLeft part) := by
      conv_lhs => rw [← List.takeWhile_append_dropWhile (p := isWhite) (l := part)]
      exact closes_sealed hlead 0 _
    rw [hscan, htail]
    exact Token.closes_iff_argumentsClosed (fun _ => supported_of_piece hfront hmem)
      (hattributes part hmem) hwhite
  obtain ⟨parts, last, hsplit⟩ := (List.eq_nil_or_concat (splitFrom .top front.toList)).resolve_left
    (splitFrom_ne_nil _ _)
  rw [List.concat_eq_append] at hsplit
  obtain ⟨hclosed, hlast⟩ := closes_parts hsplit
  constructor
  · intro hend part hmem
    rw [← hpart part hmem]
    rw [hsplit, List.mem_append, List.mem_singleton] at hmem
    rcases hmem with hmem | rfl
    · exact hclosed part hmem
    · rwa [← hlast]
  · intro hall
    have hmem : last ∈ splitFrom .top front.toList := by simp [hsplit]
    rw [hlast, hpart last hmem]
    exact hall last hmem

end Supported

/--
**Two supported lists with a comma between them.**  If the joined list is supported, it is the
members of the first and then those of the second list.  It is supported wherever a scan of the
first text ends outside of quotes and parentheses, and not behind a backslash.  Among the texts
whose attributes, each scanned by itself, close what they open, it is supported if and only if no
argument is left open at the end of the first one.
-/
theorem parse_append_comma {front back : String} (hfront : (parse front).isSupported = true)
    (hback : (parse back).isSupported = true) :
    let joined := parse (front ++ "," ++ back)
    (joined.isSupported = true → joined = parse front ++ parse back) ∧
      (closes .top front.toList = true → joined.isSupported = true) ∧
      (AttributesClose front → (joined.isSupported = true ↔ ArgumentsClosed front)) := by
  intro joined
  have hcut : (parse (front ++ "," ++ back)).isSupported = true ↔
      closes .top front.toList = true := by
    constructor
    · intro hjoined
      by_contra hopen
      rw [not_supported_of_open hfront (Bool.eq_false_iff.mpr hopen)] at hjoined
      cases hjoined
    · intro hclosed
      rw [parse_append_of_closes hclosed back]
      exact isSupported_append hfront hback
  refine ⟨fun hjoined => parse_append_of_closes (hcut.mp hjoined) back, hcut.mpr,
    fun hattributes => ?_⟩
  rw [hcut, closes_iff_argumentsClosed hfront hattributes]

/-- A comma and a parenthesis in a value, and a place in parentheses. -/
theorem parse_append_comma_titled :
    let front := "p[title=\"a, (b\"]:nth-child( 2 )"
    let back := "a > b"
    (parse front).isSupported = true ∧ (parse back).isSupported = true ∧
      closes .top front.toList = true ∧ AttributesClose front ∧ ArgumentsClosed front ∧
      parse (front ++ "," ++ back) = parse front ++ parse back := by
  intro front back
  have hfront : (parse front).isSupported = true := by cbv
  have hback : (parse back).isSupported = true := by cbv
  have hclosed : closes .top front.toList = true := by decide
  have hpieces : Token.pieces (trim front.toList) =
      [(.simple (.type "p"), "p".toList),
        (.simple (.attributeIs "title" "a, (b"), "[title=\"a, (b\"]".toList),
        (.simple (.nthChild 2), ":nth-child( 2 )".toList)] := by
    cbv
  have hsplit : splitFrom .top front.toList = [front.toList] := by decide
  have hattributes : AttributesClose front := by
    intro part hpart
    rw [hsplit, List.mem_singleton] at hpart
    subst hpart
    rw [Token.AttributesClose, hpieces]
    simp only [List.forall_mem_cons, List.not_mem_nil, false_imp_iff, implies_true, and_true]
    exact ⟨fun _ => by decide, fun _ => by decide, fun _ => by decide⟩
  obtain ⟨hread, hsupported, hattributed⟩ := parse_append_comma hfront hback
  have hjoined := hsupported hclosed
  exact ⟨hfront, hback, hclosed, hattributes, (hattributed hattributes).mp hjoined, hread hjoined⟩

/-- An argument that is closed by the end of the text alone takes the comma. -/
theorem open_place_takes_comma :
    (parse ":nth-child(2").isSupported = true ∧ (parse "a").isSupported = true ∧
      (parse (":nth-child(2" ++ "," ++ "a")).isSupported = false ∧
      parse (":nth-child(2" ++ "," ++ "a") ≠ parse ":nth-child(2" ++ parse "a" := by
  have hfront : (parse ":nth-child(2").isSupported = true := by cbv
  have hback : (parse "a").isSupported = true := by cbv
  have hjoined : (parse (":nth-child(2" ++ "," ++ "a")).isSupported = false :=
    not_supported_of_open hfront (by decide)
  refine ⟨hfront, hback, hjoined, fun heq => ?_⟩
  rw [heq, isSupported_append hfront hback] at hjoined
  cases hjoined

end SelectorList

end CosmeticFilter
