/-
Cutting at commas loses nothing.

The scan that looks for commas keeps account of quotes and parentheses.  It puts every character
into a part, except the commas at which it cuts, so that the parts joined with commas are the
text.  Behind a cut it starts anew, and in front of one it stands at the top; this is why it does
not cut a part again, and why two texts with a comma between them are cut by themselves.  For the
latter the first text has to close what it opens.  If it does not, the comma stays in a part.
-/
import CosmeticFilter.Proofs.Paths

namespace CosmeticFilter.SelectorList

/-- What the text opens it closes: a scan of it ends at the top, and not behind a backslash. -/
def closes : Nesting → List Char → Bool
  | n, [] => n == .top
  | _, ['\\'] => false
  | n, '\\' :: _ :: rest => closes n rest
  | n, c :: rest => closes (n.after c) rest

/-! ### One step of the scan -/

/-- Neither of the two rows for a backslash applies. -/
theorem ne_backslash {c : Char} {rest : List Char} (hend : c = '\\' → rest = [] → False)
    (hescape : ∀ d more, c = '\\' → rest = d :: more → False) : c ≠ '\\' := by
  rintro rfl
  cases rest with
  | nil => exact hend rfl rfl
  | cons d more => exact hescape d more rfl rfl

theorem closes_cons {c : Char} (hslash : c ≠ '\\') (n : Nesting) (rest : List Char) :
    closes n (c :: rest) = closes (n.after c) rest := by
  rw [closes]
  · exact fun h _ => hslash h
  · exact fun _ _ h _ => hslash h

theorem splitFrom_cons {c : Char} (hslash : c ≠ '\\') (n : Nesting) (rest : List Char) :
    splitFrom n (c :: rest) =
      if c = ',' ∧ n = .top then [] :: splitFrom n rest
      else consFirst c (splitFrom (n.after c) rest) := by
  rw [splitFrom]
  · exact fun h _ => hslash h
  · exact fun _ _ h _ => hslash h

theorem splitFrom_comma (rest : List Char) :
    splitFrom .top (',' :: rest) = [] :: splitFrom .top rest := by
  rw [splitFrom_cons (by decide), if_pos ⟨rfl, rfl⟩]

theorem splitFrom_ne_nil (n : Nesting) (cs : List Char) : splitFrom n cs ≠ [] := by
  obtain ⟨first, more, hparts, -, -⟩ := splitFrom_part n cs
  simp [hparts]

theorem consFirst_append (c : Char) {parts : List (List Char)} (h : parts ≠ [])
    (others : List (List Char)) : consFirst c (parts ++ others) = consFirst c parts ++ others := by
  obtain ⟨first, more, rfl⟩ := List.exists_cons_of_ne_nil h
  rfl

/-! ### Joining the parts -/

theorem intercalate_consFirst (c : Char) {parts : List (List Char)} (h : parts ≠ []) :
    [','].intercalate (consFirst c parts) = c :: [','].intercalate parts := by
  obtain ⟨first, more, rfl⟩ := List.exists_cons_of_ne_nil h
  cases more with
  | nil => simp [consFirst]
  | cons second more => simp [consFirst, List.intercalate_cons_cons]

/-- **The parts joined with commas** are the text. -/
theorem intercalate_splitFrom (n : Nesting) (cs : List Char) :
    [','].intercalate (splitFrom n cs) = cs := by
  fun_induction splitFrom n cs with
  | case1 => rfl
  | case2 => rfl
  | case3 n c rest ih =>
    have hfilled : consFirst c (splitFrom n rest) ≠ [] := by
      cases splitFrom n rest <;> simp [consFirst]
    rw [intercalate_consFirst _ hfilled, intercalate_consFirst _ (splitFrom_ne_nil n rest), ih]
  | case4 n c rest _ _ hcut ih =>
    obtain ⟨first, more, hparts⟩ := List.exists_cons_of_ne_nil (splitFrom_ne_nil n rest)
    rw [hparts, List.intercalate_cons_cons, ← hparts, ih, hcut.1]
    rfl
  | case5 n c rest _ _ _ ih =>
    rw [intercalate_consFirst _ (splitFrom_ne_nil _ rest), ih]

/-! ### Cutting a part -/

/-- The first part is not cut where the scan of the text began, and the others not at the top. -/
theorem splitFrom_parts {n : Nesting} {cs first : List Char} {more : List (List Char)}
    (h : splitFrom n cs = first :: more) :
    splitFrom n first = [first] ∧ ∀ part ∈ more, splitFrom .top part = [part] := by
  fun_induction splitFrom n cs generalizing first more with
  | case1 n =>
    obtain ⟨rfl, rfl⟩ := List.cons.inj h
    exact ⟨rfl, by simp⟩
  | case2 n =>
    obtain ⟨rfl, rfl⟩ := List.cons.inj h
    exact ⟨rfl, by simp⟩
  | case3 n c rest ih =>
    obtain ⟨part, others, hparts⟩ := List.exists_cons_of_ne_nil (splitFrom_ne_nil n rest)
    rw [hparts] at h
    obtain ⟨rfl, rfl⟩ := List.cons.inj h
    obtain ⟨hpart, hothers⟩ := ih hparts
    refine ⟨?_, hothers⟩
    rw [splitFrom, hpart]
    rfl
  | case4 n c rest hend hescape hcut ih =>
    obtain ⟨rfl, rfl⟩ := List.cons.inj h
    obtain ⟨part, others, hparts⟩ := List.exists_cons_of_ne_nil (splitFrom_ne_nil n rest)
    obtain ⟨hpart, hothers⟩ := ih hparts
    rw [hcut.2] at hpart
    refine ⟨rfl, ?_⟩
    rw [hparts]
    exact List.forall_mem_cons.mpr ⟨hpart, hothers⟩
  | case5 n c rest hend hescape hcut ih =>
    obtain ⟨part, others, hparts⟩ := List.exists_cons_of_ne_nil (splitFrom_ne_nil (n.after c) rest)
    rw [hparts] at h
    obtain ⟨rfl, rfl⟩ := List.cons.inj h
    obtain ⟨hpart, hothers⟩ := ih hparts
    refine ⟨?_, hothers⟩
    rw [splitFrom_cons (ne_backslash hend hescape), if_neg hcut, hpart]
    rfl

/-! ### Where a scan ends -/

/-- Behind a text that closes what it opens, the scan goes on at the top. -/
theorem closes_append {n : Nesting} {front : List Char} (h : closes n front = true)
    (back : List Char) : closes n (front ++ back) = closes .top back := by
  fun_induction closes n front with
  | case1 n =>
    obtain rfl : n = .top := beq_iff_eq.mp h
    rfl
  | case2 => cases h
  | case3 n c rest ih => rw [List.cons_append, List.cons_append, closes, ih h]
  | case4 n c rest hend hescape ih =>
    rw [List.cons_append, closes_cons (ne_backslash hend hescape), ih h]

/-- In front of a cut the scan stands at the top, and behind it there is a text of its own. -/
theorem closes_of_cut {n : Nesting} {cs first : List Char} {more : List (List Char)}
    (h : splitFrom n cs = first :: more) (hmore : more ≠ []) :
    closes n first = true ∧ ∃ rest, cs = first ++ ',' :: rest ∧ more = splitFrom .top rest := by
  fun_induction splitFrom n cs generalizing first with
  | case1 => exact absurd (List.cons.inj h).2.symm hmore
  | case2 => exact absurd (List.cons.inj h).2.symm hmore
  | case3 n c rest ih =>
    obtain ⟨part, others, hparts⟩ := List.exists_cons_of_ne_nil (splitFrom_ne_nil n rest)
    rw [hparts] at h
    obtain ⟨rfl, rfl⟩ := List.cons.inj h
    obtain ⟨hpart, behind, rfl, hothers⟩ := ih hparts
    exact ⟨hpart, behind, rfl, hothers⟩
  | case4 n c rest hend hescape hcut ih =>
    obtain ⟨rfl, rfl⟩ := List.cons.inj h
    obtain ⟨rfl, rfl⟩ := hcut
    exact ⟨rfl, rest, rfl, rfl⟩
  | case5 n c rest hend hescape hcut ih =>
    obtain ⟨part, others, hparts⟩ := List.exists_cons_of_ne_nil (splitFrom_ne_nil (n.after c) rest)
    rw [hparts] at h
    obtain ⟨rfl, rfl⟩ := List.cons.inj h
    obtain ⟨hpart, behind, rfl, hothers⟩ := ih hparts
    refine ⟨?_, behind, rfl, hothers⟩
    rw [closes_cons (ne_backslash hend hescape), hpart]

/-- A scan of the text ends where one of its last part does, and all other parts are closed. -/
theorem closes_parts {cs last : List Char} {front : List (List Char)}
    (h : splitFrom .top cs = front ++ [last]) :
    (∀ part ∈ front, closes .top part = true) ∧ closes .top cs = closes .top last := by
  induction front generalizing cs with
  | nil =>
    have hjoined := intercalate_splitFrom .top cs
    rw [h, List.nil_append, List.intercalate_singleton] at hjoined
    rw [hjoined]
    exact ⟨by simp, rfl⟩
  | cons part front ih =>
    obtain ⟨hpart, rest, rfl, hrest⟩ := closes_of_cut h (by simp)
    obtain ⟨hparts, hlast⟩ := ih hrest.symm
    refine ⟨List.forall_mem_cons.mpr ⟨hpart, hparts⟩, ?_⟩
    rw [closes_append hpart, closes_cons (by decide), ← hlast]
    rfl

/-! ### A comma between two texts -/

/-- Behind a text that closes what it opens, a comma separates. -/
theorem splitFrom_append_comma {n : Nesting} {cs : List Char} (hclosed : closes n cs = true)
    (rest : List Char) :
    splitFrom n (cs ++ ',' :: rest) = splitFrom n cs ++ splitFrom .top rest := by
  fun_induction splitFrom n cs with
  | case1 n =>
    obtain rfl : n = .top := beq_iff_eq.mp hclosed
    exact splitFrom_comma rest
  | case2 => cases hclosed
  | case3 n c more ih =>
    have hfilled : consFirst c (splitFrom n more) ≠ [] := by
      cases splitFrom n more <;> simp [consFirst]
    rw [List.cons_append, List.cons_append, splitFrom, ih hclosed,
      consFirst_append _ (splitFrom_ne_nil n more), consFirst_append _ hfilled]
  | case4 n c more hend hescape hcut ih =>
    obtain ⟨rfl, rfl⟩ := hcut
    rw [closes_cons (by decide)] at hclosed
    rw [List.cons_append, splitFrom_comma, ih hclosed, List.cons_append]
  | case5 n c more hend hescape hcut ih =>
    have hslash := ne_backslash hend hescape
    rw [closes_cons hslash] at hclosed
    rw [List.cons_append, splitFrom_cons hslash, if_neg hcut, ih hclosed,
      consFirst_append _ (splitFrom_ne_nil _ more)]

/-- Behind any other text the comma stays in a part, the one that the text has ended with. -/
theorem splitFrom_append_kept {n : Nesting} {cs : List Char} (hopen : closes n cs = false)
    (rest : List Char) :
    ∃ front last back others, splitFrom n cs = front ++ [last] ∧
      splitFrom n (cs ++ ',' :: rest) = front ++ (last ++ ',' :: back) :: others := by
  -- A character in front of both texts is in front of the first part of both.
  have hcons : ∀ (c : Char) (parts longer : List (List Char)),
      (∃ front last back others, parts = front ++ [last] ∧
        longer = front ++ (last ++ ',' :: back) :: others) →
      ∃ front last back others, consFirst c parts = front ++ [last] ∧
        consFirst c longer = front ++ (last ++ ',' :: back) :: others := by
    rintro c _ _ ⟨front, last, back, others, rfl, rfl⟩
    cases front with
    | nil => exact ⟨[], c :: last, back, others, rfl, rfl⟩
    | cons first front => exact ⟨(c :: first) :: front, last, back, others, rfl, rfl⟩
  fun_induction splitFrom n cs with
  | case1 n =>
    have htop : n ≠ .top := by
      rintro rfl
      cases hopen
    obtain ⟨first, more, hparts⟩ :=
      List.exists_cons_of_ne_nil (splitFrom_ne_nil (n.after ',') rest)
    refine ⟨[], [], first, more, rfl, ?_⟩
    rw [List.nil_append, splitFrom_cons (by decide), if_neg (fun h => htop h.2), hparts]
    rfl
  | case2 n =>
    obtain ⟨first, more, hparts⟩ := List.exists_cons_of_ne_nil (splitFrom_ne_nil n rest)
    refine ⟨[], ['\\'], first, more, rfl, ?_⟩
    rw [List.cons_append, List.nil_append, splitFrom, hparts]
    rfl
  | case3 n c more ih => exact hcons _ _ _ (hcons _ _ _ (ih hopen))
  | case4 n c more hend hescape hcut ih =>
    obtain ⟨rfl, rfl⟩ := hcut
    rw [closes_cons (by decide)] at hopen
    obtain ⟨front, last, back, others, hparts, hlonger⟩ := ih hopen
    refine ⟨[] :: front, last, back, others, by rw [hparts]; rfl, ?_⟩
    rw [List.cons_append, splitFrom_comma, hlonger]
    rfl
  | case5 n c more hend hescape hcut ih =>
    have hslash := ne_backslash hend hescape
    rw [closes_cons hslash] at hopen
    rw [List.cons_append, splitFrom_cons hslash, if_neg hcut]
    exact hcons _ _ _ (ih hopen)

/-- **A comma separates** two texts if and only if the first one closes what it opens. -/
theorem splitFrom_append_comma_iff {n : Nesting} {cs rest : List Char} :
    splitFrom n (cs ++ ',' :: rest) = splitFrom n cs ++ splitFrom .top rest ↔
      closes n cs = true := by
  refine ⟨fun hcut => ?_, fun hclosed => splitFrom_append_comma hclosed rest⟩
  by_contra hopen
  obtain ⟨front, last, back, others, hparts, hlonger⟩ :=
    splitFrom_append_kept (Bool.eq_false_iff.mpr hopen) rest
  -- The part with the comma in it would have to be the one that ends in front of the comma.
  rw [hlonger, hparts, List.append_assoc, List.append_cancel_left_eq, List.singleton_append] at hcut
  simpa using (List.cons.inj hcut).1

/-! ### Lists of members -/

/-- **A list is cut into its members**, if all but the last one close what they open. -/
theorem splitFrom_intercalate {members : List (List Char)} (hsome : members ≠ [])
    (hcomma : ∀ cs ∈ members, ',' ∉ cs) (hclosed : ∀ cs ∈ members.dropLast, closes .top cs = true) :
    splitFrom .top ([','].intercalate members) = members := by
  induction members with
  | nil => exact absurd rfl hsome
  | cons first more ih =>
    obtain ⟨hfirst, hmore⟩ := List.forall_mem_cons.mp hcomma
    cases more with
    | nil =>
      rw [List.intercalate_singleton]
      exact Document.splitFrom_single .top hfirst
    | cons second others =>
      rw [List.dropLast_cons_cons, List.forall_mem_cons] at hclosed
      rw [List.intercalate_cons_cons, List.append_assoc, List.singleton_append,
        splitFrom_append_comma hclosed.1, Document.splitFrom_single .top hfirst,
        ih (List.cons_ne_nil _ _) hmore hclosed.2, List.singleton_append]

/-! ### Texts -/

theorem split_append_comma (front back : String) :
    split (front ++ "," ++ back) =
      (splitFrom .top (front.toList ++ ',' :: back.toList)).map String.ofList := by
  have htext : (front ++ "," ++ back).toList = front.toList ++ ',' :: back.toList := by
    simp
  rw [split, htext]

/--
**Splitting is lossless and exact.**  The parts joined with commas are the text, and no part is
split again.  Two texts with a comma between them are split each by itself if and only if a scan
of the first one ends outside of quotes and parentheses, and not behind a backslash.  A text
without commas is its only part.
-/
theorem split_exact :
    (∀ text : String, ",".intercalate (split text) = text ∧
      ∀ part ∈ split text, split part = [part]) ∧
    (∀ front back : String, split (front ++ "," ++ back) = split front ++ split back ↔
      closes .top front.toList = true) ∧
    ∀ text : String, ',' ∉ text.toList → split text = [text] := by
  refine ⟨fun text => ⟨?_, fun part hpart => ?_⟩, fun front back => ?_, fun text hcomma => ?_⟩
  · rw [← String.toList_inj, String.toList_intercalate, split, List.map_map]
    simpa [Function.comp_def] using intercalate_splitFrom .top text.toList
  · obtain ⟨cs, hcs, rfl⟩ := List.mem_map.mp hpart
    obtain ⟨first, more, hparts⟩ :=
      List.exists_cons_of_ne_nil (splitFrom_ne_nil .top text.toList)
    obtain ⟨hfirst, hmore⟩ := splitFrom_parts hparts
    have hall : ∀ part ∈ first :: more, splitFrom .top part = [part] :=
      List.forall_mem_cons.mpr ⟨hfirst, hmore⟩
    rw [split, String.toList_ofList, hall cs (hparts ▸ hcs), List.map_singleton]
  · rw [split_append_comma, split, split, ← List.map_append,
      List.map_inj_right (fun _ _ h => String.ofList_inj.mp h)]
    exact splitFrom_append_comma_iff
  · rw [split, Document.splitFrom_single .top hcomma, List.map_singleton, String.ofList_toList]

/-- A comma in quotes and one in parentheses, and between them one that separates. -/
theorem split_exact_titled :
    let front := "a[title=\",\"]"
    let back := " :is(b, c)"
    closes .top front.toList = true ∧ split (front ++ "," ++ back) = split front ++ split back ∧
      ",".intercalate (split (front ++ "," ++ back)) = front ++ "," ++ back ∧
      back ∈ split (front ++ "," ++ back) ∧ split back = [back] ∧
      ',' ∉ "a".toList ∧ split "a" = ["a"] := by
  intro front back
  obtain ⟨hjoined, hcut, hsingle⟩ := split_exact
  have hclosed : closes .top front.toList = true := by decide
  have hsplit := (hcut front back).mpr hclosed
  have hback : back ∈ split (front ++ "," ++ back) := by
    rw [hsplit]
    decide
  have hnone : ',' ∉ "a".toList := by decide
  exact ⟨hclosed, hsplit, (hjoined _).1, hback, (hjoined _).2 back hback, hnone, hsingle "a" hnone⟩

end CosmeticFilter.SelectorList
