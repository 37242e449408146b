/-
Tables of matches.

A table is used through one question: with which anchors does a pattern match an element?
`MatchTable.match?` answers it.  For each operation that a run performs on tables there is
one lemma here that says how its answers change, so that nothing later looks at the order
in which entries are stored.

The answers are only meaningful for a table in which no element is entered twice, no
pattern is entered twice for an element, and no element is entered for nothing.  Tables
that grow out of the empty one are `Tidy` in this sense.
-/
import CosmeticFilter.Engine.Match
import Mathlib.Data.List.Nodup

namespace CosmeticFilter

variable {N : Type}

@[simp] theorem Pattern.same_iff {a b : Pattern} : a.same b = true ↔ a.serial = b.serial := by
  simp [Pattern.same]

/-- Neither order nor number matters to whether some element of a list has a property. -/
theorem any_eq_of_mem_iff {α : Type} {list other : List α} (h : ∀ x, x ∈ list ↔ x ∈ other)
    (p : α → Bool) : list.any p = other.any p := by
  rw [Bool.eq_iff_iff, List.any_eq_true, List.any_eq_true]
  exact exists_congr fun x => and_congr_left' (h x)

section

variable [DecidableEq N]

theorem mem_addNew {nodes more : List N} {n : N} :
    n ∈ addNew nodes more ↔ n ∈ nodes ∨ n ∈ more := by
  unfold addNew
  induction more generalizing nodes with
  | nil => simp
  | cons m more ih =>
    rw [List.foldl_cons, ih]
    by_cases hm : nodes.contains m = true
    · rw [if_pos hm]
      have hmem : m ∈ nodes := by simpa using hm
      constructor
      · rintro (h | h)
        · exact .inl h
        · exact .inr (List.mem_cons_of_mem _ h)
      · rintro (h | h)
        · exact .inl h
        · rcases List.mem_cons.mp h with rfl | h
          · exact .inl hmem
          · exact .inr h
    · rw [if_neg hm]
      simp [or_assoc]

end

namespace Match

/-! ### Lists of matches -/

/-- No pattern occurs twice. -/
abbrev Distinct (list : List (Match N)) : Prop :=
  list.Pairwise fun a b => a.pattern.serial ≠ b.pattern.serial

theorem find?_cons (m : Match N) (list : List (Match N)) (pattern : Pattern) :
    find? (m :: list) pattern =
      if m.pattern.serial = pattern.serial then some m else find? list pattern := by
  unfold find?
  rw [List.find?_cons]
  by_cases h : m.pattern.serial = pattern.serial
  · rw [if_pos h, Pattern.same_iff.mpr h]
  · rw [if_neg h, Bool.eq_false_iff.mpr (fun hc => h (Pattern.same_iff.mp hc))]

theorem find?_serial {list : List (Match N)} {pattern : Pattern} {m : Match N}
    (h : find? list pattern = some m) : m ∈ list ∧ m.pattern.serial = pattern.serial :=
  ⟨List.mem_of_find?_eq_some h, by simpa using List.find?_some h⟩

theorem find?_eq_none_iff {list : List (Match N)} {pattern : Pattern} :
    find? list pattern = none ↔ ∀ m ∈ list, m.pattern.serial ≠ pattern.serial := by
  simp [find?, List.find?_eq_none]

/-- In a list without repetition, a match is found under its own pattern. -/
theorem find?_of_mem {list : List (Match N)} (hdistinct : Distinct list) {m : Match N}
    (hm : m ∈ list) : find? list m.pattern = some m := by
  induction list with
  | nil => simp at hm
  | cons first rest ih =>
    rw [find?_cons]
    obtain ⟨hfirst, hrest⟩ := List.pairwise_cons.mp hdistinct
    rcases List.mem_cons.mp hm with rfl | hmem
    · rw [if_pos rfl]
    · rw [if_neg (hfirst m hmem), ih hrest hmem]

/-- Keeping some of the matches, with other anchors perhaps, acts on each of them alone. -/
theorem find?_filterMap {list : List (Match N)} (hdistinct : Distinct list)
    {f : Match N → Option (Match N)}
    (hf : ∀ m m', f m = some m' → m'.pattern = m.pattern) (pattern : Pattern) :
    find? (list.filterMap f) pattern = (find? list pattern).bind f := by
  induction list with
  | nil => rfl
  | cons first rest ih =>
    obtain ⟨hdiffers, hrest⟩ := List.pairwise_cons.mp hdistinct
    rw [find?_cons, List.filterMap_cons]
    by_cases heq : first.pattern.serial = pattern.serial
    · rw [if_pos heq, Option.bind_some]
      cases hfirst : f first with
      | none =>
        -- The pattern does not come up again in the rest.
        have hnone : find? rest pattern = none :=
          find?_eq_none_iff.mpr fun m hm hserial => hdiffers m hm (heq.trans hserial.symm)
        rw [ih hrest, hnone]
        rfl
      | some kept =>
        rw [find?_cons, hf first kept hfirst, if_pos heq]
    · rw [if_neg heq]
      cases hfirst : f first with
      | none => exact ih hrest
      | some kept => rw [find?_cons, hf first kept hfirst, if_neg heq, ih hrest]

theorem distinct_filterMap {list : List (Match N)} (hdistinct : Distinct list)
    {f : Match N → Option (Match N)}
    (hf : ∀ m m', f m = some m' → m'.pattern = m.pattern) : Distinct (list.filterMap f) := by
  refine List.Pairwise.filterMap f ?_ hdistinct
  intro a a' ha b hb b' hb'
  rw [hf a b hb, hf a' b' hb']
  exact ha

/-- Matches are added behind those that are known. -/
theorem find?_addPatterns (list more : List (Match N)) (pattern : Pattern) :
    find? (addPatterns list more) pattern = (find? list pattern).or (find? more pattern) := by
  unfold addPatterns
  induction more generalizing list with
  | nil => simp [find?]
  | cons m more ih =>
    rw [List.foldl_cons, ih, find?_cons]
    by_cases heq : m.pattern.serial = pattern.serial
    · rw [if_pos heq]
      have hsame : find? list m.pattern = find? list pattern := by simp [find?, Pattern.same, heq]
      cases hfound : find? list pattern with
      | some known => simp [hsame, hfound]
      | none =>
        rw [hsame, hfound]
        simp only [Option.isSome_none, Bool.false_eq_true, if_false]
        have happend : find? (list ++ [m]) pattern = some m := by
          simp only [find?] at hfound ⊢
          simp [List.find?_append, hfound, heq]
        rw [happend]
        rfl
    · rw [if_neg heq]
      congr 1
      split
      · rfl
      · simp [find?, List.find?_append, heq]

theorem distinct_addPatterns {list : List (Match N)} (hdistinct : Distinct list)
    (more : List (Match N)) : Distinct (addPatterns list more) := by
  unfold addPatterns
  induction more generalizing list with
  | nil => exact hdistinct
  | cons m more ih =>
    rw [List.foldl_cons]
    apply ih
    split
    · exact hdistinct
    · rename_i hnew
      have hnone : find? list m.pattern = none := by simpa using hnew
      refine List.pairwise_append.mpr ⟨hdistinct, by simp, ?_⟩
      intro known hknown other hother
      rw [List.mem_singleton.mp hother]
      exact find?_eq_none_iff.mp hnone known hknown

section

variable [DecidableEq N]

/-- The match of a pattern after anchors were entered for it. -/
theorem find?_enter (pattern : Pattern) (anchors : List N) (list : List (Match N))
    (other : Pattern) :
    find? (enter pattern anchors list) other =
      if pattern.serial = other.serial then
        some (((find? list pattern).map (·.addAnchors anchors)).getD ⟨pattern, anchors⟩)
      else find? list other := by
  induction list with
  | nil =>
    rw [enter, find?_cons]
    rfl
  | cons m rest ih =>
    rw [enter]
    by_cases hm : m.pattern.serial = pattern.serial
    · rw [if_pos (Pattern.same_iff.mpr hm), find?_cons, find?_cons, if_pos hm, find?_cons, hm]
      by_cases heq : pattern.serial = other.serial
      · have hkept : (m.addAnchors anchors).pattern.serial = other.serial := hm.trans heq
        rw [if_pos heq, if_pos hkept]
        rfl
      · have hkept : (m.addAnchors anchors).pattern.serial ≠ other.serial :=
          fun hc => heq (hm.symm.trans hc)
        rw [if_neg heq, if_neg hkept, if_neg heq]
    · have hnot : ¬ m.pattern.same pattern = true := fun hc => hm (Pattern.same_iff.mp hc)
      rw [if_neg hnot, find?_cons, find?_cons, find?_cons, if_neg hm, ih]
      by_cases heq : pattern.serial = other.serial
      · rw [if_pos heq, if_neg (fun hc => hm (hc.trans heq.symm)), if_pos heq]
      · simp only [if_neg heq]

theorem mem_enter {pattern : Pattern} {anchors : List N} {list : List (Match N)} {m : Match N}
    (h : m ∈ enter pattern anchors list) :
    m.pattern = pattern ∨ ∃ known ∈ list, m.pattern = known.pattern := by
  induction list with
  | nil =>
    rw [enter, List.mem_singleton] at h
    exact .inl (h ▸ rfl)
  | cons first rest ih =>
    rw [enter] at h
    split at h
    · rcases List.mem_cons.mp h with rfl | hrest
      · exact .inr ⟨first, List.mem_cons_self, rfl⟩
      · exact .inr ⟨m, List.mem_cons_of_mem _ hrest, rfl⟩
    · rcases List.mem_cons.mp h with rfl | hrest
      · exact .inr ⟨m, List.mem_cons_self, rfl⟩
      · rcases ih hrest with hnew | ⟨known, hknown, heq⟩
        · exact .inl hnew
        · exact .inr ⟨known, List.mem_cons_of_mem _ hknown, heq⟩

theorem distinct_enter {list : List (Match N)} (hdistinct : Distinct list) (pattern : Pattern)
    (anchors : List N) : Distinct (enter pattern anchors list) := by
  induction list with
  | nil => simp [enter]
  | cons first rest ih =>
    obtain ⟨hdiffers, hrest⟩ := List.pairwise_cons.mp hdistinct
    rw [enter]
    split
    · exact List.pairwise_cons.mpr ⟨hdiffers, hrest⟩
    · rename_i hnew
      refine List.pairwise_cons.mpr ⟨?_, ih hrest⟩
      intro m hm
      rcases mem_enter hm with heq | ⟨known, hknown, heq⟩
      · rw [heq]
        exact fun hc => hnew (Pattern.same_iff.mpr hc)
      · rw [heq]
        exact hdiffers known hknown

theorem enter_ne_nil (pattern : Pattern) (anchors : List N) (list : List (Match N)) :
    enter pattern anchors list ≠ [] := by
  cases list with
  | nil => simp [enter]
  | cons m rest =>
    rw [enter]
    split <;> simp

end

end Match

/-! ### Tables -/

namespace MatchTable

variable [DecidableEq N]

/-- The match of a pattern for an element. -/
def match? (table : MatchTable N) (n : N) (pattern : Pattern) : Option (Match N) :=
  (table.matches? n).bind (Match.find? · pattern)

/-- Every element occurs once, with every pattern at most once, and not without any. -/
structure Tidy (table : MatchTable N) : Prop where
  nodup : table.nodes.Nodup
  distinct : ∀ entry ∈ table, Match.Distinct entry.2
  filled : ∀ entry ∈ table, entry.2 ≠ []

omit [DecidableEq N] in
theorem Tidy.nil : Tidy ([] : MatchTable N) :=
  ⟨List.nodup_nil, fun _ h => absurd h (by simp), fun _ h => absurd h (by simp)⟩

theorem matches?_cons (entry : N × List (Match N)) (table : MatchTable N) (n : N) :
    matches? (entry :: table) n = if n = entry.1 then some entry.2 else matches? table n := by
  unfold matches?
  rw [List.lookup_cons]
  by_cases h : n = entry.1
  · simp [h]
  · rw [beq_false_of_ne h, if_neg h]

theorem mem_of_matches? {table : MatchTable N} {n : N} {list : List (Match N)}
    (h : table.matches? n = some list) : (n, list) ∈ table := by
  induction table with
  | nil => simp [matches?] at h
  | cons entry table ih =>
    rw [matches?_cons] at h
    split at h
    · rename_i heq
      obtain rfl := Option.some.inj h
      rw [heq]
      exact List.mem_cons_self
    · exact List.mem_cons_of_mem _ (ih h)

theorem mem_nodes_iff {table : MatchTable N} {n : N} :
    n ∈ table.nodes ↔ ∃ list, table.matches? n = some list := by
  induction table with
  | nil => simp [nodes, matches?]
  | cons entry table ih =>
    rw [matches?_cons]
    simp only [nodes, List.map_cons, List.mem_cons] at ih ⊢
    by_cases h : n = entry.1
    · simp [h]
    · simp only [h, false_or, if_false]
      exact ih

theorem matches?_eq_none_iff {table : MatchTable N} {n : N} :
    table.matches? n = none ↔ n ∉ table.nodes := by
  rw [mem_nodes_iff]
  cases table.matches? n <;> simp

theorem matches?_of_mem {table : MatchTable N} (hnodup : table.nodes.Nodup) {n : N}
    {list : List (Match N)} (hmem : (n, list) ∈ table) : table.matches? n = some list := by
  induction table with
  | nil => simp at hmem
  | cons entry table ih =>
    obtain ⟨hfirst, hrest⟩ := List.nodup_cons.mp hnodup
    rw [matches?_cons]
    rcases List.mem_cons.mp hmem with heq | hmem
    · rw [if_pos (by rw [← heq]), ← heq]
    · rw [if_neg ?_, ih hrest hmem]
      intro hc
      exact hfirst (List.mem_map.mpr ⟨(n, list), hmem, hc⟩)

theorem match?_serial {table : MatchTable N} {n : N} {pattern : Pattern} {m : Match N}
    (h : table.match? n pattern = some m) : m.pattern.serial = pattern.serial := by
  obtain ⟨list, -, hfind⟩ := Option.bind_eq_some_iff.mp h
  exact (Match.find?_serial hfind).2

theorem match?_congr (table : MatchTable N) (n : N) {a b : Pattern} (h : a.serial = b.serial) :
    table.match? n a = table.match? n b := by
  simp [match?, Match.find?, Pattern.same, h]

theorem mem_nodes_of_match? {table : MatchTable N} {n : N} {pattern : Pattern} {m : Match N}
    (h : table.match? n pattern = some m) : n ∈ table.nodes := by
  obtain ⟨list, hlist, -⟩ := Option.bind_eq_some_iff.mp h
  exact mem_nodes_iff.mpr ⟨list, hlist⟩

/-- In a tidy table each stored match is found. -/
theorem Tidy.match?_of_mem {table : MatchTable N} (h : table.Tidy) {n : N}
    {list : List (Match N)} (hlist : (n, list) ∈ table) {m : Match N} (hm : m ∈ list) :
    table.match? n m.pattern = some m := by
  rw [match?, matches?_of_mem h.nodup hlist, Option.bind_some,
    Match.find?_of_mem (h.distinct _ hlist) hm]

/-- In a tidy table each element has a match. -/
theorem Tidy.mem_nodes_iff {table : MatchTable N} (h : table.Tidy) {n : N} :
    n ∈ table.nodes ↔ ∃ pattern m, table.match? n pattern = some m := by
  constructor
  · intro hn
    obtain ⟨list, hlist⟩ := MatchTable.mem_nodes_iff.mp hn
    have hmem := mem_of_matches? hlist
    obtain ⟨m, rest, rfl⟩ := List.exists_cons_of_ne_nil (h.filled _ hmem)
    exact ⟨m.pattern, m, h.match?_of_mem hmem List.mem_cons_self⟩
  · rintro ⟨pattern, m, hm⟩
    exact mem_nodes_of_match? hm

omit [DecidableEq N] in
/-- Where each element has a match, each is named with the text of one. -/
theorem firstTexts_nodes {table : MatchTable N} (h : ∀ entry ∈ table, entry.2 ≠ []) :
    table.firstTexts.map (·.1) = table.nodes := by
  induction table with
  | nil => rfl
  | cons entry rest ih =>
    obtain ⟨hfirst, hrest⟩ := List.forall_mem_cons.mp h
    obtain ⟨m, more, hcons⟩ := List.exists_cons_of_ne_nil hfirst
    have hrest := ih hrest
    simp only [firstTexts, nodes] at hrest ⊢
    simp [hcons, hrest]

/-! ### Changing one entry -/

theorem matches?_update (table : MatchTable N) (n : N) (f : List (Match N) → List (Match N))
    (m : N) :
    (table.update n f).matches? m =
      if m = n then some (f ((table.matches? n).getD [])) else table.matches? m := by
  induction table with
  | nil =>
    rw [update, matches?_cons]
    rfl
  | cons entry rest ih =>
    obtain ⟨k, list⟩ := entry
    rw [update]
    by_cases hk : k = n
    · subst hk
      rw [if_pos rfl, matches?_cons, matches?_cons, matches?_cons]
      by_cases hm : m = k <;> simp [hm]
    · rw [if_neg hk, matches?_cons, matches?_cons, matches?_cons, ih]
      have hn : ¬ n = k := fun h => hk h.symm
      by_cases hm : m = k
      · subst hm
        simp [hk]
      · simp [hm, hn]

theorem nodes_update (table : MatchTable N) (n : N) (f : List (Match N) → List (Match N)) :
    (table.update n f).nodes = if n ∈ table.nodes then table.nodes else table.nodes ++ [n] := by
  induction table with
  | nil => simp [update, nodes]
  | cons entry rest ih =>
    obtain ⟨k, list⟩ := entry
    have hcons : ∀ (list : List (Match N)) (table : MatchTable N),
        nodes ((k, list) :: table) = k :: table.nodes := fun _ _ => rfl
    rw [update, hcons]
    by_cases hk : k = n
    · rw [if_pos hk, if_pos (hk ▸ List.mem_cons_self), hcons]
    · rw [if_neg hk, hcons, ih]
      by_cases hmem : n ∈ nodes rest
      · rw [if_pos hmem, if_pos (List.mem_cons_of_mem _ hmem)]
      · rw [if_neg hmem, if_neg, List.cons_append]
        intro hc
        rcases List.mem_cons.mp hc with heq | hrest
        · exact hk heq.symm
        · exact hmem hrest

theorem mem_update {table : MatchTable N} {n : N} {f : List (Match N) → List (Match N)}
    {entry : N × List (Match N)} (h : entry ∈ table.update n f) :
    entry ∈ table ∨ ∃ list, ((n, list) ∈ table ∨ list = []) ∧ entry.2 = f list := by
  induction table with
  | nil =>
    rw [update, List.mem_singleton] at h
    exact .inr ⟨[], .inr rfl, by rw [h]⟩
  | cons first rest ih =>
    obtain ⟨k, list⟩ := first
    rw [update] at h
    by_cases hk : k = n
    · rw [if_pos hk] at h
      rcases List.mem_cons.mp h with heq | hrest
      · exact .inr ⟨list, .inl (by simp [hk]), by rw [heq]⟩
      · exact .inl (List.mem_cons_of_mem _ hrest)
    · rw [if_neg hk] at h
      rcases List.mem_cons.mp h with heq | hrest
      · exact .inl (by simp [heq])
      · rcases ih hrest with hrest | ⟨list, hlist, heq⟩
        · exact .inl (List.mem_cons_of_mem _ hrest)
        · refine .inr ⟨list, ?_, heq⟩
          rcases hlist with hlist | hnil
          · exact .inl (List.mem_cons_of_mem _ hlist)
          · exact .inr hnil

theorem nodup_update {table : MatchTable N} (h : table.nodes.Nodup) (n : N)
    (f : List (Match N) → List (Match N)) : (table.update n f).nodes.Nodup := by
  rw [nodes_update]
  split
  · exact h
  · rename_i hn
    exact List.nodup_append.mpr ⟨h, by simp, fun a ha b hb heq =>
      hn (by rw [← List.mem_singleton.mp hb, ← heq]; exact ha)⟩

theorem Tidy.update_enter {table : MatchTable N} (h : table.Tidy) (n : N) (pattern : Pattern)
    (anchors : List N) : (table.update n (Match.enter pattern anchors)).Tidy := by
  refine ⟨nodup_update h.nodup n _, ?_, ?_⟩
  · intro entry hentry
    rcases mem_update hentry with hold | ⟨list, hlist, heq⟩
    · exact h.distinct entry hold
    · rw [heq]
      apply Match.distinct_enter
      rcases hlist with hlist | rfl
      · exact h.distinct _ hlist
      · exact List.Pairwise.nil
  · intro entry hentry
    rcases mem_update hentry with hold | ⟨list, -, heq⟩
    · exact h.filled entry hold
    · rw [heq]
      exact Match.enter_ne_nil pattern anchors list

theorem match?_update_enter (table : MatchTable N) (n : N) (pattern : Pattern)
    (anchors : List N) (m : N) (other : Pattern) :
    (table.update n (Match.enter pattern anchors)).match? m other =
      if m = n ∧ pattern.serial = other.serial then
        some (((table.match? n pattern).map (·.addAnchors anchors)).getD ⟨pattern, anchors⟩)
      else table.match? m other := by
  unfold match?
  rw [matches?_update]
  by_cases hm : m = n
  · subst hm
    simp only [if_pos, Option.bind_some, true_and, Match.find?_enter]
    cases table.matches? m <;> simp [Match.find?]
  · simp [hm]

end MatchTable

end CosmeticFilter
