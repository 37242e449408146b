/-
What a completed run makes of the table of hidden elements.

A run has found a list of hits: a pattern matches an element, and the match was derived
from these anchors.  `Collects` says of a table that it answers all questions by this list
alone.  From there on the table of hidden elements is described entry by entry: a pattern
that matched an element before is renewed in the light of what was found for the element,
and what was found on top of it is added.
-/
import CosmeticFilter.Proofs.Generator
import CosmeticFilter.Proofs.Table
import Mathlib.Data.List.Induction

namespace CosmeticFilter

variable {N S : Type} [DecidableEq N]

/-! ### Hits -/

/-- A pattern matches an element; the match was derived from the anchors. -/
structure Hit (N : Type) where
  pattern : Pattern
  anchors : List N
  node : N

namespace Hit

/-- The table with one more hit. -/
def enter (table : MatchTable N) (hit : Hit N) : MatchTable N :=
  table.update hit.node (Match.enter hit.pattern hit.anchors)

/-- The elements that an item of a pattern resolves to. -/
def ofItem (config : Config) (page : Page N S) (pattern : Pattern) : Item N → List (Hit N)
  | .pause => []
  | .found selector anchors =>
    if config.hidesBySelector pattern then []
    else ((page.queryAll page.document selector).toOption.getD []).map (⟨pattern, anchors, ·⟩)

/-- All hits of a candidate. -/
def ofCandidate (config : Config) (page : Page N S) (styles : List Style)
    (candidate : Candidate N) : List (Hit N) :=
  (Run.candidateItems page styles candidate).flatMap (ofItem config page candidate.pattern)

end Hit

theorem Findings.matchItem_eq (config : Config) (page : Page N S) (pattern : Pattern)
    (table : MatchTable N) (item : Item N) :
    Findings.matchItem config page pattern table item =
      (Hit.ofItem config page pattern item).foldl Hit.enter table := by
  cases item with
  | pause => rfl
  | found selector anchors =>
    simp only [Findings.matchItem, Hit.ofItem]
    split
    · rfl
    · rw [List.foldl_map]
      rfl

/-- What a run has matched when it is completed is a table of the hits of its candidates. -/
theorem Run.completed_hits (config : Config) (page : Page N S)
    (classification : Classification N) (styles : List Style) :
    ((Run.ofClassification classification styles).completed config page).findings.matched =
      (classification.candidates.flatMap (Hit.ofCandidate config page styles)).foldl
        Hit.enter [] := by
  rw [Run.completed_matched, List.foldl_flatMap]
  congr 1
  funext table candidate
  rw [Hit.ofCandidate, List.foldl_flatMap]
  congr 1
  funext table item
  exact Findings.matchItem_eq config page candidate.pattern table item

/-- The table answers by the hits alone. -/
structure Collects (table : MatchTable N) (hits : List (Hit N)) : Prop where
  tidy : table.Tidy
  found : ∀ n pattern, (∃ m, table.match? n pattern = some m) ↔
    ∃ hit ∈ hits, hit.node = n ∧ hit.pattern.serial = pattern.serial
  pattern : ∀ n pattern m, table.match? n pattern = some m →
    ∃ hit ∈ hits, hit.node = n ∧ hit.pattern = m.pattern
  anchors : ∀ n pattern m, table.match? n pattern = some m → ∀ a, a ∈ m.anchors ↔
    ∃ hit ∈ hits, hit.node = n ∧ hit.pattern.serial = pattern.serial ∧ a ∈ hit.anchors

theorem Collects.nil : Collects ([] : MatchTable N) [] where
  tidy := .nil
  found n pattern := by simp [MatchTable.match?, MatchTable.matches?]
  pattern n pattern m h := by simp [MatchTable.match?, MatchTable.matches?] at h
  anchors n pattern m h := by simp [MatchTable.match?, MatchTable.matches?] at h

theorem Hit.match?_enter (table : MatchTable N) (hit : Hit N) (n : N) (pattern : Pattern) :
    (hit.enter table).match? n pattern =
      if n = hit.node ∧ hit.pattern.serial = pattern.serial then
        some (((table.match? hit.node hit.pattern).map (·.addAnchors hit.anchors)).getD
          ⟨hit.pattern, hit.anchors⟩)
      else table.match? n pattern :=
  MatchTable.match?_update_enter table hit.node hit.pattern hit.anchors n pattern

omit [DecidableEq N] in
theorem Hit.exists_concat {hits : List (Hit N)} {hit : Hit N} {p : Hit N → Prop} :
    (∃ other ∈ hits ++ [hit], p other) ↔ (∃ other ∈ hits, p other) ∨ p hit := by
  simp [or_and_right, exists_or]

namespace Collects

variable {table : MatchTable N} {hits : List (Hit N)} (h : Collects table hits) (hit : Hit N)

include h

theorem found_enter (n : N) (pattern : Pattern) :
    (∃ m, (hit.enter table).match? n pattern = some m) ↔
      ∃ other ∈ hits ++ [hit], other.node = n ∧ other.pattern.serial = pattern.serial := by
  rw [Hit.match?_enter, Hit.exists_concat, ← h.found]
  by_cases heq : n = hit.node ∧ hit.pattern.serial = pattern.serial
  · rw [if_pos heq]
    exact iff_of_true ⟨_, rfl⟩ (.inr ⟨heq.1.symm, heq.2⟩)
  · rw [if_neg heq]
    exact (or_iff_left fun hlast => heq ⟨hlast.1.symm, hlast.2⟩).symm

/-- The pattern that is kept in a match is the one of its first hit. -/
theorem pattern_enter {n : N} {pattern : Pattern} {m : Match N}
    (hm : (hit.enter table).match? n pattern = some m) :
    ∃ other ∈ hits ++ [hit], other.node = n ∧ other.pattern = m.pattern := by
  rw [Hit.exists_concat]
  rw [Hit.match?_enter] at hm
  split at hm
  · rename_i heq
    rw [← Option.some.inj hm, heq.1]
    cases hold : table.match? hit.node hit.pattern with
    | none => exact .inr ⟨rfl, rfl⟩
    | some known =>
      obtain ⟨first, hfirst, hnode, hpattern⟩ := h.pattern _ _ _ hold
      exact .inl ⟨first, hfirst, hnode, hpattern⟩
  · exact .inl (h.pattern _ _ _ hm)

theorem anchors_enter {n : N} {pattern : Pattern} {m : Match N}
    (hm : (hit.enter table).match? n pattern = some m) (a : N) :
    a ∈ m.anchors ↔ ∃ other ∈ hits ++ [hit], other.node = n ∧
      other.pattern.serial = pattern.serial ∧ a ∈ other.anchors := by
  rw [Hit.exists_concat]
  rw [Hit.match?_enter] at hm
  split at hm
  · rename_i heq
    rw [← Option.some.inj hm, heq.1, ← heq.2, and_iff_right rfl, and_iff_right rfl]
    cases hold : table.match? hit.node hit.pattern with
    | none =>
      -- Without a match there has been no hit.
      have hnone : ¬ ∃ m, table.match? hit.node hit.pattern = some m := by simp [hold]
      rw [h.found] at hnone
      refine (or_iff_right ?_).symm
      rintro ⟨other, hother, hnode, hserial, -⟩
      exact hnone ⟨other, hother, hnode, hserial⟩
    | some known =>
      rw [Option.map_some, Option.getD_some, Match.addAnchors, mem_addNew, h.anchors _ _ _ hold]
  · rename_i hne
    rw [h.anchors _ _ _ hm]
    exact (or_iff_left fun hlast => hne ⟨hlast.1.symm, hlast.2.1⟩).symm

theorem concat : Collects (hit.enter table) (hits ++ [hit]) where
  tidy := h.tidy.update_enter _ _ _
  found := h.found_enter hit
  pattern _ _ _ := h.pattern_enter hit
  anchors _ _ _ := h.anchors_enter hit

end Collects

theorem collects_foldl (hits : List (Hit N)) : Collects (hits.foldl Hit.enter []) hits := by
  induction hits using List.reverseRecOn with
  | nil => exact .nil
  | append_singleton hits hit ih =>
    rw [List.foldl_append]
    exact ih.concat hit

theorem Collects.mem_nodes {table : MatchTable N} {hits : List (Hit N)} (h : Collects table hits)
    {n : N} : n ∈ table.nodes ↔ ∃ hit ∈ hits, hit.node = n := by
  rw [h.tidy.mem_nodes_iff]
  constructor
  · rintro ⟨pattern, m, hm⟩
    obtain ⟨hit, hhit, hnode, -⟩ := h.pattern _ _ _ hm
    exact ⟨hit, hhit, hnode⟩
  · rintro ⟨hit, hhit, hnode⟩
    obtain ⟨m, hm⟩ := (h.found n hit.pattern).mpr ⟨hit, hhit, hnode, rfl⟩
    exact ⟨hit.pattern, m, hm⟩

/-! ### Renewing what was known -/

namespace Run

/-- What becomes of a known match, given the match of its pattern that was found, if any. -/
def renewed (page : Page N S) (run : Run N) (known : Match N) (again : Option (Match N)) :
    Option (Match N) :=
  match again with
  | some again =>
    if run.covers page known then some { known with anchors := again.anchors }
    else some (known.addAnchors again.anchors)
  | none => if run.covers page known then none else some known

theorem renew?_eq (page : Page N S) (run : Run N) (n : N) (known : Match N) :
    run.renew? page (run.findings.matched.matches? n) known =
      run.renewed page known (run.findings.matched.match? n known.pattern) := rfl

theorem renewed_pattern {page : Page N S} {run : Run N} {known m : Match N}
    {again : Option (Match N)} (h : run.renewed page known again = some m) :
    m.pattern = known.pattern := by
  unfold renewed at h
  split at h
  · split at h
    · rw [← Option.some.inj h]
    · rw [← Option.some.inj h]
      rfl
  · split at h
    · simp at h
    · rw [← Option.some.inj h]

theorem renew?_pattern {page : Page N S} {run : Run N} {found : Option (List (Match N))}
    {known m : Match N} (h : run.renew? page found known = some m) :
    m.pattern = known.pattern :=
  renewed_pattern h

theorem retain_cons (page : Page N S) (run : Run N) (n : N) (known : List (Match N))
    (rest : MatchTable N) :
    run.retain page ((n, known) :: rest) =
      match run.keep? page n known with
      | none => run.retain page rest
      | some kept => (n, kept) :: run.retain page rest := by
  unfold retain
  rw [List.filterMap_cons]
  cases hkeep : run.keep? page n known <;> simp only [hkeep, Option.map_none, Option.map_some]

theorem matches?_retain (page : Page N S) (run : Run N) {hidden : MatchTable N}
    (hnodup : hidden.nodes.Nodup) (n : N) :
    (run.retain page hidden).matches? n = (hidden.matches? n).bind (run.keep? page n) := by
  induction hidden with
  | nil => rfl
  | cons entry rest ih =>
    obtain ⟨k, known⟩ := entry
    obtain ⟨hfirst, hrest⟩ := List.nodup_cons.mp hnodup
    rw [retain_cons, MatchTable.matches?_cons]
    by_cases hn : n = k
    · subst hn
      rw [if_pos rfl, Option.bind_some]
      cases run.keep? page n known with
      | none =>
        have hnone : MatchTable.matches? rest n = none :=
          MatchTable.matches?_eq_none_iff.mpr hfirst
        simp only
        rw [ih hrest, hnone, Option.bind_none]
      | some kept =>
        simp only
        rw [MatchTable.matches?_cons, if_pos rfl]
    · rw [if_neg hn]
      cases run.keep? page k known with
      | none => exact ih hrest
      | some kept =>
        simp only
        rw [MatchTable.matches?_cons, if_neg hn, ih hrest]

/-- An element that stays hidden keeps the matches that are renewed. -/
theorem match?_retain (page : Page N S) (run : Run N) {hidden : MatchTable N}
    (h : hidden.Tidy) (n : N) (pattern : Pattern) :
    (run.retain page hidden).match? n pattern =
      if page.isConnected n then
        (hidden.match? n pattern).bind fun known =>
          run.renewed page known (run.findings.matched.match? n known.pattern)
      else none := by
  unfold MatchTable.match?
  rw [matches?_retain page run h.nodup]
  cases hlist : hidden.matches? n with
  | none => simp
  | some known =>
    have hdistinct := h.distinct _ (MatchTable.mem_of_matches? hlist)
    have hfind : Match.find? (known.filterMap
        (run.renew? page (run.findings.matched.matches? n))) pattern =
        (Match.find? known pattern).bind
          (run.renew? page (run.findings.matched.matches? n)) :=
      Match.find?_filterMap hdistinct (fun m m' hm => renew?_pattern hm) pattern
    simp only [Option.bind_some, keep?]
    by_cases hconnected : page.isConnected n = true
    · rw [if_pos hconnected, if_pos hconnected]
      split
      · rename_i hempty
        simp only [Bool.and_eq_true, List.isEmpty_iff] at hempty
        rw [hempty.1] at hfind
        simp only [Option.bind_none]
        exact hfind
      · simp only [Option.bind_some]
        exact hfind
    · rw [if_neg hconnected, if_neg hconnected]
      rfl

theorem nodes_retain (page : Page N S) (run : Run N) (hidden : MatchTable N) :
    (run.retain page hidden).nodes.Sublist hidden.nodes := by
  induction hidden with
  | nil => exact List.Sublist.slnil
  | cons entry rest ih =>
    obtain ⟨k, known⟩ := entry
    rw [retain_cons]
    cases run.keep? page k known with
    | none => exact ih.cons k
    | some kept => exact ih.cons_cons k

theorem mem_retain {page : Page N S} {run : Run N} {hidden : MatchTable N}
    {entry : N × List (Match N)} (h : entry ∈ run.retain page hidden) :
    ∃ known, (entry.1, known) ∈ hidden ∧ run.keep? page entry.1 known = some entry.2 := by
  obtain ⟨⟨n, known⟩, hmem, hkeep⟩ := List.mem_filterMap.mp h
  obtain ⟨kept, hkept, rfl⟩ := Option.map_eq_some_iff.mp hkeep
  exact ⟨known, hmem, hkept⟩

/-- Matches are only ever kept with their patterns. -/
theorem distinct_keep {page : Page N S} {run : Run N} {n : N} {known kept : List (Match N)}
    (h : Match.Distinct known) (hkeep : run.keep? page n known = some kept) :
    Match.Distinct kept := by
  unfold keep? at hkeep
  split at hkeep
  · simp only at hkeep
    split at hkeep
    · simp at hkeep
    · rw [← Option.some.inj hkeep]
      exact Match.distinct_filterMap h fun m m' hm => renew?_pattern hm
  · simp at hkeep

/-- What is kept is empty only where the run has found something for the element. -/
theorem keep_ne_nil {page : Page N S} {run : Run N} {n : N} {known kept : List (Match N)}
    (hnone : n ∉ run.findings.matched.nodes) (hkeep : run.keep? page n known = some kept) :
    kept ≠ [] := by
  rw [← MatchTable.matches?_eq_none_iff] at hnone
  unfold keep? at hkeep
  split at hkeep
  · simp only [hnone, Option.isNone_none, Bool.and_true] at hkeep
    split at hkeep
    · simp at hkeep
    · rename_i hne
      rw [← Option.some.inj hkeep]
      simpa using hne
  · simp at hkeep

/-- The lists of the elements that stay hidden. -/
theorem distinct_retain {page : Page N S} {run : Run N} {hidden : MatchTable N}
    (h : hidden.Tidy) {n : N} {list : List (Match N)}
    (hlist : (run.retain page hidden).matches? n = some list) : Match.Distinct list := by
  obtain ⟨known, hknown, hkept⟩ := mem_retain (MatchTable.mem_of_matches? hlist)
  exact distinct_keep (h.distinct _ hknown) hkept

theorem retain_ne_nil {page : Page N S} {run : Run N} {hidden : MatchTable N} {n : N}
    (hnone : n ∉ run.findings.matched.nodes) {list : List (Match N)}
    (hlist : (run.retain page hidden).matches? n = some list) : list ≠ [] := by
  obtain ⟨known, -, hkept⟩ := mem_retain (MatchTable.mem_of_matches? hlist)
  exact keep_ne_nil hnone hkept

/-! ### Adding what was found -/

/-- The table with entries of another one added. -/
def addEntries (table : MatchTable N) (found : MatchTable N) : MatchTable N :=
  found.foldl (fun table (n, found) => table.update n (Match.addPatterns · found)) table

theorem matches?_addEntries (table : MatchTable N) {found : MatchTable N}
    (hnodup : found.nodes.Nodup) (n : N) :
    (addEntries table found).matches? n =
      match found.matches? n with
      | none => table.matches? n
      | some list => some (Match.addPatterns ((table.matches? n).getD []) list) := by
  induction found generalizing table with
  | nil => rfl
  | cons entry rest ih =>
    obtain ⟨k, list⟩ := entry
    obtain ⟨hfirst, hrest⟩ := List.nodup_cons.mp hnodup
    have hstep : addEntries table ((k, list) :: rest) =
        addEntries (table.update k (Match.addPatterns · list)) rest := rfl
    rw [hstep, ih _ hrest, MatchTable.matches?_cons, MatchTable.matches?_update]
    by_cases hn : n = k
    · subst hn
      have hnone : MatchTable.matches? rest n = none :=
        MatchTable.matches?_eq_none_iff.mpr hfirst
      rw [hnone, if_pos rfl, if_pos rfl]
    · rw [if_neg hn, if_neg hn]

theorem match?_addEntries (table : MatchTable N) {found : MatchTable N}
    (hnodup : found.nodes.Nodup) (n : N) (pattern : Pattern) :
    (addEntries table found).match? n pattern =
      (table.match? n pattern).or (found.match? n pattern) := by
  unfold MatchTable.match?
  rw [matches?_addEntries table hnodup]
  cases found.matches? n with
  | none => simp
  | some list =>
    simp only [Option.bind_some, Match.find?_addPatterns]
    cases table.matches? n <;> simp [Match.find?]

theorem nodup_addEntries {table : MatchTable N} (h : table.nodes.Nodup) (found : MatchTable N) :
    (addEntries table found).nodes.Nodup := by
  induction found generalizing table with
  | nil => exact h
  | cons entry rest ih => exact ih (MatchTable.nodup_update h entry.1 _)

theorem nodes_addEntries {table : MatchTable N} {found : MatchTable N}
    (h : ∀ n ∈ found.nodes, n ∈ table.nodes) : (addEntries table found).nodes = table.nodes := by
  induction found generalizing table with
  | nil => rfl
  | cons entry rest ih =>
    have hfirst : entry.1 ∈ table.nodes := h entry.1 List.mem_cons_self
    have hsame : (table.update entry.1 (Match.addPatterns · entry.2)).nodes = table.nodes := by
      rw [MatchTable.nodes_update, if_pos hfirst]
    refine (ih ?_).trans hsame
    intro n hn
    rw [hsame]
    exact h n (List.mem_cons_of_mem _ hn)

/-! ### The table after a run -/

theorem hiddenAfter_eq (page : Page N S) (run : Run N) (hidden : MatchTable N) :
    run.hiddenAfter page hidden =
      addEntries (run.retain page hidden) run.findings.matched := rfl

/-- **The table after a run, entry by entry.**  A connected element keeps what is renewed. -/
theorem match?_hiddenAfter (page : Page N S) (run : Run N) {hidden : MatchTable N}
    (hhidden : hidden.Tidy) (hmatched : run.findings.matched.Tidy) (n : N) (pattern : Pattern) :
    (run.hiddenAfter page hidden).match? n pattern =
      (if page.isConnected n then
        (hidden.match? n pattern).bind fun known =>
          run.renewed page known (run.findings.matched.match? n pattern)
      else none).or (run.findings.matched.match? n pattern) := by
  rw [hiddenAfter_eq, match?_addEntries _ hmatched.nodup, match?_retain page run hhidden]
  congr 2
  refine Option.bind_congr fun known hknown => ?_
  rw [MatchTable.match?_congr _ n (MatchTable.match?_serial hknown)]

/-- A match in the table after a run is one that was renewed, or it was found. -/
theorem cases_match?_hiddenAfter {page : Page N S} {run : Run N} {hidden : MatchTable N}
    (hhidden : hidden.Tidy) (hmatched : run.findings.matched.Tidy) {n : N} {pattern : Pattern}
    {m : Match N} (hm : (run.hiddenAfter page hidden).match? n pattern = some m) :
    (page.isConnected n = true ∧ ∃ known, hidden.match? n pattern = some known ∧
      run.renewed page known (run.findings.matched.match? n pattern) = some m) ∨
    run.findings.matched.match? n pattern = some m := by
  rw [match?_hiddenAfter page run hhidden hmatched, Option.or_eq_some_iff] at hm
  rcases hm with hm | ⟨-, hm⟩
  · split at hm
    · exact .inl ⟨‹_›, Option.bind_eq_some_iff.mp hm⟩
    · simp at hm
  · exact .inr hm

/-- A match that is renewed for a connected element is in the table after the run. -/
theorem match?_hiddenAfter_of_renewed {page : Page N S} {run : Run N} {hidden : MatchTable N}
    (hhidden : hidden.Tidy) (hmatched : run.findings.matched.Tidy) {n : N}
    (hconnected : page.isConnected n = true) {pattern : Pattern} {known m : Match N}
    (hknown : hidden.match? n pattern = some known)
    (hm : run.renewed page known (run.findings.matched.match? n pattern) = some m) :
    (run.hiddenAfter page hidden).match? n pattern = some m := by
  rw [match?_hiddenAfter page run hhidden hmatched, if_pos hconnected, hknown, Option.bind_some,
    hm, Option.some_or]

theorem tidy_hiddenAfter (page : Page N S) (run : Run N) {hidden : MatchTable N}
    (hhidden : hidden.Tidy) (hmatched : run.findings.matched.Tidy) :
    (run.hiddenAfter page hidden).Tidy := by
  have hnodup : (run.hiddenAfter page hidden).nodes.Nodup :=
    nodup_addEntries (hhidden.nodup.sublist (nodes_retain page run hidden)) run.findings.matched
  -- Where a list of the new table comes from.
  have hsource : ∀ entry ∈ run.hiddenAfter page hidden,
      (entry.1 ∉ run.findings.matched.nodes ∧
        (run.retain page hidden).matches? entry.1 = some entry.2) ∨
      ∃ found, (entry.1, found) ∈ run.findings.matched ∧
        entry.2 =
          Match.addPatterns (((run.retain page hidden).matches? entry.1).getD []) found := by
    intro entry hentry
    have hlist := MatchTable.matches?_of_mem hnodup hentry
    rw [hiddenAfter_eq, matches?_addEntries _ hmatched.nodup] at hlist
    cases hfound : run.findings.matched.matches? entry.1 with
    | none =>
      rw [hfound] at hlist
      exact .inl ⟨MatchTable.matches?_eq_none_iff.mp hfound, hlist⟩
    | some found =>
      rw [hfound] at hlist
      exact .inr ⟨found, MatchTable.mem_of_matches? hfound, (Option.some.inj hlist).symm⟩
  refine ⟨hnodup, ?_, ?_⟩
  · intro entry hentry
    rcases hsource entry hentry with ⟨-, hlist⟩ | ⟨found, -, heq⟩
    · exact distinct_retain hhidden hlist
    · rw [heq]
      apply Match.distinct_addPatterns
      cases hlist : (run.retain page hidden).matches? entry.1 with
      | none => exact List.Pairwise.nil
      | some list => exact distinct_retain hhidden hlist
  · intro entry hentry
    rcases hsource entry hentry with ⟨hnone, hlist⟩ | ⟨found, hfound, heq⟩
    · exact retain_ne_nil hnone hlist
    · obtain ⟨m, rest, hcons⟩ := List.exists_cons_of_ne_nil (hmatched.filled _ hfound)
      simp only at hcons
      intro hnil
      have hfind : Match.find? entry.2 m.pattern = none := by
        rw [hnil]
        rfl
      rw [heq, Match.find?_addPatterns, hcons, Match.find?_cons, if_pos rfl] at hfind
      simp at hfind

end Run

end CosmeticFilter
