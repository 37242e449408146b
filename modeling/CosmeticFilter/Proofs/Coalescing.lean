/-
Coalescing requests loses no work.

Requests that wait are merged, in whatever grouping they happen to meet.  What a run does
for a request is settled by three conditions: which patterns take part, which nodes confine
them, and which style sheets are indexed.  Each of them looks at emptiness of the sheets and
of the changes, so a request for sheets and one for changes take together a way that neither
takes alone.  Still all three grow with the request: a request that asks for more has more
candidates, confines them less, and indexes more sheets.  A merger asks for all that its
requests ask for, so the run for it covers the runs for each of them.
-/
import CosmeticFilter.Engine.Basic
import CosmeticFilter.Proofs.Findings

namespace CosmeticFilter

variable {S N : Type}

/-! ### Groupings -/

/-- Requests in the order in which they are made, and how they are merged. -/
inductive Grouping (S N : Type) where
  | alone (request : Request S N)
  | both (earlier later : Grouping S N)

namespace Grouping

def requests : Grouping S N → List (Request S N)
  | alone request => [request]
  | both earlier later => earlier.requests ++ later.requests

def merged : Grouping S N → Request S N
  | alone request => request
  | both earlier later => earlier.merged.merge later.merged

end Grouping

namespace Request

/-- All that the first request asks for, the second one asks for as well. -/
inductive Within : Request S N → Request S N → Prop
  | full (part : Request S N) : Within part .full
  | partly {sheets moreSheets : List S} {changes moreChanges : List (Mutation N)}
      (hsheets : sheets ⊆ moreSheets) (hchanges : changes ⊆ moreChanges) :
      Within (.partly sheets changes) (.partly moreSheets moreChanges)

theorem Within.refl (request : Request S N) : Within request request := by
  cases request with
  | full => exact .full _
  | partly sheets changes => exact .partly (List.Subset.refl _) (List.Subset.refl _)

theorem Within.trans {a b c : Request S N} (hab : Within a b) (hbc : Within b c) :
    Within a c := by
  cases hbc with
  | full => exact .full _
  | partly hsheets hchanges =>
    cases hab with
    | partly hfirst hsecond =>
      exact .partly (List.Subset.trans hfirst hsheets) (List.Subset.trans hsecond hchanges)

theorem within_merge_left (a b : Request S N) : Within a (a.merge b) := by
  cases a <;> cases b
  case partly.partly =>
    exact .partly (List.subset_append_left _ _) (List.subset_append_left _ _)
  all_goals exact .full _

theorem within_merge_right (a b : Request S N) : Within b (a.merge b) := by
  cases a <;> cases b
  case partly.partly =>
    exact .partly (List.subset_append_right _ _) (List.subset_append_right _ _)
  all_goals exact .full _

end Request

namespace Grouping

/-- A merger is full as soon as one request is; else it names all that the requests name. -/
theorem merged_eq (grouping : Grouping S N) :
    grouping.merged =
      if grouping.requests.any Request.isFull then .full
      else .partly (grouping.requests.flatMap Request.sheets)
        (grouping.requests.flatMap Request.changes) := by
  induction grouping with
  | alone request => cases request <;> simp [merged, requests, Request.isFull, Request.sheets,
      Request.changes]
  | both earlier later ihearlier ihlater =>
    rw [merged, ihearlier, ihlater, requests, List.any_append, List.flatMap_append,
      List.flatMap_append]
    by_cases hearlier : earlier.requests.any Request.isFull = true
    · simp [hearlier, Request.merge]
    · by_cases hlater : later.requests.any Request.isFull = true
      · simp [hearlier, hlater, Request.merge]
      · simp [hearlier, hlater, Request.merge]

/-- A merger asks for all that its requests ask for. -/
theorem within_merged {grouping : Grouping S N} {request : Request S N}
    (hrequest : request ∈ grouping.requests) : request.Within grouping.merged := by
  induction grouping with
  | alone only =>
    obtain rfl := List.mem_singleton.mp hrequest
    exact .refl _
  | both earlier later ihearlier ihlater =>
    rcases List.mem_append.mp hrequest with hmem | hmem
    · exact (ihearlier hmem).trans (Request.within_merge_left _ _)
    · exact (ihlater hmem).trans (Request.within_merge_right _ _)

end Grouping

/-! ### What a run is about -/

namespace Classification

/-- What the second confinement admits, the first one admits as well. -/
def Admits (wide narrow : Option (List N)) : Prop :=
  match wide, narrow with
  | none, _ => True
  | some _, none => False
  | some all, some few => few ⊆ all

def patterns (classification : Classification N) : List Pattern :=
  classification.candidates.map Candidate.pattern

theorem needsStyles_eq (classification : Classification N) :
    classification.needsStyles =
      classification.patterns.any fun pattern => pattern.dependencies.style := by
  rw [patterns, List.any_map]
  rfl

/-- With more candidates, styles are needed all the more. -/
theorem needsStyles_of_sublist {part whole : Classification N}
    (h : part.patterns.Sublist whole.patterns) (hneeds : part.needsStyles = true) :
    whole.needsStyles = true := by
  rw [needsStyles_eq] at hneeds ⊢
  obtain ⟨pattern, hpattern, hstyle⟩ := List.any_eq_true.mp hneeds
  exact List.any_eq_true.mpr ⟨pattern, h.subset hpattern, hstyle⟩

variable [DecidableEq N]

omit [DecidableEq N] in
theorem patterns_everything (registered : List Pattern) :
    (everything registered : Classification N).patterns = registered := by
  simp [patterns, everything, Function.comp_def]

theorem patterns_ofChanges (registered : List Pattern) (sheetsChanged : Bool)
    (changes : List (Mutation N)) :
    (ofChanges registered sheetsChanged changes).patterns =
      affected registered sheetsChanged changes := by
  simp [patterns, ofChanges, partialCandidates, Function.comp_def]

/-- The candidates are registered patterns, in the order of their registration, each once. -/
theorem patterns_sublist (registered : List Pattern) (request : Request S N) :
    (ofRequest registered request).patterns.Sublist registered := by
  cases request with
  | full =>
    rw [ofRequest, patterns_everything]
  | partly sheets changes =>
    rw [ofRequest, patterns_ofChanges]
    exact List.filter_sublist

/-! ### Asking for more -/

omit [DecidableEq N] in
theorem affectedByBatch_mono {pattern : Pattern} {changes moreChanges : List (Mutation N)}
    (hchanges : changes ⊆ moreChanges) (h : pattern.affectedByBatch changes = true) :
    pattern.affectedByBatch moreChanges = true := by
  obtain ⟨record, hrecord, hkind⟩ := List.any_eq_true.mp h
  exact List.any_eq_true.mpr ⟨record, hchanges hrecord, hkind⟩

section Partly

variable {registered : List Pattern} {sheetsChanged moreSheetsChanged : Bool}
  {changes moreChanges : List (Mutation N)}

omit [DecidableEq N] in
/-- What the changes can affect, more changes can affect. -/
theorem affected_mono (hsheets : sheetsChanged = true → moreSheetsChanged = true)
    (hchanges : changes ⊆ moreChanges) :
    (affected registered sheetsChanged changes).Sublist
      (affected registered moreSheetsChanged moreChanges) := by
  refine List.monotone_filter_right registered fun pattern h => ?_
  rcases Bool.or_eq_true _ _ ▸ h with hstyle | hbatch
  · obtain ⟨hnew, hdepends⟩ := Bool.and_eq_true _ _ ▸ hstyle
    simp [hsheets hnew, hdepends]
  · simp [affectedByBatch_mono hchanges hbatch]

theorem targets_mono (hchanges : changes ⊆ moreChanges) :
    Mutation.targets changes ⊆ Mutation.targets moreChanges := by
  intro n hn
  obtain ⟨record, hrecord, htouched⟩ := Mutation.mem_targets.mp hn
  exact Mutation.mem_targets.mpr ⟨record, hchanges hrecord, htouched⟩

/-- Where something is asked for, more changes confine less. -/
theorem admits_confinement (hsheets : sheetsChanged = true → moreSheetsChanged = true)
    (hchanges : changes ⊆ moreChanges) (hsome : sheetsChanged = true ∨ changes ≠ []) :
    Admits (confinement moreSheetsChanged moreChanges) (confinement sheetsChanged changes) := by
  unfold confinement
  by_cases hwide : (moreSheetsChanged || moreChanges.isEmpty) = true
  · rw [if_pos hwide]
    trivial
  · have hnew : sheetsChanged = false := by
      cases hsheetsChanged : sheetsChanged with
      | false => rfl
      | true => simp [hsheets hsheetsChanged] at hwide
    have hne : changes ≠ [] := hsome.resolve_left (by simp [hnew])
    rw [if_neg hwide, if_neg (by simp [hnew, hne])]
    exact targets_mono hchanges

/-- A candidate stays confined to less than one of the same pattern with more changes. -/
theorem admits_targets (hsheets : sheetsChanged = true → moreSheetsChanged = true)
    (hchanges : changes ⊆ moreChanges) {narrow wide : Candidate N}
    (hnarrow : narrow ∈ partialCandidates registered sheetsChanged changes)
    (hwide : wide ∈ partialCandidates registered moreSheetsChanged moreChanges)
    (hpattern : wide.pattern = narrow.pattern) : Admits wide.targets narrow.targets := by
  obtain ⟨pattern, haffected, rfl⟩ := List.mem_map.mp hnarrow
  obtain ⟨same, -, rfl⟩ := List.mem_map.mp hwide
  obtain rfl : same = pattern := hpattern
  by_cases hsiblings : same.dependencies.siblings = true
  · simp only [hsiblings, if_true]
    trivial
  · simp only [hsiblings]
    refine admits_confinement hsheets hchanges ?_
    -- A pattern that is affected is so by new sheets or by some change.
    rcases Bool.or_eq_true _ _ ▸ (List.mem_filter.mp haffected).2 with hstyle | hbatch
    · exact .inl (Bool.and_eq_true _ _ ▸ hstyle).1
    · refine .inr fun hnone => ?_
      simp [Pattern.affectedByBatch, hnone] at hbatch

end Partly

/-! ### Mergers -/

variable {registered : List Pattern} {page : Page N S} {whole part : Request S N}

/-- A run for the whole request does all that a run for the part does. -/
structure Covers (registered : List Pattern) (page : Page N S) (whole part : Request S N) :
    Prop where
  /-- It has the candidates of the part, in their order. -/
  patterns : (ofRequest registered part).patterns.Sublist (ofRequest registered whole).patterns
  /-- It looks for them wherever the part does. -/
  targets : ∀ narrow ∈ (ofRequest registered part).candidates,
    ∀ wide ∈ (ofRequest registered whole).candidates,
      wide.pattern = narrow.pattern → Admits wide.targets narrow.targets
  full : (ofRequest registered part).full = true → (ofRequest registered whole).full = true
  /-- If the part needs the styles of all sheets, they are all there. -/
  complete : (ofRequest registered part).needsStyles = true →
    (ofRequest registered part).styleScope = .allSheets →
      (ofRequest registered whole).styleScope = .allSheets
  /-- It indexes the sheets of the part, if the page knows of those that are named. -/
  sheets : part.sheets ⊆ page.sheets →
    (ofRequest registered part).indexed page part ⊆
      (ofRequest registered whole).indexed page whole

/-- If all sheets are indexed, then all that any run could index. -/
theorem indexed_subset_of_allSheets {classification : Classification N}
    (hneeds : classification.needsStyles = true → (ofRequest registered whole).needsStyles = true)
    (hscope : (ofRequest registered whole).styleScope = .allSheets)
    (hknown : part.sheets ⊆ page.sheets) :
    classification.indexed page part ⊆ (ofRequest registered whole).indexed page whole := by
  unfold indexed
  by_cases hpart : classification.needsStyles = true
  · rw [if_pos hpart, if_pos (hneeds hpart), hscope]
    cases classification.styleScope with
    | allSheets => exact List.Subset.refl _
    | namedSheets => exact hknown
  · rw [if_neg hpart]
    exact List.nil_subset _

/-- A full run covers any other. -/
theorem covers_full (part : Request S N) : Covers registered page .full part := by
  have hpatterns : (ofRequest registered part).patterns.Sublist
      (ofRequest registered (Request.full : Request S N)).patterns := by
    rw [show (ofRequest registered (Request.full : Request S N)).patterns = registered from
      patterns_everything registered]
    exact patterns_sublist registered part
  exact {
    patterns := hpatterns
    targets narrow _ wide hwide _ := by
      obtain ⟨pattern, -, rfl⟩ := List.mem_map.mp hwide
      trivial
    full _ := rfl
    complete _ _ := rfl
    sheets := indexed_subset_of_allSheets (needsStyles_of_sublist hpatterns) rfl }

/-- The scope takes in all sheets if there are changes, and candidates that need styles. -/
theorem styleScope_ofChanges {sheetsChanged : Bool} {changes : List (Mutation N)} :
    (ofChanges registered sheetsChanged changes).styleScope = .allSheets ↔
      changes ≠ [] ∧ (ofChanges registered sheetsChanged changes).needsStyles = true := by
  unfold ofChanges needsStyles
  cases changes with
  | nil => simp
  | cons change changes => simp

/-- A partial run covers another that is asked for less. -/
theorem covers_partly {sheets moreSheets : List S} {changes moreChanges : List (Mutation N)}
    (hsheets : sheets ⊆ moreSheets) (hchanges : changes ⊆ moreChanges) :
    Covers registered page (.partly moreSheets moreChanges) (.partly sheets changes) := by
  have hnew : (!sheets.isEmpty) = true → (!moreSheets.isEmpty) = true := by
    intro h
    cases sheets with
    | nil => simp at h
    | cons sheet sheets =>
      simpa using List.ne_nil_of_mem (hsheets (List.mem_cons_self))
  have hpatterns : (ofRequest registered (.partly sheets changes)).patterns.Sublist
      (ofRequest registered (.partly moreSheets moreChanges)).patterns := by
    simp only [ofRequest, patterns_ofChanges]
    exact affected_mono hnew hchanges
  have hneeds := needsStyles_of_sublist hpatterns
  have hcomplete : (ofRequest registered (.partly sheets changes)).styleScope = .allSheets →
      (ofRequest registered (.partly moreSheets moreChanges)).styleScope = .allSheets := by
    intro h
    obtain ⟨hne, hstyled⟩ := styleScope_ofChanges.mp h
    refine styleScope_ofChanges.mpr ⟨fun hnone => hne ?_, hneeds hstyled⟩
    exact List.subset_nil.mp (hnone ▸ hchanges)
  exact {
    patterns := hpatterns
    targets narrow hnarrow wide hwide := admits_targets hnew hchanges hnarrow hwide
    full := id
    complete _ := hcomplete
    sheets hknown := by
      cases hscope : (ofRequest registered (.partly moreSheets moreChanges)).styleScope with
      | allSheets => exact indexed_subset_of_allSheets hneeds hscope hknown
      | namedSheets =>
        have hpart : (ofRequest registered (.partly sheets changes)).styleScope = .namedSheets := by
          cases h : (ofRequest registered (.partly sheets changes)).styleScope with
          | allSheets => simp [hcomplete h] at hscope
          | namedSheets => rfl
        unfold indexed
        by_cases hstyled : (ofRequest registered (.partly sheets changes)).needsStyles = true
        · rw [if_pos hstyled, if_pos (hneeds hstyled), hscope, hpart]
          exact hsheets
        · rw [if_neg hstyled]
          exact List.nil_subset _ }

/-- A run that is asked for more covers one that is asked for less. -/
theorem covers_of_within (h : part.Within whole) : Covers registered page whole part := by
  cases h with
  | full => exact covers_full part
  | partly hsheets hchanges => exact covers_partly hsheets hchanges

end Classification

/--
**Coalescing loses no work.**  However requests are grouped, their merger is the same.  The
run for it takes registered patterns in the order of their registration, and covers the run
for each of the requests.
-/
theorem Grouping.covers_merged [DecidableEq N] (registered : List Pattern) (page : Page N S)
    (grouping : Grouping S N) :
    (∀ other : Grouping S N, other.requests = grouping.requests →
      other.merged = grouping.merged) ∧
    (Classification.ofRequest registered grouping.merged).patterns.Sublist registered ∧
    ∀ request ∈ grouping.requests,
      Classification.Covers registered page grouping.merged request := by
  refine ⟨fun other hsame => ?_, Classification.patterns_sublist registered _,
    fun request hrequest => Classification.covers_of_within (within_merged hrequest)⟩
  rw [merged_eq, merged_eq, hsame]

/-- A new style sheet and a change elsewhere: the run for both is not confined to the change. -/
theorem Grouping.covers_merged_sheet_and_change (page : Page Nat Nat) :
    let styled : Pattern := ⟨0, [.properties none], "styled"⟩
    let boxes : Pattern := ⟨1, [.plain "div", .has [.plain "p"]], "boxes"⟩
    let change : Mutation Nat := .childList 2 [3] []
    let grouping : Grouping Nat Nat :=
      .both (.alone (.partly [7] [])) (.alone (.partly [] [change]))
    grouping.merged = .partly [7] [change] ∧
    (Classification.ofRequest [styled, boxes] grouping.merged).candidates =
      [⟨styled, none⟩, ⟨boxes, none⟩] ∧
    Classification.Covers [styled, boxes] page grouping.merged (.partly [] [change]) := by
  intro styled boxes change grouping
  refine ⟨rfl, by with_unfolding_all rfl, ?_⟩
  exact (Grouping.covers_merged [styled, boxes] page grouping).2.2 _ (by
    simp [grouping, Grouping.requests])

end CosmeticFilter
