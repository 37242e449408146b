/-
What a completed run has hidden.

The hits of a run come one after the other, and each goes into the entry of its element, or
opens one at the end of the table.  So the elements of the table stand in the order in which
they were hit first, and at the head of an entry stays the pattern of its first hit.  As
candidates are evaluated one after the other, this is the first of them that matches the
element.  The run is finished with the table as a whole: it is reported once, and what is
new in it comes behind the elements that stay hidden.
-/
import CosmeticFilter.Proofs.Completion
import CosmeticFilter.Proofs.Ledger
import CosmeticFilter.Proofs.Modes

namespace CosmeticFilter

/-! ### Lists of elements, each once -/

section Lists

variable {N : Type} [DecidableEq N]

theorem addNew_cons (nodes more : List N) (n : N) :
    addNew nodes (n :: more) = addNew (if n ∈ nodes then nodes else nodes ++ [n]) more := by
  simp only [addNew, List.foldl_cons, List.contains_iff_mem]

/-- Where nothing is repeated, what is new is appended as it stands. -/
theorem addNew_of_nodup (nodes : List N) {more : List N} (h : more.Nodup) :
    addNew nodes more = nodes ++ more.filter fun n => !nodes.contains n := by
  induction more generalizing nodes with
  | nil => simp [addNew]
  | cons n more ih =>
    obtain ⟨hfirst, hrest⟩ := List.nodup_cons.mp h
    rw [addNew_cons, ih _ hrest]
    by_cases hn : n ∈ nodes
    · simp [hn]
    · have hsame : (more.filter fun m => !(nodes ++ [n]).contains m) =
          more.filter fun m => !nodes.contains m := by
        refine List.filter_congr fun m hm => ?_
        have hne : m ≠ n := fun heq => hfirst (heq ▸ hm)
        simp [hne]
      simp only [hn, if_false, hsame, List.filter_cons, List.append_assoc]
      simp [hn]

end Lists

/-! ### A table of hits -/

section Tables

variable {N : Type} [DecidableEq N]

/-- The elements of a table are in the order of their first hits. -/
theorem nodes_foldl_enter (hits : List (Hit N)) (table : MatchTable N) :
    (hits.foldl Hit.enter table).nodes = addNew table.nodes (hits.map (·.node)) := by
  induction hits generalizing table with
  | nil => rfl
  | cons hit hits ih =>
    rw [List.foldl_cons, ih, List.map_cons, addNew_cons, Hit.enter, MatchTable.nodes_update]

namespace MatchTable

/-- The pattern that is held responsible for an element. -/
def first? (table : MatchTable N) (n : N) : Option Pattern :=
  (table.matches? n).bind fun list => list.head?.map (·.pattern)

theorem head_enter (pattern : Pattern) (anchors : List N) (list : List (Match N)) :
    (Match.enter pattern anchors list).head?.map (·.pattern) =
      (list.head?.map (·.pattern)).or (some pattern) := by
  cases list with
  | nil => rfl
  | cons m rest =>
    rw [Match.enter]
    split <;> rfl

/-- Only the first hit of an element decides on its pattern. -/
theorem first?_enter (table : MatchTable N) (hit : Hit N) (n : N) :
    first? (hit.enter table) n =
      (table.first? n).or (if hit.node = n then some hit.pattern else none) := by
  unfold first? Hit.enter
  rw [matches?_update]
  by_cases hn : n = hit.node
  · subst hn
    rw [if_pos rfl, if_pos rfl, Option.bind_some, head_enter]
    cases table.matches? hit.node <;> rfl
  · rw [if_neg hn, if_neg (Ne.symm hn), Option.or_none]

theorem first?_foldl_enter (hits : List (Hit N)) (table : MatchTable N) (n : N) :
    first? (hits.foldl Hit.enter table) n =
      (table.first? n).or ((hits.find? (·.node = n)).map (·.pattern)) := by
  induction hits generalizing table with
  | nil => simp
  | cons hit hits ih =>
    rw [List.foldl_cons, ih, first?_enter, List.find?_cons, Option.or_assoc]
    by_cases hn : hit.node = n
    · simp [hn]
    · simp [hn]

/-- The text beside an element is that of the pattern held responsible for it. -/
theorem first?_of_mem_firstTexts {table : MatchTable N} (hnodup : table.nodes.Nodup) {n : N}
    {text : String} (h : (n, text) ∈ table.firstTexts) :
    ∃ pattern, table.first? n = some pattern ∧ pattern.text = text := by
  obtain ⟨⟨k, list⟩, hmem, hfirst⟩ := List.mem_filterMap.mp h
  obtain ⟨m, hhead, heq⟩ := Option.map_eq_some_iff.mp hfirst
  obtain ⟨rfl, rfl⟩ := Prod.mk.inj heq
  refine ⟨m.pattern, ?_, rfl⟩
  rw [first?, matches?_of_mem hnodup hmem, Option.bind_some]
  show list.head?.map (·.pattern) = some m.pattern
  rw [show list.head? = some m from hhead]
  rfl

end MatchTable

end Tables

/-! ### The list that is reported -/

section Reported

variable {N S : Type} [DecidableEq N]

/--
The elements that the selectors yielded for a candidate resolve to, in order and as often as
they come up.  There are none if its selectors are reported as they stand.
-/
def Candidate.resolved (config : Config) (page : Page N S) (styles : List Style)
    (candidate : Candidate N) : List N :=
  if config.hidesBySelector candidate.pattern then []
  else (founds (Run.candidateItems page styles candidate)).flatMap fun found =>
    (page.queryAll page.document found.1).toOption.getD []

/-- A selector that a pull yields for a candidate resolves to the element. -/
def Candidate.Yields (config : Config) (page : Page N S) (styles : List Style)
    (candidate : Candidate N) (n : N) : Prop :=
  config.hidesBySelector candidate.pattern = false ∧ ∃ limit selector anchors nodes,
    .found selector anchors ∈ (Evaluation.pulls ⟨page, styles, candidate.targets⟩ limit
      (.start styles candidate.pattern.chain "" page.document)).1 ∧
    page.queryAll page.document selector = .ok nodes ∧ n ∈ nodes

theorem Candidate.mem_resolved {config : Config} {page : Page N S} {styles : List Style}
    {candidate : Candidate N} {n : N} :
    n ∈ candidate.resolved config page styles ↔ candidate.Yields config page styles n := by
  unfold resolved Yields
  by_cases hreported : config.hidesBySelector candidate.pattern = true
  · simp [hreported]
  · rw [if_neg hreported, List.mem_flatMap]
    simp only [Bool.not_eq_true] at hreported
    constructor
    · rintro ⟨⟨selector, anchors⟩, hfound, hn⟩
      obtain ⟨limit, hpulled⟩ := Evaluation.exists_pulls_iff.mpr hfound
      cases hquery : page.queryAll page.document selector with
      | error e => simp [hquery, Except.toOption] at hn
      | ok nodes =>
        refine ⟨hreported, limit, selector, anchors, nodes, hpulled, hquery, ?_⟩
        simpa [hquery, Except.toOption] using hn
    · rintro ⟨-, limit, selector, anchors, nodes, hpulled, hquery, hn⟩
      refine ⟨(selector, anchors), Evaluation.exists_pulls_iff.mp ⟨limit, hpulled⟩, ?_⟩
      rw [hquery]
      exact hn

/-- The hits of a candidate are at the elements that its selectors resolve to. -/
theorem Hit.map_node_ofCandidate (config : Config) (page : Page N S) (styles : List Style)
    (candidate : Candidate N) :
    (Hit.ofCandidate config page styles candidate).map (·.node) =
      candidate.resolved config page styles := by
  unfold Hit.ofCandidate Candidate.resolved
  generalize Run.candidateItems page styles candidate = items
  by_cases hreported : config.hidesBySelector candidate.pattern = true
  · have hnone : ∀ item : Item N, Hit.ofItem config page candidate.pattern item = [] := by
      intro item
      cases item <;> simp [Hit.ofItem, hreported]
    simp [hnone, hreported]
  · rw [if_neg hreported]
    induction items with
    | nil => rfl
    | cons item items ih =>
      rw [List.flatMap_cons, List.map_append, ih]
      cases item with
      | pause => rfl
      | found selector anchors =>
        have hhits : (Hit.ofItem config page candidate.pattern (.found selector anchors)).map
            (·.node) = (page.queryAll page.document selector).toOption.getD [] := by
          simp [Hit.ofItem, hreported, Function.comp_def]
        rw [hhits]
        rfl

/-- The list has what the candidates resolve to, and beside each element the text of the first
candidate that resolves to it. -/
structure FirstMatches (candidates : List (Candidate N)) (resolved : Candidate N → List N)
    (list : List (N × String)) : Prop where
  nodup : (list.map (·.1)).Nodup
  /-- The elements are in the order in which they come up first. -/
  order : list.map (·.1) = addNew [] (candidates.flatMap resolved)
  text : ∀ n text, (n, text) ∈ list → ∃ before candidate after,
    candidates = before ++ candidate :: after ∧ candidate.pattern.text = text ∧
      n ∈ resolved candidate ∧ ∀ earlier ∈ before, n ∉ resolved earlier

/-- **What a run has matched is listed under the first matches.** -/
theorem firstMatches_of_hits {candidates : List (Candidate N)} {hits : Candidate N → List (Hit N)}
    (hpattern : ∀ candidate, ∀ hit ∈ hits candidate, hit.pattern = candidate.pattern) :
    FirstMatches candidates (fun candidate => (hits candidate).map (·.node))
      ((candidates.flatMap hits).foldl Hit.enter []).firstTexts := by
  have hcollects := collects_foldl (candidates.flatMap hits)
  have hnodes := MatchTable.firstTexts_nodes hcollects.tidy.filled
  refine ⟨?_, ?_, ?_⟩
  · rw [hnodes]
    exact hcollects.tidy.nodup
  · rw [hnodes, nodes_foldl_enter, List.map_flatMap]
    rfl
  · intro n text htext
    obtain ⟨pattern, hfirst, rfl⟩ :=
      MatchTable.first?_of_mem_firstTexts hcollects.tidy.nodup htext
    rw [MatchTable.first?_foldl_enter, List.find?_flatMap] at hfirst
    have hsome : ((candidates.findSome? fun candidate =>
        (hits candidate).find? (·.node = n)).map (·.pattern)) = some pattern := hfirst
    obtain ⟨hit, hhit, rfl⟩ := Option.map_eq_some_iff.mp hsome
    obtain ⟨before, candidate, after, heq, hfound, hearlier⟩ :=
      List.findSome?_eq_some_iff.mp hhit
    have hmem := List.mem_of_find?_eq_some hfound
    have hnode : hit.node = n := by simpa using List.find?_some hfound
    refine ⟨before, candidate, after, heq, ?_, ?_, ?_⟩
    · rw [hpattern candidate hit hmem]
    · exact List.mem_map.mpr ⟨hit, hmem, hnode⟩
    · intro earlier hbefore hn
      obtain ⟨other, hother, rfl⟩ := List.mem_map.mp hn
      have hnone := List.find?_eq_none.mp (hearlier earlier hbefore) other hother
      simp at hnone

end Reported

/-! ### The table and the effects of a run -/

namespace Run

variable {N S : Type} [DecidableEq N]

theorem nodes_addEntries_eq (table found : MatchTable N) :
    (addEntries table found).nodes = addNew table.nodes found.nodes := by
  induction found generalizing table with
  | nil => rfl
  | cons entry rest ih =>
    have hstep : addEntries table (entry :: rest) =
        addEntries (table.update entry.1 (Match.addPatterns · entry.2)) rest := rfl
    have hnodes : MatchTable.nodes (entry :: rest) = entry.1 :: MatchTable.nodes rest := rfl
    rw [hstep, ih, MatchTable.nodes_update, hnodes, addNew_cons]

variable {page : Page N S} {run : Run N} {hidden : MatchTable N}

/-- What stays hidden stays where it was. -/
theorem nodes_retain_eq (hnodup : hidden.nodes.Nodup) :
    (run.retain page hidden).nodes =
      hidden.nodes.filter fun n => !(run.shownAgain page hidden).contains n := by
  induction hidden with
  | nil => rfl
  | cons entry rest ih =>
    obtain ⟨k, known⟩ := entry
    obtain ⟨hfirst, hrest⟩ := List.nodup_cons.mp hnodup
    have hnodes : ∀ (list : List (Match N)) (table : MatchTable N),
        MatchTable.nodes ((k, list) :: table) = k :: table.nodes := fun _ _ => rfl
    have hrestshown : ∀ n ∈ run.shownAgain page rest, n ∈ MatchTable.nodes rest := by
      intro n hn
      obtain ⟨list, hlist, -⟩ := mem_shownAgain.mp hn
      exact List.mem_map.mpr ⟨(n, list), hlist, rfl⟩
    rw [retain_cons, hnodes, List.filter_cons]
    cases hkeep : run.keep? page k known with
    | none =>
      have hshown : run.shownAgain page ((k, known) :: rest) =
          k :: run.shownAgain page rest := by
        simp [shownAgain, hkeep]
      have hsame : (MatchTable.nodes rest).filter
            (fun n => !(k :: run.shownAgain page rest).contains n) =
          (MatchTable.nodes rest).filter fun n => !(run.shownAgain page rest).contains n := by
        refine List.filter_congr fun n hn => ?_
        have hne : n ≠ k := fun heq => hfirst (heq ▸ hn)
        simp [hne]
      rw [hshown, hsame, ih hrest]
      simp
    | some kept =>
      have hshown : run.shownAgain page ((k, known) :: rest) = run.shownAgain page rest := by
        simp [shownAgain, hkeep]
      have hkept : k ∉ run.shownAgain page rest := fun hk => hfirst (hrestshown k hk)
      rw [hshown]
      simp [hkept, hnodes, ih hrest]

/--
**The order of the hidden elements after a run**: those that are not shown again, as they
stood, and behind them what has been matched and was not hidden, as it was matched.
-/
theorem nodes_hiddenAfter (hhidden : hidden.nodes.Nodup) (hmatched : run.findings.matched.Tidy)
    (hconnected : ∀ n ∈ run.findings.matched.nodes, page.isConnected n = true) :
    (run.hiddenAfter page hidden).nodes =
      (hidden.nodes.filter fun n => !(run.shownAgain page hidden).contains n) ++
        run.findings.matched.nodes.filter fun n => !hidden.nodes.contains n := by
  rw [hiddenAfter_eq, nodes_addEntries_eq, nodes_retain_eq hhidden,
    addNew_of_nodup _ hmatched.nodup]
  congr 1
  refine List.filter_congr fun n hn => ?_
  -- What is matched is connected, so it is not shown again.
  have hkept : n ∉ run.shownAgain page hidden := fun hshown => by
    have hgone := disconnected_of_shownAgain hn hshown
    rw [hconnected n hn] at hgone
    simp at hgone
  simp [hkept]

theorem filter_isHide_effects (hmatched : run.findings.matched.Tidy) :
    (run.effects page hidden).filter Effect.isHide =
      if run.findings.matched.firstTexts.isEmpty then []
      else [.hide (run.findings.matched.firstTexts.map (·.1))
        (run.findings.matched.firstTexts.map (·.2))] := by
  have hempty : run.findings.matched.firstTexts.isEmpty = run.findings.matched.isEmpty := by
    have hnodes := congrArg List.length (MatchTable.firstTexts_nodes hmatched.filled)
    rw [List.length_map, MatchTable.nodes, List.length_map] at hnodes
    rw [Bool.eq_iff_iff, List.isEmpty_iff_length_eq_zero, List.isEmpty_iff_length_eq_zero, hnodes]
  unfold effects
  simp only [hempty]
  split <;> split <;> split <;> simp [Effect.isHide, List.filter_cons]

end Run

/-- The elements that an effect has shown again. -/
def Effect.shown {N : Type} : Effect N → List N
  | .unhide nodes => nodes
  | _ => []

theorem Run.shown_effects {N S : Type} [DecidableEq N] (page : Page N S) (run : Run N)
    (hidden : MatchTable N) :
    (run.effects page hidden).flatMap Effect.shown = run.shownAgain page hidden := by
  unfold effects
  simp only
  split <;> split <;> split <;> simp_all [Effect.shown]

theorem filter_decisions {N : Type} {effects : List (Effect N)} {p : Effect N → Bool}
    (hp : ∀ {effect}, p effect = true → effect.isDecision = true) :
    (decisions effects).filter p = effects.filter p := by
  unfold decisions
  rw [List.filter_filter]
  refine List.filter_congr fun effect _ => ?_
  rw [Bool.eq_iff_iff, Bool.and_eq_true, and_iff_left_iff_imp]
  exact hp

/-- To show again is a decision. -/
theorem shown_decisions {N : Type} (effects : List (Effect N)) :
    (decisions effects).flatMap Effect.shown = effects.flatMap Effect.shown := by
  induction effects with
  | nil => rfl
  | cons effect effects ih =>
    rw [List.flatMap_cons, ← ih]
    cases effect <;> rfl

/-! ### Completed runs -/

namespace Engine

variable {S N κ : Type} [DecidableEq N] [Clock κ]

/-- Some history leads to the engine, be it only in the middle of a call. -/
def Visited (engine : Engine S N κ) : Prop :=
  ∃ (config : Config) (clock : κ) (events : List (Event S N κ)) (page : Page N S)
    (call : Call S N) (effects : List (Effect N)),
    Moves page (((Engine.new config clock).meetAll events).engine.heard call) effects engine

theorem Visited.tidy {engine : Engine S N κ} (h : engine.Visited) : engine.hidden.Tidy := by
  obtain ⟨config, clock, events, page, call, effects, hmoves⟩ := h
  obtain ⟨known, hconsistent⟩ := meetAll_consistent config clock events
  obtain ⟨more, hheard⟩ := hconsistent.heard call
  exact (hheard.moves hmoves).tidy

omit [Clock κ] in
/-- What the run of a request matches is connected. -/
theorem connected_of_mem_matched {page : Page N S} (h : page.Lawful) {engine : Engine S N κ}
    {request : Request S N} {n : N}
    (hn : n ∈ (engine.runOf page request).findings.matched.nodes) : page.isConnected n = true := by
  obtain ⟨hit, hhit, rfl⟩ := (runOf_collects page engine request).mem_nodes.mp hn
  exact connected_of_mem_hits h (mem_hitsOf.mp (runHits_subset h hhit)).2

/-- The candidates of a run are patterns of the engine, in the order of their registration. -/
theorem candidates_sublist (patterns : List Pattern) (request : Request S N) :
    ((Classification.ofRequest patterns request).candidates.map (·.pattern)).Sublist
      patterns := by
  cases request with
  | full => simp [Classification.ofRequest, Classification.everything, Function.comp_def]
  | partly sheets changes =>
    simp only [Classification.ofRequest, Classification.ofChanges,
      Classification.partialCandidates, List.map_map, Function.comp_def, List.map_id']
    exact List.filter_sublist

/--
**A completed run hides each match once, under its first filter.**  The run of a request may
be completed in whatever slices, as long as the document does not change.  Then at most one
effect hides anything, and not the empty list.  The list has no element twice and just the
elements that the selectors yielded for a candidate resolve to, in the order in which they
come up first, each with the text of the first candidate that matches it; and candidates
come as they were registered.  The hidden elements that are not shown again keep their order,
and behind them stand those of the list that were not hidden before.
-/
theorem completed_run_hides_once (doc : Document) {engine : Engine Nat Nat κ}
    (hvisited : engine.Visited) (request : Request Nat Nat) {last : Outcome Nat Nat κ}
    (h : Completion doc.page (engine.startRun doc.page request) last) :
    let classification := Classification.ofRequest engine.patterns request
    let styles := (runStyles doc.page request classification).1
    (classification.candidates.map (·.pattern)).Sublist engine.patterns ∧
    ∃ list : List (Nat × String),
      FirstMatches classification.candidates
        (Candidate.resolved engine.config doc.page styles) list ∧
      (∀ n, n ∈ list.map (·.1) ↔ ∃ candidate ∈ classification.candidates,
        candidate.Yields engine.config doc.page styles n) ∧
      last.effects.filter Effect.isHide =
        (if list.isEmpty then [] else [.hide (list.map (·.1)) (list.map (·.2))]) ∧
      last.engine.hiddenElements =
        (engine.hiddenElements.filter fun n =>
          !(last.effects.flatMap Effect.shown).contains n) ++
        (list.map (·.1)).filter fun n => !engine.hiddenElements.contains n := by
  intro classification styles
  refine ⟨candidates_sublist engine.patterns request, ?_⟩
  let run := engine.runOf doc.page request
  have hcollects := runOf_collects doc.page engine request
  obtain ⟨hhidden, hdecisions⟩ := h.startRun
  have hnodes := MatchTable.firstTexts_nodes hcollects.tidy.filled
  have hfirst : FirstMatches classification.candidates
      (Candidate.resolved engine.config doc.page styles) run.findings.matched.firstTexts := by
    have hmatched : run.findings.matched = (classification.candidates.flatMap
        (Hit.ofCandidate engine.config doc.page styles)).foldl Hit.enter [] :=
      Run.completed_hits engine.config doc.page classification styles
    have hpattern : ∀ candidate, ∀ hit ∈ Hit.ofCandidate engine.config doc.page styles candidate,
        hit.pattern = candidate.pattern := fun _ _ hhit => (Hit.mem_ofCandidate.mp hhit).1
    have hlisted : FirstMatches classification.candidates _ _ := firstMatches_of_hits hpattern
    simp only [Hit.map_node_ofCandidate] at hlisted
    rw [hmatched]
    exact hlisted
  refine ⟨run.findings.matched.firstTexts, hfirst, ?_, ?_, ?_⟩
  · intro n
    rw [hfirst.order, mem_addNew, List.mem_flatMap]
    simp only [List.not_mem_nil, false_or, Candidate.mem_resolved]
  · rw [← filter_decisions Effect.isDecision_of_isHide, hdecisions,
      filter_decisions Effect.isDecision_of_isHide]
    exact Run.filter_isHide_effects hcollects.tidy
  · have hshown : last.effects.flatMap Effect.shown = run.shownAgain doc.page engine.hidden := by
      rw [← shown_decisions, hdecisions, shown_decisions, Run.shown_effects]
    rw [hshown, hnodes, hiddenElements, hhidden]
    exact Run.nodes_hiddenAfter hvisited.tidy.nodup hcollects.tidy
      fun n hn => connected_of_mem_matched doc.page_lawful hn

/-- Two filters, the second of which matches what the first one does and more. -/
def blockSources : List PatternSource :=
  [⟨"div", "boxes"⟩, ⟨"p, div", "blocks"⟩]

set_option maxRecDepth 20000 in
/-- The box that both filters match is hidden once, for the first of them. -/
theorem completed_run_hides_once_blocks :
    let engine : Engine Nat Nat PausedClock :=
      (Engine.new Config.default ⟨.zero⟩).given blockSources
    engine.Visited ∧
    (∃ last, Completion boxDocument.page (engine.startRun boxDocument.page .full) last) ∧
    ∀ last, Completion boxDocument.page (engine.startRun boxDocument.page .full) last →
      last.effects.filter Effect.isHide = [.hide [2, 3] ["boxes", "blocks"]] ∧
        last.engine.hiddenElements = [2, 3] := by
  intro engine
  have hvisited : engine.Visited :=
    ⟨Config.default, ⟨.zero⟩, [], boxDocument.page, .apply blockSources, [], .tells _ rfl⟩
  refine ⟨hvisited, exists_completion boxDocument.page engine .full, ?_⟩
  intro last hlast
  let boxes : Candidate Nat := ⟨⟨0, [.plain "div"], "boxes"⟩, none⟩
  let blocks : Candidate Nat := ⟨⟨1, [.plain "p, div"], "blocks"⟩, none⟩
  have hpatterns : engine.patterns = [boxes.pattern, blocks.pattern] := by cbv
  have hboxes : boxes.resolved Config.default boxDocument.page [] = [2] := by cbv
  have hblocks : blocks.resolved Config.default boxDocument.page [] = [2, 3] := by cbv
  obtain ⟨-, list, hfirst, -, hhide, hhidden⟩ :=
    completed_run_hides_once boxDocument hvisited .full hlast
  rw [hpatterns] at hfirst
  have hcandidates : FirstMatches [boxes, blocks]
      (Candidate.resolved Config.default boxDocument.page []) list := hfirst
  have horder : list.map (·.1) = [2, 3] := by
    rw [hcandidates.order, List.flatMap_cons, List.flatMap_cons, hboxes, hblocks]
    rfl
  obtain ⟨⟨_, text⟩, rest, rfl, rfl, hrest⟩ := List.map_eq_cons_iff.mp horder
  obtain ⟨⟨_, more⟩, none, rfl, rfl, hnone⟩ := List.map_eq_cons_iff.mp hrest
  obtain rfl := List.map_eq_nil_iff.mp hnone
  obtain ⟨before, candidate, after, hsplit, rfl, -, hearlier⟩ :=
    hcandidates.text 2 text (by simp)
  obtain ⟨between, other, behind, hother, rfl, hmatched, -⟩ :=
    hcandidates.text 3 more (by simp)
  have hbox : candidate = boxes := by
    cases before with
    | nil => exact (List.cons.inj hsplit).1.symm
    | cons first before =>
      obtain ⟨rfl, -⟩ := List.cons.inj hsplit
      exact absurd (hboxes ▸ List.mem_singleton.mpr rfl) (hearlier boxes List.mem_cons_self)
  have hblock : other = blocks := by
    cases between with
    | nil =>
      obtain ⟨rfl, -⟩ := List.cons.inj hother
      rw [hboxes] at hmatched
      simp at hmatched
    | cons first between =>
      have hmem : other ∈ [blocks] := by
        rw [(List.cons.inj hother).2]
        simp
      exact List.mem_singleton.mp hmem
  subst hbox hblock
  exact ⟨hhide, hhidden⟩

end Engine

end CosmeticFilter
