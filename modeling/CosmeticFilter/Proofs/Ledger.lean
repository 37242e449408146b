/-
What the outside has been told, and what is hidden.

The outside keeps a ledger of its own: it adds the elements of every `hide` and takes away
those of every `unhide`.  A run that is finished says first what it has matched and then
what is shown again.  In its table it goes the other way round: it drops what is shown
again, and then enters what it has matched.

So the ledgers agree but for an element that a run names in both lists, and no run does
this as long as the element is part of the document: then it is kept because it was
matched.  It is different for an element that was matched early in a run and had left the
document when the run was finished.  The outside is told to show it again, and it stays in
the table until some later run drops it.
-/
import Mathlib
import CosmeticFilter.Document.Change
import CosmeticFilter.Proofs.Provenance
import CosmeticFilter.Proofs.Slicing

namespace CosmeticFilter

variable {S N κ : Type}

/-- The element is to be hidden, and the next word is to show it again. -/
def Reversed (effects : List (Effect N)) (n : N) : Prop :=
  ∃ nodes texts shown, [.hide nodes texts, .unhide shown] <:+: effects ∧ n ∈ nodes ∧ n ∈ shown

theorem Reversed.mono {effects more : List (Effect N)} {n : N} (h : Reversed effects n)
    (hmore : effects <:+: more) : Reversed more n := by
  obtain ⟨nodes, texts, shown, hinfix, hmatched, hshown⟩ := h
  exact ⟨nodes, texts, shown, hinfix.trans hmore, hmatched, hshown⟩

variable [DecidableEq N]

/-- The elements that are hidden as far as the outside knows. -/
def told (effects : List (Effect N)) : List N :=
  effects.foldl Effect.replay []

/-- Only decisions are entered in the ledger of the outside. -/
theorem replay_decisions (ledger : List N) (effects : List (Effect N)) :
    (decisions effects).foldl Effect.replay ledger = effects.foldl Effect.replay ledger := by
  unfold decisions
  rw [List.foldl_filter]
  congr 1
  funext ledger effect
  cases effect <;> rfl

/-! ### A run that is finished -/

namespace Run

variable {page : Page N S} {run : Run N} {hidden : MatchTable N} {n : N}

theorem mem_shownAgain :
    n ∈ run.shownAgain page hidden ↔
      ∃ known, (n, known) ∈ hidden ∧ run.keep? page n known = none := by
  simp [shownAgain]

/-- An element that was matched is shown again only if it has left the document. -/
theorem disconnected_of_shownAgain (hmatched : n ∈ run.findings.matched.nodes)
    (hshown : n ∈ run.shownAgain page hidden) : page.isConnected n = false := by
  obtain ⟨known, -, hkeep⟩ := mem_shownAgain.mp hshown
  obtain ⟨found, hfound⟩ := MatchTable.mem_nodes_iff.mp hmatched
  by_contra hconnected
  unfold keep? at hkeep
  rw [if_pos (by simpa using hconnected), hfound] at hkeep
  simp at hkeep

/-- What is shown again is no longer known, and everything else that was hidden is. -/
theorem mem_nodes_retain (hhidden : hidden.Tidy) :
    n ∈ (run.retain page hidden).nodes ↔
      n ∈ hidden.nodes ∧ n ∉ run.shownAgain page hidden := by
  rw [MatchTable.mem_nodes_iff, matches?_retain page run hhidden.nodup]
  constructor
  · rintro ⟨kept, hkept⟩
    obtain ⟨known, hknown, hkeep⟩ := Option.bind_eq_some_iff.mp hkept
    refine ⟨MatchTable.mem_nodes_iff.mpr ⟨known, hknown⟩, fun hshown => ?_⟩
    obtain ⟨other, hother, hnone⟩ := mem_shownAgain.mp hshown
    have hsame := (MatchTable.matches?_of_mem hhidden.nodup hother).symm.trans hknown
    rw [Option.some.inj hsame, hkeep] at hnone
    simp at hnone
  · rintro ⟨hmem, hnot⟩
    obtain ⟨known, hknown⟩ := MatchTable.mem_nodes_iff.mp hmem
    rw [hknown, Option.bind_some]
    refine Option.ne_none_iff_exists'.mp fun hnone => hnot ?_
    exact mem_shownAgain.mpr ⟨known, MatchTable.mem_of_matches? hknown, hnone⟩

/-- The table after a run: what it has matched, and what is not shown again. -/
theorem mem_nodes_hiddenAfter (hhidden : hidden.Tidy) (hmatched : run.findings.matched.Tidy) :
    n ∈ (run.hiddenAfter page hidden).nodes ↔
      n ∈ run.findings.matched.nodes ∨ (n ∈ hidden.nodes ∧ n ∉ run.shownAgain page hidden) := by
  rw [← mem_nodes_retain hhidden, hiddenAfter_eq, MatchTable.mem_nodes_iff,
    matches?_addEntries _ hmatched.nodup, MatchTable.mem_nodes_iff, MatchTable.mem_nodes_iff]
  cases run.findings.matched.matches? n with
  | none => simp
  | some found => simp

/-- The ledger after a run: what is not shown again of what was told and what is told now. -/
theorem mem_replay_effects (hmatched : run.findings.matched.Tidy) (ledger : List N) :
    n ∈ (run.effects page hidden).foldl Effect.replay ledger ↔
      (n ∈ ledger ∨ n ∈ run.findings.matched.nodes) ∧ n ∉ run.shownAgain page hidden := by
  have hselectors : ∀ (selectors texts : List String) (condition : Bool),
      (if condition then [] else [Effect.addSelectors selectors texts]).foldl
        Effect.replay ledger = ledger := by
    intro selectors texts condition
    cases condition <;> rfl
  have hhide : n ∈ (if run.findings.matched.isEmpty then []
        else [Effect.hide run.findings.matched.nodes
          (run.findings.matched.firstTexts.map (·.2))]).foldl Effect.replay ledger ↔
      n ∈ ledger ∨ n ∈ run.findings.matched.nodes := by
    split
    · rename_i hempty
      simp [List.isEmpty_iff.mp hempty, MatchTable.nodes]
    · exact mem_addNew
  have hunhide : ∀ ledger : List N, n ∈ (if (run.shownAgain page hidden).isEmpty then []
        else [Effect.unhide (run.shownAgain page hidden)]).foldl Effect.replay ledger ↔
      n ∈ ledger ∧ n ∉ run.shownAgain page hidden := by
    intro ledger
    split
    · rename_i hempty
      simp [List.isEmpty_iff.mp hempty]
    · simp [Effect.replay]
  simp only [effects, List.foldl_append, MatchTable.firstTexts_nodes hmatched.filled, hselectors]
  rw [← hhide, ← hunhide]
  rfl

/-- An element that a run names in both lists is named in them in one breath. -/
theorem reversed_effects (htidy : run.findings.matched.Tidy)
    (hmatched : n ∈ run.findings.matched.nodes) (hshown : n ∈ run.shownAgain page hidden) :
    Reversed (run.effects page hidden) n := by
  have hsome : run.findings.matched.isEmpty = false := by
    cases hempty : run.findings.matched with
    | nil => simp [hempty, MatchTable.nodes] at hmatched
    | cons => rfl
  have hagain : (run.shownAgain page hidden).isEmpty = false := by
    simpa using List.ne_nil_of_mem hshown
  have hinfix : ∀ (a b : Effect N) (before after : List (Effect N)),
      [a, b] <:+: before ++ [a] ++ [b] ++ after :=
    fun a b before after => ⟨before, after, by simp⟩
  refine ⟨run.findings.matched.nodes, run.findings.matched.firstTexts.map (·.2),
    run.shownAgain page hidden, ?_, hmatched, hshown⟩
  simp only [effects, MatchTable.firstTexts_nodes htidy.filled, hsome, hagain,
    Bool.false_eq_true, if_false]
  exact hinfix _ _ _ _

end Run

/-! ### Both ledgers -/

/-- The ledgers agree, but for elements with an excuse. -/
structure Accord (excused : N → Prop) (effects : List (Effect N)) (hidden : MatchTable N) :
    Prop where
  hidden_of_told : ∀ n ∈ told effects, n ∈ hidden.nodes
  told_of_hidden : ∀ n ∈ hidden.nodes, n ∉ told effects → excused n

namespace Accord

variable {excused : N → Prop} {earlier : List (Effect N)} {hidden : MatchTable N}

theorem mono (h : Accord excused earlier hidden) {more : N → Prop}
    (hmore : ∀ n, excused n → more n) : Accord more earlier hidden where
  hidden_of_told := h.hidden_of_told
  told_of_hidden n hn hnot := hmore n (h.told_of_hidden n hn hnot)

/-- Nothing that matters is told, and the table stays as it is. -/
theorem quiet (h : Accord excused earlier hidden) {effects : List (Effect N)}
    (hquiet : decisions effects = []) : Accord excused (earlier ++ effects) hidden := by
  have hsame : told (earlier ++ effects) = told earlier := by
    unfold told
    rw [List.foldl_append, ← replay_decisions _ effects, hquiet, List.foldl_nil]
  refine ⟨?_, ?_⟩
  · rw [hsame]
    exact h.hidden_of_told
  · rw [hsame]
    exact h.told_of_hidden

/-- **A run that is finished**: the ledgers part only over what is in both of its lists. -/
theorem finished (h : Accord excused earlier hidden) {page : Page N S} {run : Run N}
    (hexcused : ∀ n, page.isConnected n = false → Reversed (run.effects page hidden) n →
      excused n) (hhidden : hidden.Tidy) (hmatched : run.findings.matched.Tidy) :
    Accord excused (earlier ++ run.effects page hidden) (run.hiddenAfter page hidden) := by
  have htold : ∀ n, n ∈ told (earlier ++ run.effects page hidden) ↔
      (n ∈ told earlier ∨ n ∈ run.findings.matched.nodes) ∧
        n ∉ run.shownAgain page hidden := by
    intro n
    unfold told
    rw [List.foldl_append]
    exact Run.mem_replay_effects hmatched _
  refine ⟨?_, ?_⟩
  · intro n hn
    obtain ⟨hn, hnot⟩ := (htold n).mp hn
    refine (Run.mem_nodes_hiddenAfter hhidden hmatched).mpr ?_
    rcases hn with hn | hn
    · exact Or.inr ⟨h.hidden_of_told n hn, hnot⟩
    · exact Or.inl hn
  · intro n hn hnot
    rw [htold] at hnot
    by_cases hagain : n ∈ run.findings.matched.nodes
    · -- Both lists name the element.
      have hshown : n ∈ run.shownAgain page hidden := by
        by_contra hkept
        exact hnot ⟨Or.inr hagain, hkept⟩
      exact hexcused n (Run.disconnected_of_shownAgain hagain hshown)
        (Run.reversed_effects hmatched hagain hshown)
    · -- No list names it, so the ledgers disagreed before.
      obtain ⟨hbefore, hkept⟩ :=
        ((Run.mem_nodes_hiddenAfter hhidden hmatched).mp hn).resolve_left hagain
      exact h.told_of_hidden n hbefore fun hn => hnot ⟨Or.inl hn, hkept⟩

end Accord

/-! ### Over a history -/

namespace Engine

variable [Clock κ]

/-- **Moves keep the ledgers in accord.** -/
theorem Moves.accord {page : Page N S} {excused : N → Prop} {engine other : Engine S N κ}
    {effects : List (Effect N)} (h : Moves page engine effects other)
    (hexcused : ∀ n, page.isConnected n = false → Reversed effects n → excused n)
    {known : Pattern → Prop} (hconsistent : Consistent known engine)
    {earlier : List (Effect N)} (haccord : Accord excused earlier engine.hidden) :
    Accord excused (earlier ++ effects) other.hidden := by
  induction h generalizing earlier with
  | tells _ hquiet => exact haccord.quiet hquiet
  | sliced => exact haccord.quiet (decisions_notes _)
  | retimed | waits | queues | begins => exact haccord.quiet rfl
  | finished hphase =>
    have hrun := hconsistent.running _ _ hphase
    exact haccord.finished hexcused hconsistent.tidy hrun.findings.tidy
  | append h _ ih ihlast =>
    rw [← List.append_assoc]
    refine ihlast (fun n hgone hreversed => ?_) (hconsistent.moves h)
      (ih (fun n hgone hreversed => ?_) hconsistent haccord)
    · exact hexcused n hgone (hreversed.mono (List.suffix_append ..).isInfix)
    · exact hexcused n hgone (hreversed.mono (List.prefix_append ..).isInfix)

/-- A call had the element hidden and shown again, when it was no part of the document. -/
def TakenBack (engine : Engine S N κ) (events : List (Event S N κ)) (n : N) : Prop :=
  ∃ before page call after, events = before ++ .called page call :: after ∧
    page.isConnected n = false ∧
    Reversed ((engine.meetAll before).engine.call page call).effects n

theorem TakenBack.later {engine : Engine S N κ} {events : List (Event S N κ)} {n : N}
    (h : TakenBack engine events n) (event : Event S N κ) :
    TakenBack engine (events ++ [event]) n := by
  obtain ⟨before, page, call, after, rfl, hgone, hreversed⟩ := h
  exact ⟨before, page, call, after ++ [event], by simp, hgone, hreversed⟩

theorem meetAll_accord (config : Config) (clock : κ) (events : List (Event S N κ)) :
    Accord (TakenBack (Engine.new config clock) events)
      ((Engine.new config clock).meetAll events).effects
      ((Engine.new config clock).meetAll events).engine.hidden := by
  induction events using List.reverseRecOn with
  | nil =>
    refine ⟨?_, ?_⟩
    · simp [told, meetAll, Outcome.quiet]
    · simp [meetAll, Outcome.quiet, Engine.new, MatchTable.nodes]
  | append_singleton events event ih =>
    have hmore := ih.mono fun n hn => hn.later event
    rw [meetAll_concat]
    cases event with
    | configured config => exact hmore.quiet rfl
    | clockMoved clock => exact hmore.quiet rfl
    | called page call =>
      obtain ⟨known, hconsistent⟩ := meetAll_consistent config clock events
      obtain ⟨more, hheard⟩ := hconsistent.heard call
      refine (call_moves page _ call).accord (fun n hgone hreversed => ?_) hheard ?_
      · exact ⟨events, page, call, [], rfl, hgone, hreversed⟩
      · rw [heard_hidden]
        exact hmore

/--
**What the outside was told is what is hidden, but for what is taken back.**  Replaying all
effects of any history gives hidden elements only.  For a hidden element that the replay
does not give there was a call that had it hidden and shown again in one breath, when it was
no part of the document.
-/
theorem hidden_agrees_with_told (config : Config) (clock : κ) (events : List (Event S N κ))
    (n : N) :
    let outcome := (Engine.new config clock).meetAll events
    (n ∈ told outcome.effects → n ∈ outcome.engine.hiddenElements) ∧
    (n ∈ outcome.engine.hiddenElements → n ∉ told outcome.effects →
      TakenBack (Engine.new config clock) events n) := by
  have haccord := meetAll_accord config clock events
  exact ⟨haccord.hidden_of_told n, haccord.told_of_hidden n⟩

/-- A document with a box. -/
def singleBox : Document :=
  ((Document.empty "https://example.com/").appendElement 0 "html").appendElement 1 "div"

/-- A box is hidden; while all is filtered again it is matched once more, and then removed. -/
def boxRemoved : List (Event Nat Nat ManualClock) :=
  [.called singleBox.page (.apply [⟨"div", "boxes"⟩]),
    .called singleBox.page .resume, .called singleBox.page .resume,
    .called singleBox.page .resume, .called singleBox.page (.request .full),
    .called (singleBox.change (.remove 2)).page .resume,
    .called (singleBox.change (.remove 2)).page .resume,
    .called (singleBox.change (.remove 2)).page .resume]

set_option maxRecDepth 20000 in
/-- The removed box is to be shown again, as the outside was told, and yet it is still hidden. -/
theorem removed_box_stays_hidden :
    let outcome := (Engine.new ⟨.zero, .zero, false, .never⟩
      (.ticking (.ofMilliseconds 1))).meetAll boxRemoved
    outcome.engine.hiddenElements = [2] ∧ told outcome.effects = [] := by
  cbv

end Engine

end CosmeticFilter
