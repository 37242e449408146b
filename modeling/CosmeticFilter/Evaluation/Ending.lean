/-
Evaluations end.

However the document changes between two pulls, an evaluation is over after finitely
many of them.  No bound on their number is known in advance, for a frame may ask any
later document for its candidates; but once it has asked, its candidates become fewer,
as do the turns that a search through styles has left, and the arguments and links that
are still to come are parts of the chain.  So the relation between a state and the state
after a pull is well-founded, and loops over pulls may recurse along it.
-/
import CosmeticFilter.Evaluation.Pull

namespace CosmeticFilter.Evaluation

variable {N : Type} [DecidableEq N]

/-- `next` is a state that some pull of `e` leads to. -/
def Follows (next e : Evaluation N) : Prop :=
  e ≠ .finished ∧ ∃ (S : Type) (scene : Scene N S), next = (e.pull scene).next

/-- All pulls of the state, one after the other, come to an end. -/
abbrev Ends (e : Evaluation N) : Prop :=
  Acc Follows e

theorem Ends.of_next {e : Evaluation N} 
    (h : ∀ {S : Type} (scene : Scene N S), Ends (e.pull scene).next) : Ends e :=
  ⟨_, fun _ ⟨_, _, scene, hnext⟩ => hnext ▸ h scene⟩

theorem Ends.next {S : Type} {e : Evaluation N} (h : Ends e) (he : e ≠ .finished)
    (scene : Scene N S) : Ends (e.pull scene).next :=
  h.inv ⟨he, S, scene, rfl⟩

theorem ends_finished : Ends (finished : Evaluation N) :=
  ⟨_, fun _ h => absurd rfl h.1⟩

theorem ends_single (selector : String) : Ends (single selector : Evaluation N) :=
  .of_next fun _ => ends_finished

/-- Refining by these links, on top of frames that end, leads to a state that ends. -/
def DescentEnds (N : Type) [DecidableEq N] (rest : Chain) : Prop :=
  ∀ (S : Type) (scene : Scene N S) (selector : String) (scope : N) (anchors : List N)
    (below : Evaluation N),
    Ends below → Ends (descend scene rest selector scope anchors below).next

/-- Evaluations of this chain end. -/
def StartEnds (N : Type) [DecidableEq N] (chain : Chain) : Prop :=
  ∀ (styles : List Style) (before : String) (scope : N), Ends (start styles chain before scope)

/-! ### Frames -/

section Frames

variable {pos : Position N} {below : Evaluation N}

theorem ends_plain (hrest : DescentEnds N pos.rest) (hbelow : Ends below) (scope : N)
    (pending : Option String) : Ends (plain pos pending scope below) := by
  have hgiven : Ends (plain pos none scope below) := .of_next fun _ => hbelow
  cases pending with
  | none => exact hgiven
  | some selector => exact .of_next fun scene => hrest _ scene _ _ _ _ hgiven

/-- The search has fewer turns left behind every selector. -/
theorem ends_properties (hrest : DescentEnds N pos.rest) (hbelow : Ends below) (scope : N)
    (search : StyleSearch) : Ends (properties pos search scope below) := by
  induction hleft : search.left using Nat.strongRecOn generalizing search with
  | ind count ih =>
    refine .of_next fun scene => ?_
    simp only [pull, pullProperties]
    split
    · exact hbelow
    · rename_i selector later hnext
      have hlater : later.left < count := hleft ▸ StyleSearch.left_of_next hnext
      exact hrest _ scene _ _ _ _ (ih _ hlater later rfl)

theorem ends_contains (hrest : DescentEnds N pos.rest) (hbelow : Ends below)
    (expression : Option Regex) (candidates : Candidates N) (scope : N) (last : Option N) :
    Ends (contains pos expression candidates scope last below) := by
  obtain ⟨selector, root, queue⟩ := candidates
  have hqueue : ∀ (queue : List N) (last : Option N),
      Ends (contains pos expression ⟨selector, root, some queue⟩ scope last below) := by
    intro queue
    induction queue with
    | nil => exact fun last => .of_next fun _ => hbelow
    | cons candidate more ih =>
      refine fun last => .of_next fun scene => ?_
      simp only [pull, pullContains, Candidates.fetch, Pulled.after_next]
      split
      · exact ih last
      · simp only [Pulled.after_next]
        split
        · exact hrest _ _ _ _ _ _ (ih _)
        · exact ih last
  match queue with
  | some queue => exact hqueue queue last
  | none =>
    refine .of_next fun scene => ?_
    simp only [pull, pullContains, Candidates.fetch, Pulled.after_next]
    split
    · exact hbelow
    · split
      · exact hqueue _ _
      · simp only [Pulled.after_next]
        split
        · exact hrest _ _ _ _ _ _ (hqueue _ _)
        · exact hqueue _ _

theorem ends_trying (hrest : DescentEnds N pos.rest) (argument : Chain)
    (candidates : Candidates N) (hhas : Ends (has pos argument candidates below))
    (candidate : N) {inner : Evaluation N} (hinner : Ends inner) :
    Ends (trying pos argument candidates candidate inner below) := by
  induction hinner with
  | intro inner _ ih =>
    refine .of_next fun scene => ?_
    simp only [pull, pullTrying, Pulled.after_next]
    have hnext : ∀ item, (inner.pull scene.unpruned).item = some item →
        Ends (trying pos argument candidates candidate (inner.pull scene.unpruned).next below) := by
      intro item hitem
      refine ih _ ⟨?_, _, scene.unpruned, rfl⟩
      rintro rfl
      simp [pull] at hitem
    split
    · exact hhas
    · exact hnext _ ‹_›
    · split
      · exact hrest _ _ _ _ _ _ hhas
      · exact hnext _ ‹_›
      · exact hnext _ ‹_›

theorem ends_has (hrest : DescentEnds N pos.rest) (hbelow : Ends below) {argument : Chain}
    (hargument : StartEnds N argument) (candidates : Candidates N) :
    Ends (has pos argument candidates below) := by
  obtain ⟨selector, root, queue⟩ := candidates
  have hqueue : ∀ queue : List N, Ends (has pos argument ⟨selector, root, some queue⟩ below) := by
    intro queue
    induction queue with
    | nil => exact .of_next fun _ => hbelow
    | cons candidate more ih =>
      refine .of_next fun scene => ?_
      simp only [pull, pullHas, Candidates.fetch, Pulled.after_next]
      split
      · exact ih
      · exact ends_trying hrest _ _ ih _ (hargument _ _ _)
  match queue with
  | some queue => exact hqueue queue
  | none =>
    refine .of_next fun scene => ?_
    simp only [pull, pullHas, Candidates.fetch, Pulled.after_next]
    split
    · exact hbelow
    · split
      · exact hqueue _
      · exact ends_trying hrest _ _ (hqueue _) _ (hargument _ _ _)

end Frames

/-! ### Chains -/

omit [DecidableEq N] in
theorem frame_ne_finished (styles : List Style) (link : Link) (before : String) (scope : N)
    (pos : Position N) (below : Evaluation N) :
    frame styles link before scope pos below ≠ .finished := by
  cases link <;> simp [frame]

/-- Refining by a chain and evaluating it end, by way of the parts of the chain. -/
theorem chain_ends : (chain : Chain) → DescentEnds N chain ∧ StartEnds N chain
  | [] => ⟨fun _ _ _ _ _ _ hbelow => hbelow, fun _ _ _ => ends_single _⟩
  | link :: rest => by
    have hrest := (chain_ends rest).1
    have hframe : ∀ (styles : List Style) (before : String) (scope : N) (anchors : List N)
        (below : Evaluation N), Ends below →
        Ends (frame styles link before scope ⟨rest, anchors⟩ below) := by
      intro styles before scope anchors below hbelow
      have hpos : DescentEnds N (Position.mk rest anchors : Position N).rest := hrest
      match link with
      | .plain _ => exact ends_plain hpos hbelow _ _
      | .properties _ => exact ends_properties hpos hbelow _ _
      | .contains _ => exact ends_contains hpos hbelow _ _ _ _
      | .has argument => exact ends_has hpos hbelow (chain_ends argument).2 _
    constructor
    · intro S scene selector scope anchors below hbelow
      rw [descend_cons]
      exact (hframe _ _ _ _ _ hbelow).next (frame_ne_finished _ _ _ _ _ _) scene
    · exact fun styles before scope => hframe _ _ _ _ _ ends_finished

/-- Every state of every evaluation ends. -/
theorem ends (e : Evaluation N) : Ends e := by
  induction e with
  | finished => exact ends_finished
  | single => exact ends_single _
  | plain pos _ _ _ ih => exact ends_plain (chain_ends pos.rest).1 ih _ _
  | properties pos _ _ _ ih => exact ends_properties (chain_ends pos.rest).1 ih _ _
  | contains pos _ _ _ _ _ ih => exact ends_contains (chain_ends pos.rest).1 ih _ _ _ _
  | has pos argument _ _ ih =>
    exact ends_has (chain_ends pos.rest).1 ih (chain_ends argument).2 _
  | trying pos argument _ _ _ _ ihinner ihbelow =>
    exact ends_trying (chain_ends pos.rest).1 _ _
      (ends_has (chain_ends pos.rest).1 ihbelow (chain_ends argument).2 _) _ ihinner

/-- Pulling leads only finitely far, whatever the scenes of the pulls are. -/
theorem follows_wellFounded : WellFounded (Follows : Evaluation N → Evaluation N → Prop) :=
  ⟨ends⟩

/-- Recursion on evaluations goes along pulls. -/
instance : WellFoundedRelation (Evaluation N) :=
  ⟨Follows, follows_wellFounded⟩

theorem follows_of_item {S : Type} {e : Evaluation N} {scene : Scene N S} {item : Item N}
    (h : (e.pull scene).item = some item) : Follows (e.pull scene).next e := by
  refine ⟨?_, S, scene, rfl⟩
  rintro rfl
  simp [pull] at h

end CosmeticFilter.Evaluation
