/-
Chains with one `has` at most, and where their hits lie.

Such a chain finds elements by one selector, or it is led by a `has` with only a selector
behind it.  In the second case every hit has the candidate of the `has` as its only anchor,
and lies inside of it, unless the selector goes on to siblings.
-/
import CosmeticFilter.Proofs.Led

namespace CosmeticFilter

/-- A chain with one `has` at most at its top, and no `properties` anywhere. -/
inductive Chain.SingleHas : Chain → Prop
  | plain (text : String) : SingleHas [.plain text]
  | has (before after : Option String) (argument : Chain)
      (hsearches : Chain.searches argument = true)
      (hcomma : ∀ text, after = some text → ',' ∉ text.toList) :
      SingleHas (plains before ++ .has argument :: plains after)

namespace Chain

/-- Behind the candidate of the `has` there is plain text only. -/
theorem hasLed_single (before : Option String) {after : Option String} {argument : Chain}
    (hsearches : Chain.searches argument = true)
    (hcomma : ∀ text, after = some text → ',' ∉ text.toList) :
    HasLed (plains before ++ .has argument :: plains after) := by
  refine .led before argument (plains after) hsearches ?_ fun text htext => ?_
  · cases after with
    | none => rfl
    | some text => rfl
  · cases after with
    | none => simp [plains] at htext
    | some other =>
      obtain rfl : text = other := by simpa [plains] using htext
      exact hcomma text rfl

theorem SingleHas.searches {chain : Chain} (h : chain.SingleHas) :
    Chain.searches chain = true := by
  cases h with
  | plain text => rfl
  | has before after argument hsearches hcomma =>
    exact (hasLed_single before hsearches hcomma).searches

/-- What is found has no anchor, or just the candidate of the `has`. -/
theorem SingleHas.anchors {chain : Chain} (h : chain.SingleHas) {doc : Document}
    {anchors : List Nat} {n : Nat} (hfinds : chain.FindsBy doc anchors n) :
    anchors = [] ∨ chain.HasLed ∧ ∃ c, anchors = [c] := by
  cases h with
  | plain text => exact .inl (findsBy_plain.mp hfinds).1
  | has before after argument hsearches hcomma =>
    obtain ⟨c, more, rfl, -, -, selector, hfound, -⟩ := Document.findsBy_led.mp hfinds
    refine .inr ⟨hasLed_single before hsearches hcomma, c, ?_⟩
    cases after with
    | none =>
      obtain ⟨-, rfl⟩ := Prod.mk.inj (List.mem_singleton.mp hfound)
      rfl
    | some after =>
      obtain ⟨-, rfl⟩ := Prod.mk.inj (List.mem_singleton.mp (Evaluation.mem_founds_plain.mp hfound))
      rfl

end Chain

/-- Patterns that were read from selectors and have one `has` at most. -/
structure SinglePatterns (patterns : List Pattern) : Prop where
  distinct : (patterns.map Pattern.serial).Nodup
  shape : ∀ p ∈ patterns, p.chain.SingleHas
  apart : ∀ p ∈ patterns, Chain.apart p.chain = true

theorem SinglePatterns.searching {patterns : List Pattern} (h : SinglePatterns patterns) :
    SearchingPatterns patterns :=
  ⟨h.distinct, fun p hp => (h.shape p hp).searches, h.apart⟩

/-! ### Hits -/

namespace Document

variable {config : Config} {doc : Document} {pattern : Pattern} {hit : Hit Nat}

theorem node_place (hnever : config.selectorHiding = .never)
    (hhit : hit ∈ pattern.hits config doc.page) :
    doc.isElement hit.node = true ∧ doc.isConnected hit.node = true :=
  ((Pattern.mem_hits_iff hnever).mp hhit).2.place

/-- Hits have one anchor at most. -/
theorem anchors_length (hnever : config.selectorHiding = .never) (hshape : pattern.chain.SingleHas)
    (hhit : hit ∈ pattern.hits config doc.page) : hit.anchors.length ≤ 1 := by
  rcases hshape.anchors ((Pattern.mem_hits_iff hnever).mp hhit).2 with hnone | ⟨-, c, hone⟩
  · simp [hnone]
  · simp [hone]

/-- Hits lie inside of their anchors, if siblings do not matter. -/
theorem WellFormed.contains_of_mem_hits (h : doc.WellFormed)
    (hnever : config.selectorHiding = .never) (hshape : pattern.chain.SingleHas)
    (hapart : Chain.apart pattern.chain = true)
    (hsiblings : pattern.dependencies.siblings = false)
    (hhit : hit ∈ pattern.hits config doc.page) :
    ∀ c ∈ hit.anchors, doc.contains c hit.node = true := by
  have hfinds := ((Pattern.mem_hits_iff hnever).mp hhit).2
  rcases hshape.anchors hfinds with hnone | ⟨hled, c, hone⟩
  · simp [hnone]
  · rw [hone] at hfinds ⊢
    exact List.forall_mem_singleton.mpr (contains_of_findsBy h hled hapart hsiblings hfinds)

end Document

end CosmeticFilter
