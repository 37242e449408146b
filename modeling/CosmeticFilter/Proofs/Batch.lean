/-
One batch of changes, and the run for it.

What the run covers can be told from the records.  A pattern that no record can affect is
not covered at all; then nothing has changed for it anywhere.  A pattern that takes part and
relates siblings is covered everywhere.  Any other one is covered where a record touches
the region of the anchors; where none does, the region is spared.  So in each case the hits
that are not covered are the same as before the changes.
-/
import CosmeticFilter.Proofs.SingleHas
import CosmeticFilter.Proofs.Tracking

namespace CosmeticFilter

/-! ### What the run for a batch covers -/

namespace Engine

variable {S N κ : Type} [DecidableEq N]

omit [DecidableEq N] in
/-- The candidate of a pattern, if it takes part. -/
theorem find?_candidate {patterns : List Pattern}
    (hdistinct : (patterns.map Pattern.serial).Nodup) (takesPart : Pattern → Bool)
    (make : Pattern → Candidate N) (hmake : ∀ p, (make p).pattern = p) {pattern : Pattern}
    (hpattern : pattern ∈ patterns) :
    ((patterns.filter takesPart).map make).find? (fun c => c.pattern.same pattern) =
      if takesPart pattern then some (make pattern) else none := by
  have hsame : ∀ p ∈ patterns, p.same pattern = true → p = pattern := fun p hp hsame =>
    List.inj_on_of_nodup_map hdistinct hp hpattern (beq_iff_eq.mp hsame)
  split
  · rename_i htakes
    cases hfind : ((patterns.filter takesPart).map make).find?
        (fun c => c.pattern.same pattern) with
    | none =>
      have hmem : make pattern ∈ (patterns.filter takesPart).map make :=
        List.mem_map.mpr ⟨pattern, List.mem_filter.mpr ⟨hpattern, htakes⟩, rfl⟩
      simpa [hmake, Pattern.same] using List.find?_eq_none.mp hfind (make pattern) hmem
    | some candidate =>
      obtain ⟨p, hp, rfl⟩ := List.mem_map.mp (List.mem_of_find?_eq_some hfind)
      have heq := List.find?_some hfind
      rw [hmake] at heq
      rw [hsame p (List.mem_filter.mp hp).1 heq]
  · rename_i htakes
    rw [List.find?_eq_none]
    intro candidate hcandidate heq
    obtain ⟨p, hp, rfl⟩ := List.mem_map.mp hcandidate
    obtain ⟨hmem, hp⟩ := List.mem_filter.mp hp
    rw [hmake] at heq
    exact htakes (hsame p hmem heq ▸ hp)

/-- **What the run for a batch covers** of a pattern that does not depend on styles. -/
theorem covers_runOf (page : Page N S) {engine : Engine S N κ}
    (hdistinct : (engine.patterns.map Pattern.serial).Nodup) {pattern : Pattern}
    (hpattern : pattern ∈ engine.patterns) (hstyle : pattern.dependencies.style = false)
    (changes : List (Mutation N)) (anchors : List N) :
    (engine.runOf page (.partly [] changes)).covers page ⟨pattern, anchors⟩ =
      (pattern.affectedByBatch changes && (pattern.dependencies.siblings ||
        anchors.all fun a => (Mutation.targets changes).any (page.related a))) := by
  have hfind := find?_candidate hdistinct (fun p => p.affectedByBatch changes)
    (fun p => ⟨p, if p.dependencies.siblings then none
      else Classification.confinement false changes⟩) (fun _ => rfl) hpattern
  unfold Run.covers
  rw [runOf_full, runOf_candidates]
  simp only [Request.isFull, hstyle, Bool.and_false, Bool.false_eq_true, if_false,
    Classification.ofRequest, Classification.ofChanges, Classification.partialCandidates,
    Classification.affected, List.isEmpty_nil, Bool.not_true, Bool.false_and, Bool.false_or, hfind]
  cases haffected : pattern.affectedByBatch changes with
  | false => simp
  | true =>
    have hchanges : changes.isEmpty = false := by
      cases changes with
      | nil => simp [Pattern.affectedByBatch] at haffected
      | cons => rfl
    cases hsiblings : pattern.dependencies.siblings with
    | true => simp [Run.reaches]
    | false => simp [Run.reaches, Classification.confinement, hchanges]

end Engine

/-! ### Hits before and after -/

namespace Document

/-- Changes between well-formed documents, recorded as patterns with one `has` at most need it. -/
structure Batch (options : ObserveOptions) (patterns : List Pattern) (a b : Document) : Prop where
  documented : Documented options a b
  before : a.WellFormed
  after : b.WellFormed
  single : SinglePatterns patterns
  attributes : ∀ p ∈ patterns, p.dependencies.attributes = true → options.attributes = true
  text : ∀ p ∈ patterns, p.dependencies.text = true → options.characterData = true

namespace Batch

variable {options : ObserveOptions} {patterns : List Pattern} {a b : Document}
  {config : Config} {pattern : Pattern} {hit : Hit Nat}

theorem style (h : Batch options patterns a b) (hpattern : pattern ∈ patterns) :
    pattern.dependencies.style = false :=
  Chain.searches_iff.mp (h.single.shape pattern hpattern).searches

theorem recorded (h : Batch options patterns a b) : Recorded options patterns a b :=
  ⟨h.documented, h.before, h.after, h.attributes, h.text⟩

section Hits

variable (h : Batch options patterns a b) (hnever : config.selectorHiding = .never)

include h hnever

/-- If no record can affect a pattern, it has the same hits as before. -/
theorem mem_hits_iff_of_unaffected (hpattern : pattern ∈ patterns)
    (hunaffected : pattern.affectedByBatch b.records = false) :
    hit ∈ pattern.hits config b.page ↔ hit ∈ pattern.hits config a.page := by
  rw [Pattern.mem_hits_iff hnever, Pattern.mem_hits_iff hnever,
    h.recorded.findsBy_iff_of_unaffected h.single.searching hpattern hunaffected]

/-- An anchor around a node that is still connected is still around it. -/
theorem contains_of_connected (hpattern : pattern ∈ patterns)
    (hsiblings : pattern.dependencies.siblings = false) (hhit : hit ∈ pattern.hits config a.page)
    (hnode : b.isConnected hit.node = true) : ∀ c ∈ hit.anchors, b.contains c hit.node = true := by
  have hnew := lt_size_of_isElement (node_place hnever hhit).1
  exact fun c hc => h.documented.contains hnew hnode
    (h.before.contains_of_mem_hits hnever (h.single.shape pattern hpattern)
      (h.single.apart pattern hpattern) hsiblings hhit c hc)

/-- If no record touches the region of an anchor, its hits are the same as before. -/
theorem mem_hits_iff_of_unreached (hpattern : pattern ∈ patterns)
    (hsiblings : pattern.dependencies.siblings = false) {c : Nat} (hc : c ∈ hit.anchors)
    (hunreached : b.page.reaches b.records c = false) :
    hit ∈ pattern.hits config b.page ↔
      hit ∈ pattern.hits config a.page ∧ b.isConnected hit.node = true := by
  have honly : ∀ {doc : Document}, pattern.chain.FindsBy doc hit.anchors hit.node →
      pattern.chain.HasLed ∧ hit.anchors = [c] := by
    intro doc hfinds
    rcases (h.single.shape pattern hpattern).anchors hfinds with hnone | ⟨hled, d, hone⟩
    · simp [hnone] at hc
    · rw [hone] at hc
      exact ⟨hled, List.mem_singleton.mp hc ▸ hone⟩
  have hiff : pattern.chain.HasLed ∧ hit.anchors = [c] →
      (pattern.chain.FindsBy b hit.anchors hit.node ↔
        pattern.chain.FindsBy a hit.anchors hit.node ∧ b.isConnected hit.node = true) := by
    rintro ⟨hled, hone⟩
    rw [hone]
    exact h.recorded.findsBy_iff_of_unreached h.single.searching hpattern hled hsiblings hunreached
  rw [Pattern.mem_hits_iff hnever, Pattern.mem_hits_iff hnever, and_assoc]
  refine and_congr_right fun _ => ?_
  constructor
  · intro hfinds
    exact (hiff (honly hfinds)).mp hfinds
  · intro hfinds
    exact (hiff (honly hfinds.1)).mpr hfinds

end Hits

end Batch

/-- The hits of a well-formed document are nested. -/
theorem WellFormed.nested {doc : Document} (h : doc.WellFormed) {config : Config}
    (hnever : config.selectorHiding = .never) {patterns : List Pattern}
    (hsingle : SinglePatterns patterns) : Nested doc.page (hitsOf config doc.page patterns) where
  unique _ hhit _ hother hserial := List.inj_on_of_nodup_map hsingle.distinct
    (mem_hitsOf.mp hhit).1 (mem_hitsOf.mp hother).1 hserial
  connected _ hhit := connected_of_mem_hits doc.page_lawful (mem_hitsOf.mp hhit).2
  length _ hhit := by
    obtain ⟨hpattern, hhit⟩ := mem_hitsOf.mp hhit
    exact anchors_length hnever (hsingle.shape _ hpattern) hhit
  inside _ hhit hsiblings := by
    obtain ⟨hpattern, hhit⟩ := mem_hitsOf.mp hhit
    exact h.contains_of_mem_hits hnever (hsingle.shape _ hpattern) (hsingle.apart _ hpattern)
      hsiblings hhit

namespace Batch

variable {κ : Type} {options : ObserveOptions} {engine : Engine Nat Nat κ} {a b : Document}

/-- What lies around the anchors of a hit stays around them. -/
theorem carried (h : Batch options engine.patterns a b)
    (hnever : engine.config.selectorHiding = .never) :
    ∀ hit ∈ hitsOf engine.config a.page engine.patterns,
      hit.pattern.dependencies.siblings = false → b.isConnected hit.node = true →
      ∀ outer, a.page.Inside outer hit.anchors → b.page.Inside outer hit.anchors := by
  intro hit hhit hsiblings hnode outer hinside x hx
  obtain ⟨hpattern, hhit⟩ := mem_hitsOf.mp hhit
  obtain ⟨y, hy, hxy⟩ := hinside x hx
  have hinner := h.contains_of_connected hnever hpattern hsiblings hhit hnode y hy
  have hold : y < a.size :=
    Nat.lt_of_le_of_lt (contains_le hinner) (lt_size_of_isElement (node_place hnever hhit).1)
  exact ⟨y, hy, h.documented.contains hold (connected_of_contains hnode hinner) hxy⟩

/-- **The run for a batch** updates the hits before it to those after it. -/
theorem updates (h : Batch options engine.patterns a b)
    (hnever : engine.config.selectorHiding = .never) :
    (engine.runOf b.page (.partly [] b.records)).Updates a.page b.page
      (engine.runHits b.page (.partly [] b.records))
      (hitsOf engine.config a.page engine.patterns)
      (hitsOf engine.config b.page engine.patterns) := by
  have hnested := h.after.nested hnever h.single
  have hsubset : ∀ hit ∈ engine.runHits b.page (.partly [] b.records),
      hit ∈ hitsOf engine.config b.page engine.patterns :=
    fun hit hhit => Engine.runHits_subset b.page_lawful hhit
  have hcovers : ∀ pattern ∈ engine.patterns, ∀ anchors,
      (engine.runOf b.page (.partly [] b.records)).covers b.page ⟨pattern, anchors⟩ = _ :=
    fun pattern hpattern => Engine.covers_runOf b.page h.single.distinct hpattern
      (h.style hpattern) b.records
  exact
    { orderly := b.page_orderly
      nested := hnested
      finds := .of_collects b.page_orderly (hnested.mono hsubset) (Engine.runOf_collects ..)
      subset := hsubset
      covered := fun hit hhit hcovered => Engine.mem_runHits_of_covers b.page_lawful
        h.single.distinct hcovered hhit rfl fun _ ha => ha
      kept := by
        intro hit huncovered
        rw [mem_hitsOf, mem_hitsOf, and_assoc]
        refine and_congr_right fun hpattern => ?_
        rw [hcovers hit.pattern hpattern, Bool.and_eq_false_iff] at huncovered
        rcases huncovered with hunaffected | hunreached
        · rw [h.mem_hits_iff_of_unaffected hnever hpattern hunaffected]
          refine (and_iff_left_of_imp fun hhit => ?_).symm
          exact (h.recorded.spared_of_unaffected hpattern hunaffected).inside_of_contains
            (contains_self 0)
            (node_place hnever hhit).2
        · obtain ⟨hsiblings, hunreached⟩ := Bool.or_eq_false_iff.mp hunreached
          obtain ⟨c, hc, hunreached⟩ := List.all_eq_false.mp hunreached
          exact h.mem_hits_iff_of_unreached hnever hpattern hsiblings hc
            (Bool.eq_false_iff.mpr hunreached)
      unique := fun hit hhit other hother hserial => List.inj_on_of_nodup_map h.single.distinct
        (mem_hitsOf.mp hhit).1 (mem_hitsOf.mp hother).1 hserial
      carried := h.carried hnever
      everywhere := by
        intro hit hhit hsiblings anchors others
        have hpattern := (mem_hitsOf.mp hhit).1
        simp [hcovers hit.pattern hpattern, hsiblings] }

end Batch

end Document

end CosmeticFilter
