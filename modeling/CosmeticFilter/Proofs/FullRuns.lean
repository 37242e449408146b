/-
Full runs for one pattern.

When an engine is given a single selector and its wake-ups are followed until it is idle, on a
page that stays the same, it hides what the selector finds.  This is what applying patterns
leads to, told for one source, with no more demands on the settings than it takes: the pattern
must not be one of those that are reported as selectors instead of matched elements.
-/
import CosmeticFilter.Proofs.Convergence

namespace CosmeticFilter

/-- Unless all patterns are, one is reported as selectors only if it resolves to selectors. -/
theorem Config.not_hidesBySelector {config : Config} (hshown : config.selectorHiding ≠ .always)
    {pattern : Pattern} (hchain : Chain.resolvesToSelectors pattern.chain = false) :
    config.hidesBySelector pattern = false := by
  unfold hidesBySelector
  split
  · rfl
  · exact hchain
  · rename_i halways
    exact absurd halways hshown

namespace Engine

variable {κ : Type} [Clock κ] {doc : Document}

/--
The engine `last` is idle after the source was applied, and wake-ups were delivered on the
page, with any times between them.
-/
def FullRun (doc : Document) (engine : Engine Nat Nat κ) (source : PatternSource)
    (last : Engine Nat Nat κ) : Prop :=
  ∃ wakes, (∀ event ∈ wakes, event.Wakes doc.page) ∧
    ((engine.apply doc.page [source]).engine.meetAll wakes).engine = last ∧ last.phase = .idle

/-- Following the wake-ups completes a full run. -/
theorem exists_fullRun (doc : Document) (engine : Engine Nat Nat κ) (source : PatternSource) :
    ∃ last, FullRun doc engine source last := by
  obtain ⟨steps, hidle⟩ := exists_idle doc.page (fun _ => engine.clock)
    (engine.apply doc.page [source]).engine
  exact ⟨_, _, wakes_wakeUps doc.page _ steps _, rfl, hidle⟩

/-- The pattern of a source is the only one that is registered for it. -/
theorem chain_of_mem_registration {serial : Nat} {source : PatternSource} {chain : Chain}
    (hparse : Chain.parse source.selector = .ok chain) {pattern : Pattern}
    (h : pattern ∈ (registration serial [source]).1) : pattern.chain = chain := by
  obtain ⟨-, other, hother, hread⟩ := mem_chains_registration.mp (List.mem_map_of_mem h)
  obtain rfl := List.mem_singleton.mp hother
  exact Except.ok.inj (hread.symm.trans hparse)

/-- **A full run hides what the chain finds**, if it is not reported as selectors. -/
theorem FullRun.mem_hidden_iff_of_shown {engine last : Engine Nat Nat κ} {known : Pattern → Prop}
    (hconsistent : Consistent known engine) {source : PatternSource} {chain : Chain}
    (hparse : Chain.parse source.selector = .ok chain) (hchain : chain ≠ [])
    (hshown : ∀ pattern : Pattern, pattern.chain = chain →
      engine.config.hidesBySelector pattern = false)
    (hrun : FullRun doc engine source last) (n : Nat) :
    n ∈ last.hiddenElements ↔ chain.FindsOn doc n := by
  obtain ⟨wakes, hwakes, rfl, hidle⟩ := hrun
  have hmem : chain ∈ (registration engine.nextSerial [source]).1.map Pattern.chain :=
    mem_chains_registration.mpr ⟨hchain, source, List.mem_singleton_self source, hparse⟩
  obtain ⟨registered, hregistered, hsame⟩ := List.mem_map.mp hmem
  have hconverges := (converges_apply doc.page_lawful hconsistent
    (List.ne_nil_of_mem hregistered)).meetAll doc.page_lawful hwakes
  have hsettled := hconverges.settled_of_idle hidle
  have hhits : ∀ {pattern : Pattern} {hit : Hit Nat}, pattern.chain = chain →
      (hit ∈ pattern.hits engine.config doc.page ↔
        hit.pattern = pattern ∧ pattern.chain.FindsBy doc hit.anchors hit.node) :=
    fun {pattern _} hread => Pattern.mem_hits_iff_of_shown (hshown pattern hread)
  rw [hiddenElements, hsettled.collects.mem_nodes, hconverges.config, hconverges.patterns,
    Chain.findsOn_iff]
  constructor
  · rintro ⟨hit, hhit, rfl⟩
    obtain ⟨hpattern, hmatch⟩ := mem_hitsOf.mp hhit
    have hread := chain_of_mem_registration hparse hpattern
    have hfinds := ((hhits hread).mp hmatch).2
    exact ⟨hit.anchors, hread ▸ hfinds⟩
  · rintro ⟨anchors, hfinds⟩
    refine ⟨⟨registered, anchors, n⟩, mem_hitsOf.mpr ⟨hregistered, ?_⟩, rfl⟩
    exact (hhits hsame).mpr ⟨rfl, hsame ▸ hfinds⟩

/-- So it is for a chain that does not resolve to selectors, unless every pattern is reported. -/
theorem FullRun.mem_hidden_iff {engine last : Engine Nat Nat κ} {known : Pattern → Prop}
    (hconsistent : Consistent known engine) {source : PatternSource} {chain : Chain}
    (hparse : Chain.parse source.selector = .ok chain) (hchain : chain ≠ [])
    (hshown : engine.config.selectorHiding ≠ .always)
    (hresolves : Chain.resolvesToSelectors chain = false)
    (hrun : FullRun doc engine source last) (n : Nat) :
    n ∈ last.hiddenElements ↔ chain.FindsOn doc n :=
  hrun.mem_hidden_iff_of_shown hconsistent hparse hchain
    (fun _ hread => Config.not_hidesBySelector hshown (hread ▸ hresolves)) n

end Engine

end CosmeticFilter
