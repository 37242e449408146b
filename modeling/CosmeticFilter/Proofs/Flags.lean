/-
Dependency flags are sound.

A pattern says of itself which changes can matter to it, judging its texts by their
characters.  What is asked of a document in the end are not these texts, but selectors that
are put together of them, of paths, and of stars.  No such composition asks for attributes if
no text of it does, for paths are inert and no two texts meet.  So setting an attribute leaves
the matches of a pattern alone that clears attributes; and setting a text those of a pattern
that clears texts, whatever it asks for otherwise.

An observer is told of connected nodes only.  At a node that is not connected, setting
something makes no difference to any pattern.  So a document that is observed as the patterns
need it records everything that can change their matches.
-/
import CosmeticFilter.Engine.Basic
import CosmeticFilter.Proofs.Confinement
import CosmeticFilter.Proofs.Findings

namespace CosmeticFilter

/-! ### Flags of chains -/

namespace Chain

/-- Some selector is read as the chain. -/
def IsRead (chain : Chain) : Prop :=
  ∃ selector, Chain.parse selector = .ok chain

/-- Inside of an argument styles count as attributes, so that clearing these clears those. -/
theorem searches_of_attributes {chain : Chain}
    (hproperties : chain.any Link.isProperties = false)
    (hattributes : (Chain.dependencies chain).attributes = false) :
    Chain.searches chain = true := by
  induction chain with
  | nil => rfl
  | cons link rest ih =>
    obtain ⟨hfirst, hothers⟩ : link.isProperties = false ∧ rest.any Link.isProperties = false := by
      simpa using hproperties
    obtain ⟨hlink, hrest⟩ : link.dependencies.attributes = false ∧
        (Chain.dependencies rest).attributes = false := by
      simpa [Chain.dependencies, Dependencies.union] using hattributes
    have hsearches : link.searches = true := by
      cases link with
      | plain => rfl
      | contains => rfl
      | properties => cases hfirst
      | has argument =>
        have hboth : ((Chain.dependencies argument).attributes ||
          (Chain.dependencies argument).style) = false := hlink
        exact Chain.searches_iff.mpr (Bool.or_eq_false_iff.mp hboth).2
    rw [Chain.searches, hsearches, ih hothers hrest, Bool.and_self]

/--
With these styles, the chain matches the node: its evaluation on the whole page, without
pruning, gives a selector by which a query finds the node.
-/
def Matches {N S : Type} [DecidableEq N] (page : Page N S) (styles : List Style) (chain : Chain)
    (n : N) : Prop :=
  ∃ found ∈ founds (Evaluation.exhaust ⟨page, styles, none⟩
      (Evaluation.start styles chain "" page.document)),
    ∃ nodes, page.queryAll page.document found.1 = .ok nodes ∧ n ∈ nodes

/-- Plain text matches what a query for it finds. -/
theorem matches_plain {N S : Type} [DecidableEq N] {page : Page N S} {styles : List Style}
    {text : String} {n : N} :
    Chain.Matches page styles [.plain text] n ↔
      ∃ nodes, page.queryAll page.document text = .ok nodes ∧ n ∈ nodes := by
  unfold Matches
  rw [Evaluation.exhaust_start ⟨page, styles, none⟩]
  simp only [Prod.exists, Evaluation.mem_founds_plain, show "" ++ text = text by simp]
  constructor
  · rintro ⟨selector, anchors, hfound, hnodes⟩
    obtain ⟨rfl, -⟩ := Prod.mk.inj (List.mem_singleton.mp hfound)
    exact hnodes
  · exact fun hnodes => ⟨text, [], List.mem_singleton_self _, hnodes⟩

end Chain

/-! ### Setting an attribute or a text -/

/-- Somebody wants to be told of changes of this kind. -/
def ObserveOptions.wants (options : ObserveOptions) : MutationKind → Bool
  | .attributes => options.attributes
  | .characterData => options.characterData
  | .childList => options.childList

namespace Document

variable {doc after : Document} {kind : MutationKind} {m : Nat}

/-- The second document is the first one after an attribute or the text of the node was set. -/
inductive Sets (doc after : Document) : MutationKind → Nat → Prop
  | ofAttribute {m : Nat} {name value : String} (h : doc.setAttribute m name value = .ok after) :
      Sets doc after .attributes m
  | ofText {m : Nat} {data : String} (h : doc.setText m data = .ok after) :
      Sets doc after .characterData m

/-- The kind of a node before and after an attribute or its text is set. -/
inductive Reset : MutationKind → NodeKind → NodeKind → Prop
  | element (tag : String) (old new : List (String × String)) :
      Reset .attributes (.element tag old) (.element tag new)
  | text (old new : String) : Reset .characterData (.text old) (.text new)

/-- Setting something renews one node, and records this if such changes are wanted. -/
theorem Sets.exists_record (h : Sets doc after kind m) :
    ∃ old new change, doc.kind? m = some old ∧ Reset kind old new ∧
      (∀ options, (change options).kind = kind ∧ (change options).target = m) ∧
      after = (doc.setKind m new).record (·.wants kind) m change := by
  cases h with
  | ofAttribute h =>
    unfold setAttribute at h
    split at h
    · rename_i hkind
      exact ⟨_, _, _, hkind, .element _ _ _, fun _ => ⟨rfl, rfl⟩, (Except.ok.inj h).symm⟩
    · simp at h
  | ofText h =>
    unfold setText at h
    split at h
    · rename_i hkind
      exact ⟨_, _, _, hkind, .text _ _, fun _ => ⟨rfl, rfl⟩, (Except.ok.inj h).symm⟩
    · simp at h

theorem isConnected_telling (doc : Document) (observed : Option ObserveOptions)
    (records : List (Mutation Nat)) (n : Nat) :
    (doc.telling observed records).isConnected n = doc.isConnected n :=
  congrFun (congrFun (contains_telling doc observed records) 0) n

/-- If nobody wants to be told of the change, or it is out of sight, nothing needs to be told. -/
theorem Sets.documented (h : Sets doc after kind m) {options : ObserveOptions}
    (hquiet : options.wants kind = true → after.isConnected m = false) :
    Documented options (doc.telling none []) (after.telling none []) := by
  obtain ⟨old, new, change, hold, hreset, -, rfl⟩ := h.exists_record
  have heq : ((doc.setKind m new).record (·.wants kind) m change).telling none [] =
      (doc.telling none []).setKind m new := by
    obtain ⟨records, hrecord, -⟩ := record_eq (doc.setKind m new) (·.wants kind) m change
    rw [hrecord]
    rfl
  have hnone : ∀ {P : Prop}, options.wants kind = true →
      ((doc.telling none []).setKind m new).isConnected m = true → P := by
    intro P hwanted hconnected
    rw [← heq, isConnected_telling, hquiet hwanted] at hconnected
    exact absurd hconnected Bool.false_ne_true
  have hold : (doc.telling none []).kind? m = some old := hold
  have hnew : ((doc.telling none []).setKind m new).kind? m = some new := by
    rw [kind?_setKind, if_pos rfl, hold]
    rfl
  have hrenewed : Renewed options (doc.telling none []) ((doc.telling none []).setKind m new)
      m := by
    cases hreset with
    | element tag old new => exact .attributes hold hnew hnone
    | text old new => exact .text hold hnew hnone
  rw [heq]
  -- Without an observer no record is made, whatever it would tell.
  exact documented_setKind (doc.telling none []) m new (·.wants kind) change hrenewed

/-- If such changes are wanted, a change of a connected node is recorded. -/
theorem Sets.recorded (h : Sets doc after kind m) {options : ObserveOptions}
    (hobserved : doc.observed = some options) (hwanted : options.wants kind = true)
    (hconnected : after.isConnected m = true) :
    ∃ record, after.records = doc.records ++ [record] ∧ record.kind = kind ∧
      record.target = m := by
  obtain ⟨old, new, change, -, -, hchange, rfl⟩ := h.exists_record
  rw [isConnected_record] at hconnected
  refine ⟨change options, ?_, hchange options⟩
  have hobserved : (doc.setKind m new).observed = some options := hobserved
  simp only [record, hobserved, hwanted, hconnected, Bool.and_self, if_true]
  rfl

/-- All that dependencies can ask of a document is as before, if they do not heed the change. -/
theorem Sets.spared (h : Sets doc after kind m) (htags : doc.Tagged) {deps : Dependencies}
    (hquiet : deps.heeds kind = true → after.isConnected m = false) :
    ∃ options, Spared options deps (doc.telling none []) (after.telling none []) 0 := by
  obtain ⟨old, -, -, hold, -⟩ := h.exists_record
  have hm : m < doc.size := by
    obtain ⟨node, hnode, -⟩ := Option.map_eq_some_iff.mp hold
    exact (Array.getElem?_eq_some_iff.mp hnode).1
  -- An observer that wants to know what the dependencies heed.
  let options : ObserveOptions := ⟨true, deps.attributes, deps.text, true, false⟩
  have hwants : options.wants kind = deps.heeds kind := by cases kind <;> rfl
  refine ⟨options, ?_⟩
  exact {
    documented := h.documented fun hwanted => hquiet (hwants ▸ hwanted)
    filled := Nat.lt_of_le_of_lt (Nat.zero_le m) hm
    tags := htags
    connected := contains_self 0
    quiet kind _ n htold := by
      obtain ⟨record, hrecord, -⟩ := htold
      exact absurd hrecord (List.not_mem_nil)
    attributes := id
    text := id
    siblings _ := rfl }

end Document

/-! ### What patterns match -/

section Matches

open Document Evaluation

variable {doc after : Document} {kind : MutationKind} {m : Nat} {deps : Dependencies}
  {styles : List Style} {ready : Chain → String → Prop} {chain : Chain}

/-- A chain that keeps to dependencies, which do not heed the change, matches as before. -/
theorem Document.Sets.matches_iff (h : Sets doc after kind m) (htags : doc.Tagged)
    (hquiet : deps.heeds kind = true → after.isConnected m = false)
    (hcourse : Course deps styles styles ready) (hready : ready chain "") (n : Nat) :
    chain.Matches after.page styles n ↔ chain.Matches doc.page styles n := by
  obtain ⟨options, hspared⟩ := h.spared htags hquiet
  have halike := hspared.page_alike
  rw [page_telling, page_telling] at halike
  have htop : (after.telling none []).contains 0 0 = true := contains_self 0
  have hitems := items_course halike hcourse chain "" 0 hready htop
  have hfit := founds_ready halike hcourse hready htop
  unfold Chain.Matches
  simp only [exhaust_start ⟨after.page, styles, none⟩, exhaust_start ⟨doc.page, styles, none⟩]
  rw [show after.page.document = 0 from rfl, show doc.page.document = 0 from rfl, hitems]
  refine exists_congr fun found => and_congr_right fun hfound => ?_
  rw [halike.query 0 _ htop (hfit found hfound)]

/-- Setting attributes leaves patterns alone that clear them. -/
theorem Document.Sets.matches_iff_of_attributes (h : Sets doc after .attributes m)
    (htags : doc.Tagged) (hread : chain.IsRead)
    (hproperties : chain.any Link.isProperties = false)
    (hcleared : (Chain.dependencies chain).attributes = false) (n : Nat) :
    chain.Matches after.page styles n ↔ chain.Matches doc.page styles n := by
  obtain ⟨selector, hparse⟩ := hread
  have hsearching : Searching (Chain.dependencies chain) chain "" :=
    ⟨Chain.searches_of_attributes hproperties hcleared, Chain.apart_parse hparse, .refl _, .nil⟩
  refine h.matches_iff htags (fun hheeds => ?_) (course_searching _ styles styles) hsearching n
  rw [Dependencies.heeds, hcleared] at hheeds
  exact absurd hheeds Bool.false_ne_true

/-- Setting texts leaves patterns alone that clear them, whatever they ask for otherwise. -/
theorem Document.Sets.matches_iff_of_text (h : Sets doc after .characterData m)
    (htags : doc.Tagged) (hcleared : (Chain.dependencies chain).text = false) (n : Nat) :
    chain.Matches after.page styles n ↔ chain.Matches doc.page styles n := by
  let deps : Dependencies := ⟨true, false, true, true⟩
  have hcourse : Course deps styles styles _ := course_asking rfl rfl styles
  refine h.matches_iff htags (fun hheeds => ?_) hcourse (fun htext => ?_) n
  · exact absurd hheeds Bool.false_ne_true
  · rw [hcleared] at htext
    exact absurd htext Bool.false_ne_true

/-- Out of sight, setting something makes no difference to any pattern. -/
theorem Document.Sets.matches_iff_of_detached (h : Sets doc after kind m) (htags : doc.Tagged)
    (hdetached : after.isConnected m = false) (n : Nat) :
    chain.Matches after.page styles n ↔ chain.Matches doc.page styles n := by
  let deps : Dependencies := ⟨true, true, true, true⟩
  have hcourse : Course deps styles styles _ := course_asking rfl rfl styles
  exact h.matches_iff htags (fun _ => hdetached) hcourse (fun _ => rfl) n

end Matches

namespace Pattern

/--
What the flag for attributes is about: patterns that were read, without outer `properties`.  Two
texts in a row, which are never read, could make up what neither of them asks for.
-/
structure Flagged (pattern : Pattern) : Prop where
  read : pattern.chain.IsRead
  outer : pattern.chain.any Link.isProperties = false

/-- A pattern matches as before what it says to be unaffected by. -/
theorem matches_iff_of_unaffected {doc after : Document} {kind : MutationKind} {m : Nat}
    (htags : doc.Tagged) (hsets : doc.Sets after kind m) {pattern : Pattern}
    (hflagged : kind = .attributes → pattern.Flagged)
    (hcleared : pattern.affectedBy kind = false) (styles : List Style) (n : Nat) :
    pattern.chain.Matches after.page styles n ↔ pattern.chain.Matches doc.page styles n := by
  cases hsets with
  | ofAttribute h =>
    obtain ⟨hread, houter⟩ := hflagged rfl
    exact (Document.Sets.ofAttribute h).matches_iff_of_attributes htags hread houter hcleared n
  | ofText h => exact (Document.Sets.ofText h).matches_iff_of_text htags hcleared n

/-- A change is recorded after which a pattern of the engine matches otherwise. -/
theorem recorded_of_matches {κ : Type} {doc after : Document} {kind : MutationKind} {m : Nat}
    (htags : doc.Tagged) (hsets : doc.Sets after kind m) {engine : Engine Nat Nat κ}
    (hobserved : doc.observed = some engine.observeOptions) {pattern : Pattern}
    (hpattern : pattern ∈ engine.patterns) (hflagged : kind = .attributes → pattern.Flagged)
    {styles : List Style} {n : Nat}
    (hdiffers : ¬ (pattern.chain.Matches after.page styles n ↔
      pattern.chain.Matches doc.page styles n)) :
    ∃ record, after.records = doc.records ++ [record] ∧ record.kind = kind ∧
      record.target = m := by
  have haffected : pattern.affectedBy kind = true := by
    by_contra hcleared
    exact hdiffers (matches_iff_of_unaffected htags hsets hflagged
      (Bool.eq_false_iff.mpr hcleared) styles n)
  have hconnected : after.isConnected m = true := by
    by_contra hdetached
    exact hdiffers (hsets.matches_iff_of_detached htags (Bool.eq_false_iff.mpr hdetached) n)
  refine hsets.recorded hobserved ?_ hconnected
  cases kind with
  | attributes => exact List.any_eq_true.mpr ⟨pattern, hpattern, haffected⟩
  | characterData => exact List.any_eq_true.mpr ⟨pattern, hpattern, haffected⟩
  | childList => rfl

end Pattern

/--
**Dependency flags are sound.**  Let an attribute or a text be set in a document whose tags
are names.  What a pattern matches, with any styles, stays the same if the pattern says that
such a change does not affect it; as for attributes, it must have been read from a selector
and have no outer `properties`.  So if the document is observed as an engine with such
patterns wants it, everything is recorded that changes what one of them matches.
-/
theorem dependencies_sound {doc after : Document} {kind : MutationKind} {m : Nat}
    (htags : doc.Tagged) (hsets : doc.Sets after kind m) (styles : List Style) :
    (∀ pattern : Pattern, (kind = .attributes → pattern.Flagged) →
      pattern.affectedBy kind = false →
      ∀ n, pattern.chain.Matches after.page styles n ↔
        pattern.chain.Matches doc.page styles n) ∧
    ∀ {κ : Type} (engine : Engine Nat Nat κ),
      (kind = .attributes → ∀ pattern ∈ engine.patterns, pattern.Flagged) →
      doc.observed = some engine.observeOptions →
      ∀ pattern ∈ engine.patterns,
        (∃ n, ¬ (pattern.chain.Matches after.page styles n ↔
          pattern.chain.Matches doc.page styles n)) →
        ∃ record, after.records = doc.records ++ [record] ∧ record.kind = kind ∧
          record.target = m := by
  refine ⟨fun pattern hflagged hcleared =>
    Pattern.matches_iff_of_unaffected htags hsets hflagged hcleared styles, ?_⟩
  rintro κ engine hflagged hobserved pattern hpattern ⟨n, hdiffers⟩
  exact Pattern.recorded_of_matches htags hsets hobserved hpattern
    (fun hkind => hflagged hkind pattern hpattern) hdiffers

/-- A box gets a class.  That matters to a pattern for the class, but not to one for boxes. -/
theorem dependencies_sound_box :
    let boxes : Pattern := ⟨0, [.plain "div", .has [.plain "p"]], "boxes"⟩
    let classed : Pattern := ⟨1, [.plain ".box"], "classed"⟩
    let engine : Engine Nat Nat PausedClock :=
      { Engine.new Config.default ⟨.zero⟩ with patterns := [boxes, classed] }
    let doc := Engine.boxDocument.observe engine.observeOptions
    let after := doc.change (.setAttribute 2 "class" "box")
    (∀ n, boxes.chain.Matches after.page [] n ↔ boxes.chain.Matches doc.page [] n) ∧
    classed.chain.Matches after.page [] 2 ∧ ¬ classed.chain.Matches doc.page [] 2 ∧
    ∃ record, after.records = doc.records ++ [record] ∧ record.kind = .attributes ∧
      record.target = 2 := by
  intro boxes classed engine doc after
  have htags : doc.Tagged := by decide
  have hset : doc.setAttribute 2 "class" "box" = .ok after := by with_unfolding_all rfl
  have hsets : doc.Sets after .attributes 2 := .ofAttribute hset
  have hboxes : boxes.Flagged := ⟨⟨"div:-abp-has(p)", by with_unfolding_all rfl⟩, rfl⟩
  have hclassed : classed.Flagged := ⟨⟨".box", by with_unfolding_all rfl⟩, rfl⟩
  obtain ⟨hsame, htold⟩ := dependencies_sound htags hsets []
  have hfinds : classed.chain.Matches after.page [] 2 := by
    refine Chain.matches_plain.mpr ⟨[2], ?_, by simp⟩
    decide +kernel
  have hnot : ¬ classed.chain.Matches doc.page [] 2 := by
    rw [Chain.matches_plain]
    have hquery : doc.page.queryAll doc.page.document ".box" = .ok [] := by
      decide +kernel
    simp [hquery]
  have hflagged : ∀ pattern ∈ engine.patterns, pattern.Flagged :=
    List.forall_mem_cons.mpr ⟨hboxes, List.forall_mem_singleton.mpr hclassed⟩
  refine ⟨hsame boxes (fun _ => hboxes) (by decide), hfinds, hnot, ?_⟩
  exact htold engine (fun _ => hflagged) rfl classed (by simp [engine])
    ⟨2, fun hiff => hnot (hiff.mp hfinds)⟩

namespace Engine

variable {κ : Type} [Clock κ]

/-- Whatever an engine lives through, its patterns have been read. -/
theorem meetAll_read (config : Config) (clock : κ) (events : List (Event Nat Nat κ)) :
    ∀ pattern ∈ ((Engine.new config clock).meetAll events).engine.patterns,
      pattern.chain.IsRead := by
  obtain ⟨known, hconsistent⟩ := meetAll_consistent config clock events
  exact fun pattern hpattern => hconsistent.stock.read pattern (hconsistent.patterns _ hpattern)

/--
**A reachable engine learns of what matters.**  Its patterns were all read.  So a change of a
text that is said not to matter to a pattern does not matter to it, nor does such a change of
an attribute if the pattern has no outer `properties`; and what matters is recorded in a
document that is observed as the engine wants it.
-/
theorem meetAll_recorded (config : Config) (clock : κ) (events : List (Event Nat Nat κ))
    {doc after : Document} {kind : MutationKind} {m : Nat} (htags : doc.Tagged)
    (hsets : doc.Sets after kind m)
    (hobserved : doc.observed =
      some ((Engine.new config clock).meetAll events).engine.observeOptions)
    {pattern : Pattern}
    (hpattern : pattern ∈ ((Engine.new config clock).meetAll events).engine.patterns)
    (houter : kind = .attributes → pattern.chain.any Link.isProperties = false)
    (styles : List Style) (n : Nat) :
    (pattern.affectedBy kind = false →
      (pattern.chain.Matches after.page styles n ↔ pattern.chain.Matches doc.page styles n)) ∧
    (¬ (pattern.chain.Matches after.page styles n ↔ pattern.chain.Matches doc.page styles n) →
      ∃ record, after.records = doc.records ++ [record] ∧ record.kind = kind ∧
        record.target = m) := by
  have hflagged : kind = .attributes → pattern.Flagged := fun hkind =>
    ⟨meetAll_read config clock events pattern hpattern, houter hkind⟩
  exact ⟨fun hcleared => Pattern.matches_iff_of_unaffected htags hsets hflagged hcleared styles n,
    Pattern.recorded_of_matches htags hsets hobserved hpattern hflagged⟩

end Engine

end CosmeticFilter
