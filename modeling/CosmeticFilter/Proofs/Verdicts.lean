/-
A candidate that the changes did not come near keeps its verdict.

A run for changes prunes the candidates of a `has` that are unrelated to all changed nodes:
those that neither contain one nor lie inside of one.  This is right because the argument is
looked for below the candidate, by selectors that see the elements above and below, and the
places of these among their siblings.  The records name added nodes, the former parents of
removed ones, and whatever was set; so if all of them are out of the region of the candidate,
then the region is as it was: what stands above keeps its place, since new siblings come at
the end, and below nothing has come or gone.  It does not matter that a node that is named in
a record may have been detached later on.
-/
import CosmeticFilter.Proofs.Confinement
import CosmeticFilter.Proofs.Led

namespace CosmeticFilter

open Evaluation

/--
The argument of a `has` holds at the element: evaluated below the element, without pruning,
it gives a selector that a query finds something by there.
-/
def Chain.HoldsBelow {N S : Type} [DecidableEq N] (page : Page N S) (styles : List Style)
    (argument : Chain) (c : N) : Prop :=
  ∃ found ∈ founds (exhaust ⟨page, styles, none⟩ (start styles argument "" c)),
    ∃ n, page.queryFirst c found.1 = .ok (some n)

theorem Chain.holdsBelow_iff {N S : Type} [DecidableEq N] {page : Page N S} {styles : List Style}
    {argument : Chain} {c : N} :
    argument.HoldsBelow page styles c ↔ holdsAt page styles argument c = true := by
  unfold HoldsBelow holdsAt
  rw [exhaust_start ⟨page, styles, none⟩, List.any_eq_true]
  refine exists_congr fun found => and_congr_right fun _ => ?_
  unfold findsBelow
  constructor
  · rintro ⟨n, hquery⟩
    rw [hquery]
  · intro hfinds
    split at hfinds
    · rename_i n hquery
      exact ⟨n, hquery⟩
    · exact absurd hfinds Bool.false_ne_true

/-- The observer is told of changes of every kind. -/
structure ObserveOptions.OfAll (options : ObserveOptions) : Prop where
  childList : options.childList = true
  attributes : options.attributes = true
  characterData : options.characterData = true

namespace Document

variable {doc after : Document} {options : ObserveOptions} {changes : List Change} {c : Nat}

/-- Around an element that no recorded change came near, nothing has changed. -/
theorem spared_of_unrelated (htags : doc.Tagged) (hall : options.OfAll)
    (hafter : after = (doc.observe options).takeRecords.2.changeAll changes)
    (hc : doc.isElement c = true) (hconnected : after.isConnected c = true)
    (hunrelated : ∀ n ∈ Mutation.targets after.takeRecords.1, after.page.related c n = false)
    {deps : Dependencies} (hsiblings : deps.siblings = false) :
    Spared options deps (doc.telling (some options) []) after c where
  documented := by
    rw [hafter]
    exact documented_changeAll rfl hall.childList changes
  filled := Nat.lt_of_le_of_lt (Nat.zero_le c) (lt_size_of_isElement hc)
  tags := htags
  connected := hconnected
  quiet kind _ n htold := by
    obtain ⟨record, hrecord, -, hn⟩ := htold
    exact hunrelated n (Mutation.mem_targets.mpr ⟨record, hrecord, hn⟩)
  attributes _ := hall.attributes
  text _ := hall.characterData
  siblings hasks := by simp [hsiblings] at hasks

/--
**An unrelated candidate keeps its verdict.**  A document whose tags are names goes through any
sequence of changes, all of which are recorded where they can be seen.  For an element that is
connected in the end, and unrelated to every node that the records touch, an argument of plain
texts without siblings, `has` and `contains` holds below it afterwards if and only if it did
before, whatever the styles.
-/
theorem verdict_kept (htags : doc.Tagged) (hall : options.OfAll)
    (hafter : after = (doc.observe options).takeRecords.2.changeAll changes)
    (hc : doc.isElement c = true) (hconnected : after.isConnected c = true)
    (hunrelated : ∀ n ∈ Mutation.targets after.takeRecords.1, after.page.related c n = false)
    {argument : Chain} (hsearches : Chain.searches argument = true)
    (hsiblings : (Chain.dependencies argument).siblings = false)
    (newStyles oldStyles : List Style) :
    argument.HoldsBelow after.page newStyles c ↔ argument.HoldsBelow doc.page oldStyles c := by
  -- Selectors may ask for anything but siblings.
  let deps : Dependencies := ⟨false, true, true, false⟩
  have hspared : Spared options deps (doc.telling (some options) []) after c :=
    spared_of_unrelated htags hall hafter hc hconnected hunrelated rfl
  have hwithin : (Chain.dependencies argument).Within deps :=
    ⟨fun _ => rfl, fun _ => rfl, fun hasks => by simp [hsiblings] at hasks⟩
  have halike := hspared.page_alike
  rw [page_telling] at halike
  have hjoining : Joining deps argument "" := ⟨hsearches, hwithin, .nil⟩
  rw [Chain.holdsBelow_iff, Chain.holdsBelow_iff,
    holdsAt_course halike (course_joining rfl newStyles oldStyles) hjoining (contains_self c)]

/-- Beside a box with a paragraph, a span comes, and an element in it that goes again. -/
theorem verdict_kept_box :
    let everything : ObserveOptions := ⟨true, true, true, true, false⟩
    let after := (Engine.boxDocument.observe everything).takeRecords.2.changeAll
      [.appendElement 1 "span", .appendElement 4 "i", .setAttribute 5 "id" "x", .remove 5]
    Mutation.targets after.takeRecords.1 = [4, 5] ∧
    Chain.HoldsBelow Engine.boxDocument.page [] [.plain "p"] 2 ∧
    Chain.HoldsBelow after.page [] [.plain "p"] 2 := by
  intro everything after
  have htargets : Mutation.targets after.takeRecords.1 = [4, 5] := by decide +kernel
  have hbefore : Chain.HoldsBelow Engine.boxDocument.page [] [.plain "p"] 2 := by
    refine Chain.holdsBelow_iff.mpr (List.any_eq_true.mpr ⟨("p", []), ?_, ?_⟩)
    · exact mem_founds_plain.mpr (List.mem_singleton_self _)
    · decide +kernel
  refine ⟨htargets, hbefore, ?_⟩
  refine (verdict_kept (by decide) ⟨rfl, rfl, rfl⟩ rfl (by decide) (by decide +kernel) ?_ rfl
    (by decide) [] []).mpr hbefore
  rw [htargets]
  decide +kernel

end Document

end CosmeticFilter
