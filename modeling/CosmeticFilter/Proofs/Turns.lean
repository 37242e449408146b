/-
Pulls of an evaluation on a page that changes.

An evaluation rests between two pulls, and the page may be another one each time, of any size.
No number of pulls is known in advance: a frame asks for its candidates on the page of the pull
that needs them.  That the pulls come to an end all the same is `Evaluation.ends`; here it is
said of the row of states that the pulls lead through.

One pull may ask several frames.  A frame that gives a selector puts a new one for the next link
on top, which is asked at once, and a frame with an argument pulls the evaluation of it.  A frame
that searches the style rules goes on from selector to selector until one of them is good.
Written out as the loop that it is, with a number of turns that it must not exceed, a pull takes
no more turns than there are links behind the frames that can be asked, and rules and selectors
that these may search.  No pull adds to them, so that the chain and the styles bound the turns
of every pull, whatever the page is.
-/
import CosmeticFilter.Evaluation.Ending
import CosmeticFilter.Proofs.Generator

namespace CosmeticFilter

variable {N S : Type}

mutual

/-- The turns of an argument, or those of a search through these styles. -/
def Link.turns (styles : List Style) : Link → Nat
  | .plain _ | .contains _ => 0
  | .properties _ => styleTurns styles
  | .has argument => Chain.turns styles argument

/-- The turns of the links of a chain, with one for each link and one more for each chain. -/
def Chain.turns (styles : List Style) : List Link → Nat
  | [] => 1
  | link :: rest => link.turns styles + Chain.turns styles rest + 1

end

/-- The turns that a link takes before it gives a selector or is over. -/
def Link.probes (styles : List Style) : Link → Nat
  | .plain _ | .contains _ | .has _ => 0
  | .properties _ => styleTurns styles

theorem Link.probes_le_turns (styles : List Style) (link : Link) :
    link.probes styles ≤ link.turns styles := by
  cases link <;> simp [probes, turns]

/-- The turns in which a selector is refined by these links. -/
def Chain.descents (styles : List Style) : Chain → Nat
  | [] => 0
  | link :: rest => link.probes styles + 1 + descents styles rest

theorem Chain.descents_lt_turns (styles : List Style) (chain : Chain) :
    descents styles chain < Chain.turns styles chain := by
  induction chain with
  | nil => exact Nat.one_pos
  | cons link rest ih =>
    have hlink := link.probes_le_turns styles
    rw [descents, turns]
    omega

namespace Evaluation

/-! ### Turn by turn -/

/-- A selector is an item behind the last link, and else it gets a frame for the next link. -/
def opened (scene : Scene N S) : Chain → Descent N
  | [] => fun selector _ anchors below => ⟨some (.found selector anchors), below, []⟩
  | link :: rest => fun selector scope anchors below =>
    ⟨none, frame scene.styles link selector scope ⟨rest, anchors⟩ below, []⟩

/-- One turn of the search of a `properties` link. -/
def turnProperties (descend : Descent N) (pos : Position N) (search : StyleSearch) (scope : N)
    (below : Evaluation N) : Pulled N :=
  match search.probe with
  | .ended => .pause below
  | .passed later => ⟨none, .properties pos later scope below, []⟩
  | .found selector later =>
    descend selector scope pos.anchors (.properties pos later scope below)

/-- Asks the topmost frame once.  No item says that the frame on top is to be asked next. -/
def turn [DecidableEq N] (scene : Scene N S) (ask : Evaluation N → Option (Pulled N)) :
    Evaluation N → Option (Pulled N)
  | .finished => some ⟨none, .finished, []⟩
  | .single selector => some ⟨some (.found selector []), .finished, []⟩
  | .plain pos pending scope below =>
    some (pullPlain (opened scene pos.rest) pos pending scope below)
  | .properties pos search scope below =>
    some (turnProperties (opened scene pos.rest) pos search scope below)
  | .contains pos expression candidates scope last below =>
    some (pullContains scene (opened scene pos.rest) pos expression candidates scope last below)
  | .has pos argument candidates below => some (pullHas scene pos argument candidates below)
  | .trying pos argument candidates candidate inner below =>
    (ask inner).map fun pulled =>
      pullTrying scene (opened scene pos.rest) pos argument candidates candidate pulled below

/-- Goes on in the next state, as long as there is no item. -/
def goOn (ask : Evaluation N → Option (Pulled N)) (turned : Pulled N) : Option (Pulled N) :=
  match turned.item with
  | some _ => some turned
  | none => (ask turned.next).map (.after turned.reports)

/-- A pull in at most so many turns.  The evaluation of an argument is pulled by the same loop. -/
def pullWithin [DecidableEq N] (scene : Scene N S) : Nat → Evaluation N → Option (Pulled N)
  | 0, _ => none
  | _ + 1, .finished => some ⟨none, .finished, []⟩
  | limit + 1, e =>
    (turn scene (pullWithin scene.unpruned limit) e).bind (goOn (pullWithin scene limit))

/-- The turns that a pull may take. -/
def turns (styles : List Style) : Evaluation N → Nat
  | .finished | .single _ => 1
  | .plain pos _ _ _ | .contains pos _ _ _ _ _ | .has pos _ _ _ =>
    Chain.descents styles pos.rest + 1
  | .properties pos search _ _ => search.left + Chain.descents styles pos.rest + 1
  | .trying pos _ _ _ inner _ => Chain.descents styles pos.rest + turns styles inner + 1

theorem turns_frame (styles : List Style) (link : Link) (rest : Chain) (before : String)
    (scope : N) (anchors : List N) (below : Evaluation N) :
    turns styles (frame styles link before scope ⟨rest, anchors⟩ below) =
      Chain.descents styles (link :: rest) := by
  rw [Chain.descents]
  cases link <;> simp only [frame, turns, Link.probes, StyleSearch.left_ofStyles] <;> omega

/-! ### The loop gives what the pull gives -/

theorem goOn_after {ask : Evaluation N → Option (Pulled N)} {turned pulled : Pulled N}
    (h : goOn ask turned = some pulled) (reports : List (Report N)) :
    goOn ask (.after reports turned) = some (.after reports pulled) := by
  obtain ⟨item, next, others⟩ := turned
  cases item with
  | some item =>
    obtain rfl := Option.some.inj h
    rfl
  | none =>
    obtain ⟨last, hlast, rfl⟩ := Option.map_eq_some_iff.mp h
    simp [goOn, Pulled.after, hlast]

/-- To open a frame and go on with it gives what the descent gives at once. -/
def Continues (ask : Evaluation N → Option (Pulled N)) (opening descent : Descent N) : Prop :=
  ∀ selector scope anchors below,
    goOn ask (opening selector scope anchors below) = some (descent selector scope anchors below)

section Frames

variable {ask : Evaluation N → Option (Pulled N)} {opening descent : Descent N}
  (h : Continues ask opening descent) (pos : Position N)

include h

theorem continues_plain (pending : Option String) (scope : N) (below : Evaluation N) :
    goOn ask (pullPlain opening pos pending scope below) =
      some (pullPlain descent pos pending scope below) := by
  cases pending with
  | none => rfl
  | some selector => exact h _ _ _ _

/-- What is asked next is known to go on with the search. -/
theorem continues_properties {search : StyleSearch} {scope : N} {below : Evaluation N}
    (hask : ∀ later, search.probe.later? = some later →
      ask (.properties pos later scope below) =
        some (pullProperties descent pos later scope below)) :
    goOn ask (turnProperties opening pos search scope below) =
      some (pullProperties descent pos search scope below) := by
  unfold turnProperties pullProperties
  cases hprobe : search.probe with
  | ended =>
    rw [StyleSearch.next_of_ended hprobe]
    rfl
  | passed later =>
    have hlater := hask later (by rw [hprobe]; rfl)
    rw [StyleSearch.next_of_passed hprobe]
    simp only [goOn, hlater, Option.map_some]
    rfl
  | found selector later =>
    rw [StyleSearch.next_of_found hprobe]
    exact h _ _ _ _

variable [DecidableEq N] {scene : Scene N S}

theorem continues_contains (expression : Option Regex) (candidates : Candidates N) (scope : N)
    (last : Option N) (below : Evaluation N) :
    goOn ask (pullContains scene opening pos expression candidates scope last below) =
      some (pullContains scene descent pos expression candidates scope last below) := by
  simp only [pullContains]
  refine goOn_after ?_ _
  cases (candidates.fetch scene.page).1 with
  | nil => rfl
  | cons candidate more =>
    dsimp only
    split
    · rfl
    · refine goOn_after ?_ _
      split
      · exact h _ _ _ _
      · rfl

theorem continues_trying (argument : Chain) (candidates : Candidates N) (candidate : N)
    (inner : Pulled N) (below : Evaluation N) :
    goOn ask (pullTrying scene opening pos argument candidates candidate inner below) =
      some (pullTrying scene descent pos argument candidates candidate inner below) := by
  simp only [pullTrying]
  refine goOn_after ?_ _
  split
  · rfl
  · rfl
  · split
    · exact h _ _ _ _
    · rfl
    · rfl

end Frames

theorem goOn_pullHas (ask : Evaluation N → Option (Pulled N)) (scene : Scene N S)
    (pos : Position N) (argument : Chain) (candidates : Candidates N) (below : Evaluation N) :
    goOn ask (pullHas scene pos argument candidates below) =
      some (pullHas scene pos argument candidates below) := by
  simp only [pullHas]
  refine goOn_after ?_ _
  cases (candidates.fetch scene.page).1 with
  | nil => rfl
  | cons candidate more =>
    dsimp only
    split
    · rfl
    · exact goOn_after rfl _

variable [DecidableEq N]

/-- **The turns that a pull may take are enough**, on every page. -/
theorem pullWithin_eq {limit : Nat} {e : Evaluation N} {scene : Scene N S}
    (h : turns scene.styles e ≤ limit) : pullWithin scene limit e = some (e.pull scene) := by
  induction limit generalizing e scene with
  | zero => cases e <;> simp [turns] at h
  | succ limit ih =>
    have hcontinues : ∀ rest : Chain, Chain.descents scene.styles rest ≤ limit →
        Continues (pullWithin scene limit) (opened scene rest) (descend scene rest) := by
      intro rest hrest selector scope anchors below
      cases rest with
      | nil => rfl
      | cons link more =>
        have hframe : turns scene.styles
            (frame scene.styles link selector scope ⟨more, anchors⟩ below) ≤ limit := by
          rw [turns_frame]
          exact hrest
        rw [descend_cons, opened, goOn]
        simp [ih hframe, Pulled.after]
    cases e with
    | finished => rfl
    | single selector => rfl
    | plain pos pending scope below =>
      exact continues_plain (hcontinues _ (Nat.le_of_succ_le_succ h)) pos pending scope below
    | properties pos search scope below =>
      have hle : search.left + Chain.descents scene.styles pos.rest ≤ limit :=
        Nat.le_of_succ_le_succ h
      refine continues_properties (hcontinues _ (by omega)) pos fun later hlater => ?_
      have hless := StyleSearch.left_of_probe hlater
      exact ih (e := .properties pos later scope below) (by rw [turns]; omega)
    | contains pos expression candidates scope last below =>
      exact continues_contains (hcontinues _ (Nat.le_of_succ_le_succ h)) pos expression candidates
        scope last below
    | has pos argument candidates below => exact goOn_pullHas _ scene pos argument candidates below
    | trying pos argument candidates candidate inner below =>
      have hle : Chain.descents scene.styles pos.rest + turns scene.styles inner ≤ limit :=
        Nat.le_of_succ_le_succ h
      have hargument : turns scene.unpruned.styles inner ≤ limit :=
        Nat.le_trans (Nat.le_add_left _ _) hle
      have hinner : pullWithin scene.unpruned limit inner = some (inner.pull scene.unpruned) :=
        ih hargument
      rw [pullWithin, turn, hinner]
      · exact continues_trying (hcontinues _ (by omega)) pos argument candidates candidate _ below
      · exact fun h => nomatch h

/-! ### Room for all later pulls -/

omit [DecidableEq N] in
/-- The turns that this pull and all later ones may take. -/
def room (styles : List Style) : Evaluation N → Nat
  | .finished | .single _ => 1
  | .plain pos _ _ below | .contains pos _ _ _ _ below =>
    max (Chain.turns styles pos.rest) (room styles below)
  | .properties pos search _ below =>
    max (search.left + Chain.turns styles pos.rest) (room styles below)
  | .has pos argument _ below =>
    max (Chain.turns styles pos.rest + Chain.turns styles argument) (room styles below)
  | .trying pos argument _ _ inner below =>
    max (Chain.turns styles pos.rest + max (Chain.turns styles argument) (room styles inner))
      (room styles below)

omit [DecidableEq N] in
theorem turns_le_room (styles : List Style) (e : Evaluation N) :
    turns styles e ≤ room styles e := by
  induction e with
  | finished | single => exact Nat.le_refl 1
  | plain pos | properties pos | contains pos | has pos | trying pos =>
    have hrest := Chain.descents_lt_turns styles pos.rest
    simp only [turns, room]
    omega

omit [DecidableEq N] in
theorem room_frame (styles : List Style) (link : Link) (rest : Chain) (before : String)
    (scope : N) (anchors : List N) (below : Evaluation N) :
    room styles (frame styles link before scope ⟨rest, anchors⟩ below) ≤
      max (Chain.turns styles (link :: rest)) (room styles below) := by
  cases link <;>
    simp only [frame, room, Chain.turns, Link.turns, StyleSearch.left_ofStyles] <;> omega

omit [DecidableEq N] in
theorem room_start (styles : List Style) (chain : Chain) (before : String) (scope : N) :
    room styles (start styles chain before scope) ≤ Chain.turns styles chain := by
  cases chain with
  | nil => exact Nat.le_refl 1
  | cons link rest =>
    have hframe := room_frame styles link rest before scope [] .finished
    have hrest := Chain.descents_lt_turns styles (link :: rest)
    rw [room] at hframe
    rw [start]
    omega

/-- To go on with a selector needs room for the links that follow, and no more. -/
def Keeps (styles : List Style) (rest : Chain) (descent : Descent N) : Prop :=
  ∀ selector scope anchors below,
    room styles (descent selector scope anchors below).next ≤
      max (Chain.turns styles rest) (room styles below)

section Frames

variable {styles : List Style} {scene : Scene N S} (pos : Position N) {descent : Descent N}

omit [DecidableEq N] in
theorem room_pullPlain (h : Keeps styles pos.rest descent) (pending : Option String) (scope : N)
    (below : Evaluation N) :
    room styles (pullPlain descent pos pending scope below).next ≤
      room styles (.plain pos pending scope below) := by
  cases pending with
  | none => exact Nat.le_max_right _ _
  | some selector =>
    have hnext := h selector scope pos.anchors (.plain pos none scope below)
    simp only [pullPlain, room] at hnext ⊢
    omega

omit [DecidableEq N] in
theorem room_pullProperties (h : Keeps styles pos.rest descent) (search : StyleSearch)
    (scope : N) (below : Evaluation N) :
    room styles (pullProperties descent pos search scope below).next ≤
      room styles (.properties pos search scope below) := by
  unfold pullProperties
  split
  · exact Nat.le_max_right _ _
  · rename_i selector later hfound
    have hless := StyleSearch.left_of_next hfound
    have hnext := h selector scope pos.anchors (.properties pos later scope below)
    simp only [room] at hnext ⊢
    omega

theorem room_pullContains (h : Keeps styles pos.rest descent) (expression : Option Regex)
    (candidates : Candidates N) (scope : N) (last : Option N) (below : Evaluation N) :
    room styles (pullContains scene descent pos expression candidates scope last below).next ≤
      room styles (.contains pos expression candidates scope last below) := by
  simp only [pullContains, Pulled.after_next]
  cases (candidates.fetch scene.page).1 with
  | nil => exact Nat.le_max_right _ _
  | cons candidate more =>
    dsimp only
    split
    · exact Nat.le_refl _
    · rw [Pulled.after_next]
      split
      · have hnext := h (scene.page.path candidate) scope (pos.anchors ++ [candidate])
          (.contains pos expression (candidates.remaining more) scope (some candidate) below)
        simp only [room] at hnext ⊢
        omega
      · exact Nat.le_refl _

omit [DecidableEq N] in
theorem room_pullHas (hstyles : scene.styles = styles) (argument : Chain)
    (candidates : Candidates N) (below : Evaluation N) :
    room styles (pullHas scene pos argument candidates below).next ≤
      room styles (.has pos argument candidates below) := by
  simp only [pullHas, Pulled.after_next]
  cases (candidates.fetch scene.page).1 with
  | nil => exact Nat.le_max_right _ _
  | cons candidate more =>
    dsimp only
    split
    · exact Nat.le_refl _
    · have hinner := room_start scene.styles argument "" candidate
      rw [hstyles] at hinner ⊢
      simp only [Pulled.after_next, Pulled.pause, room]
      omega

theorem room_pullTrying (h : Keeps styles pos.rest descent) (argument : Chain)
    (candidates : Candidates N) (candidate : N) {inner : Evaluation N} {pulled : Pulled N}
    (hinner : room styles pulled.next ≤ room styles inner) (below : Evaluation N) :
    room styles (pullTrying scene descent pos argument candidates candidate pulled below).next ≤
      room styles (.trying pos argument candidates candidate inner below) := by
  have hnext := h (scene.page.path candidate) candidate (pos.anchors ++ [candidate])
    (.has pos argument candidates below)
  simp only [pullTrying, Pulled.after_next, room] at hnext ⊢
  split
  · simp only [Pulled.pause, room]
    omega
  · simp only [Pulled.pause, room]
    omega
  · split
    · omega
    · simp only [Pulled.pause, room]
      omega
    · simp only [Pulled.after_next, Pulled.pause, room]
      omega

end Frames

theorem keeps_descend (scene : Scene N S) (rest : Chain) :
    Keeps scene.styles rest (descend scene rest) := by
  induction rest with
  | nil => exact fun _ _ _ below => Nat.le_max_right _ _
  | cons link rest ih =>
    intro selector scope anchors below
    have hframe := room_frame scene.styles link rest selector scope anchors below
    refine Nat.le_trans ?_ hframe
    cases link with
    | plain text => exact room_pullPlain ⟨rest, anchors⟩ ih _ scope below
    | has argument => exact room_pullHas ⟨rest, anchors⟩ rfl argument _ below
    | contains expression =>
      exact room_pullContains ⟨rest, anchors⟩ ih expression _ scope none below
    | properties expression => exact room_pullProperties ⟨rest, anchors⟩ ih _ scope below

/-- A pull never needs more room afterwards. -/
theorem room_pull (e : Evaluation N) : ∀ scene : Scene N S,
    room scene.styles (e.pull scene).next ≤ room scene.styles e := by
  induction e with
  | finished | single => exact fun _ => Nat.le_refl 1
  | plain pos pending scope below =>
    exact fun scene => room_pullPlain pos (keeps_descend scene pos.rest) pending scope below
  | properties pos search scope below =>
    exact fun scene => room_pullProperties pos (keeps_descend scene pos.rest) search scope below
  | contains pos expression candidates scope last below =>
    exact fun scene => room_pullContains pos (keeps_descend scene pos.rest) expression candidates
      scope last below
  | has pos argument candidates below =>
    exact fun scene => room_pullHas pos rfl argument candidates below
  | trying pos argument candidates candidate inner below ihinner =>
    exact fun scene => room_pullTrying pos (keeps_descend scene pos.rest) argument candidates
      candidate (ihinner scene.unpruned) below

/-! ### Pull after pull -/

/-- The state after so many pulls, each of them in a scene of its own. -/
def pulledOn (scenes : Nat → Scene N S) (e : Evaluation N) : Nat → Evaluation N
  | 0 => e
  | m + 1 => ((pulledOn scenes e m).pull (scenes m)).next

theorem pulledOn_succ (scenes : Nat → Scene N S) (e : Evaluation N) (m : Nat) :
    pulledOn scenes e (m + 1) =
      pulledOn (fun k => scenes (k + 1)) (e.pull (scenes 0)).next m := by
  induction m with
  | zero => rfl
  | succ m ih => rw [pulledOn, ih, pulledOn]

theorem pulledOn_finished (scenes : Nat → Scene N S) (m : Nat) :
    pulledOn scenes .finished m = .finished := by
  induction m with
  | zero => rfl
  | succ m ih => rw [pulledOn, ih, pull]

/-- The pulls give items up to some pull, and none from there on. -/
theorem exists_pulls (e : Evaluation N) (scenes : Nat → Scene N S) :
    ∃ n, ∀ m, ((pulledOn scenes e m).pull (scenes m)).item = none ↔ n ≤ m := by
  induction ends e generalizing scenes with
  | intro e _ ih =>
    cases hitem : (e.pull (scenes 0)).item with
    | none =>
      have hover := (left_pull e (scenes 0)).2 hitem
      refine ⟨0, fun m => iff_of_true ?_ (Nat.zero_le m)⟩
      cases m with
      | zero => exact hitem
      | succ m => rw [pulledOn_succ, hover, pulledOn_finished, pull]
    | some item =>
      obtain ⟨n, hn⟩ := ih _ (follows_of_item hitem) fun k => scenes (k + 1)
      refine ⟨n + 1, fun m => ?_⟩
      cases m with
      | zero => simp [pulledOn, hitem]
      | succ m => rw [pulledOn_succ, hn, Nat.succ_le_succ_iff]

theorem room_pulledOn {styles : List Style} {scenes : Nat → Scene N S}
    (hstyles : ∀ m, (scenes m).styles = styles) (e : Evaluation N) (m : Nat) :
    room styles (pulledOn scenes e m) ≤ room styles e := by
  induction m with
  | zero => exact Nat.le_refl _
  | succ m ih =>
    have hpull := room_pull (pulledOn scenes e m) (scenes m)
    rw [hstyles] at hpull
    exact Nat.le_trans hpull ih

/--
**An evaluation is over after finitely many pulls**, and stays so, whatever becomes of the page
between them.  Each of the pulls gives its result in no more turns than the chain and the styles
allow, whatever page it finds.
-/
theorem evaluation_ends (styles : List Style) (targets : Option (List N)) (chain : Chain)
    (before : String) (scope : N) (pages : Nat → Page N S) :
    let scenes : Nat → Scene N S := fun m => ⟨pages m, styles, targets⟩
    let state := pulledOn scenes (start styles chain before scope)
    (∃ n, ∀ m, ((state m).pull (scenes m)).item = none ↔ n ≤ m) ∧
      ∀ m, ∀ limit ≥ Chain.turns styles chain,
        pullWithin (scenes m) limit (state m) = some ((state m).pull (scenes m)) := by
  intro scenes state
  have hstyles : ∀ m, (scenes m).styles = styles := fun _ => rfl
  refine ⟨exists_pulls _ _, fun m limit hlimit => pullWithin_eq ?_⟩
  calc turns styles (state m)
    _ ≤ room styles (state m) := turns_le_room _ _
    _ ≤ room styles (start styles chain before scope) := room_pulledOn hstyles _ _
    _ ≤ Chain.turns styles chain := room_start _ _ _ _
    _ ≤ limit := hlimit

end Evaluation

end CosmeticFilter
