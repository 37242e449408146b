/-
A table that tracks hits while the page changes.

A run after changes looks only at what the changes may have touched, so the table that it
leaves does not collect exactly the hits of the page: an anchor that holds no longer may stay
beside others that do.  Such an anchor does no harm as long as it contains one that holds,
for then a run that reaches the anchor inside reaches it too.  This is the invariant: every
hit is recorded with its anchors, and for every recorded match there is a hit, the innermost
one, whose anchors lie inside of all that are recorded.

A run keeps it if what the run covers it has found, and if what it does not cover is a hit
now exactly when it was one before.
-/
import CosmeticFilter.Proofs.Spurious

namespace CosmeticFilter

variable {N S κ : Type} [DecidableEq N]

/-! ### Anchors inside of others -/

section Inside

/-- Each of the outer nodes contains one of the inner nodes. -/
def Page.Inside (page : Page N S) (outer inner : List N) : Prop :=
  ∀ x ∈ outer, ∃ y ∈ inner, page.contains x y = true

variable {page : Page N S}

omit [DecidableEq N] in
theorem Page.Inside.trans (h : page.Orderly) {a b c : List N} (hab : page.Inside a b)
    (hbc : page.Inside b c) : page.Inside a c := by
  intro x hx
  obtain ⟨y, hy, hxy⟩ := hab x hx
  obtain ⟨z, hz, hyz⟩ := hbc y hy
  exact ⟨z, hz, h.trans hxy hyz⟩

omit [DecidableEq N] in
/-- Of two lists of one node at most, both around the same node, one lies inside of the other. -/
theorem Page.Orderly.inside_total (h : page.Orderly) {n : N} {a b : List N}
    (ha : ∀ x ∈ a, page.contains x n = true) (hb : ∀ x ∈ b, page.contains x n = true)
    (halength : a.length ≤ 1) (hblength : b.length ≤ 1) :
    page.Inside a b ∨ page.Inside b a := by
  match a, b, halength, hblength with
  | [], _, _, _ => exact .inl fun x hx => absurd hx List.not_mem_nil
  | _, [], _, _ => exact .inr fun x hx => absurd hx List.not_mem_nil
  | [x], [y], _, _ =>
    have hrelated := h.branch (ha x List.mem_cons_self) (hb y List.mem_cons_self)
    rcases Bool.or_eq_true _ _ ▸ hrelated with hxy | hyx
    · exact .inl (List.forall_mem_singleton.mpr ⟨y, List.mem_cons_self, hxy⟩)
    · exact .inr (List.forall_mem_singleton.mpr ⟨x, List.mem_cons_self, hyx⟩)

/-- A relation that compares all elements of a list has a last one. -/
theorem exists_last {α : Type} {r : α → α → Prop} (htrans : ∀ a b c, r a b → r b c → r a c)
    {list : List α} (hne : list ≠ []) (htotal : ∀ a ∈ list, ∀ b ∈ list, r a b ∨ r b a) :
    ∃ last ∈ list, ∀ a ∈ list, r a last := by
  induction list with
  | nil => exact absurd rfl hne
  | cons first rest ih =>
    have hself : r first first := (htotal _ List.mem_cons_self _ List.mem_cons_self).elim id id
    by_cases hrest : rest = []
    · subst hrest
      exact ⟨first, List.mem_cons_self, List.forall_mem_singleton.mpr hself⟩
    · obtain ⟨last, hlast, hall⟩ := ih hrest fun a ha b hb =>
        htotal a (List.mem_cons_of_mem _ ha) b (List.mem_cons_of_mem _ hb)
      rcases htotal first List.mem_cons_self last (List.mem_cons_of_mem _ hlast) with h | h
      · exact ⟨last, List.mem_cons_of_mem _ hlast, List.forall_mem_cons.mpr ⟨h, hall⟩⟩
      · exact ⟨first, List.mem_cons_self,
          List.forall_mem_cons.mpr ⟨hself, fun a ha => htrans a last first (hall a ha) h⟩⟩

end Inside

/-! ### Nested hits -/

/-- The hits of a page whose patterns have one `has` at most. -/
structure Nested (page : Page N S) (hits : List (Hit N)) : Prop where
  unique : ∀ hit ∈ hits, ∀ other ∈ hits, hit.pattern.serial = other.pattern.serial →
    hit.pattern = other.pattern
  connected : ∀ hit ∈ hits, page.isConnected hit.node = true
  length : ∀ hit ∈ hits, hit.anchors.length ≤ 1
  inside : ∀ hit ∈ hits, hit.pattern.dependencies.siblings = false →
    ∀ a ∈ hit.anchors, page.contains a hit.node = true

omit [DecidableEq N] in
theorem Nested.mono {page : Page N S} {few hits : List (Hit N)} (h : Nested page hits)
    (hsubset : ∀ hit ∈ few, hit ∈ hits) : Nested page few where
  unique hit hhit other hother := h.unique hit (hsubset hit hhit) other (hsubset other hother)
  connected hit hhit := h.connected hit (hsubset hit hhit)
  length hit hhit := h.length hit (hsubset hit hhit)
  inside hit hhit := h.inside hit (hsubset hit hhit)

omit [DecidableEq N] in
theorem Nested.total {page : Page N S} (horderly : page.Orderly) {hits : List (Hit N)}
    (h : Nested page hits) {hit other : Hit N} (hhit : hit ∈ hits) (hother : other ∈ hits)
    (hnode : other.node = hit.node) (hpattern : other.pattern = hit.pattern)
    (hsiblings : hit.pattern.dependencies.siblings = false) :
    page.Inside hit.anchors other.anchors ∨ page.Inside other.anchors hit.anchors := by
  refine horderly.inside_total (h.inside hit hhit hsiblings) ?_ (h.length hit hhit)
    (h.length other hother)
  rw [← hnode]
  exact h.inside other hother (hpattern ▸ hsiblings)

/-- Of two hits of one pattern on one node, the inner one is inside of the anchors of both. -/
theorem Nested.exists_inside_addAnchors {page : Page N S} (horderly : page.Orderly)
    {hits : List (Hit N)} (h : Nested page hits) {known : Match N} {more : List N}
    {first other : Hit N} (hfirst : first ∈ hits) (hother : other ∈ hits)
    (hnode : other.node = first.node) (hpattern : first.pattern = known.pattern)
    (hagain : other.pattern = known.pattern)
    (hknown : known.pattern.dependencies.siblings = false →
      page.Inside known.anchors first.anchors)
    (hmore : known.pattern.dependencies.siblings = false → page.Inside more other.anchors) :
    ∃ hit ∈ hits, hit.node = first.node ∧ hit.pattern = known.pattern ∧
      (known.pattern.dependencies.siblings = false →
        page.Inside (known.addAnchors more).anchors hit.anchors) := by
  cases hsiblings : known.pattern.dependencies.siblings with
  | true => exact ⟨first, hfirst, rfl, hpattern, by simp⟩
  | false =>
    have htotal := h.total horderly hfirst hother hnode (hagain.trans hpattern.symm)
      (hpattern ▸ hsiblings)
    rcases htotal with hlater | hlater
    · refine ⟨other, hother, hnode, hagain, fun _ a ha => ?_⟩
      rcases mem_addNew.mp ha with ha | ha
      · exact (hknown hsiblings).trans horderly hlater a ha
      · exact hmore hsiblings a ha
    · refine ⟨first, hfirst, rfl, hpattern, fun _ a ha => ?_⟩
      rcases mem_addNew.mp ha with ha | ha
      · exact hknown hsiblings a ha
      · exact (hmore hsiblings).trans horderly hlater a ha

/-! ### The invariant -/

/-- The table records all hits, and what else it records lies around a hit. -/
structure Tracks (page : Page N S) (table : MatchTable N) (hits : List (Hit N)) : Prop where
  tidy : table.Tidy
  recorded : ∀ hit ∈ hits, ∃ m, table.match? hit.node hit.pattern = some m ∧
    ∀ a ∈ hit.anchors, a ∈ m.anchors
  valid : ∀ n pattern m, table.match? n pattern = some m →
    ∃ hit ∈ hits, hit.node = n ∧ hit.pattern = m.pattern ∧
      (m.pattern.dependencies.siblings = false → page.Inside m.anchors hit.anchors)

namespace Tracks

variable {page : Page N S} {table : MatchTable N} {hits : List (Hit N)}

/-- The elements of the table are those that are hit. -/
theorem mem_nodes (h : Tracks page table hits) {n : N} :
    n ∈ table.nodes ↔ ∃ hit ∈ hits, hit.node = n := by
  rw [h.tidy.mem_nodes_iff]
  constructor
  · rintro ⟨pattern, m, hm⟩
    obtain ⟨hit, hhit, hnode, -⟩ := h.valid n pattern m hm
    exact ⟨hit, hhit, hnode⟩
  · rintro ⟨hit, hhit, rfl⟩
    obtain ⟨m, hm, -⟩ := h.recorded hit hhit
    exact ⟨hit.pattern, m, hm⟩

/-- A table goes on to track the same hits, if what lies around them stays around them. -/
theorem carried (h : Tracks page table hits) {after : Page N S} {others : List (Hit N)}
    (hmem : ∀ hit, hit ∈ others ↔ hit ∈ hits)
    (hcarried : ∀ hit ∈ hits, hit.pattern.dependencies.siblings = false →
      ∀ outer, page.Inside outer hit.anchors → after.Inside outer hit.anchors) :
    Tracks after table others := by
  refine ⟨h.tidy, fun hit hhit => h.recorded hit ((hmem hit).mp hhit), ?_⟩
  intro n pattern m hm
  obtain ⟨hit, hhit, hnode, hpattern, hinside⟩ := h.valid n pattern m hm
  exact ⟨hit, (hmem hit).mpr hhit, hnode, hpattern, fun hsiblings =>
    hcarried hit hhit (hpattern ▸ hsiblings) _ (hinside hsiblings)⟩

/-- A table that collects hits exactly tracks them. -/
theorem of_collects (horderly : page.Orderly) (hnested : Nested page hits)
    (h : Collects table hits) : Tracks page table hits := by
  refine ⟨h.tidy, ?_, ?_⟩
  · intro hit hhit
    obtain ⟨m, hm⟩ := (h.found hit.node hit.pattern).mpr ⟨hit, hhit, rfl, rfl⟩
    exact ⟨m, hm, fun a ha => (h.anchors _ _ m hm a).mpr ⟨hit, hhit, rfl, rfl, ha⟩⟩
  · intro n pattern m hm
    obtain ⟨first, hfirst, hnode, hpattern⟩ := h.pattern n pattern m hm
    cases hsiblings : m.pattern.dependencies.siblings with
    | true => exact ⟨first, hfirst, hnode, hpattern, by simp⟩
    | false =>
      have hserial := MatchTable.match?_serial hm
      -- The hits of the match, and the innermost of them.
      let those := hits.filter fun hit =>
        decide (hit.node = n) && decide (hit.pattern.serial = pattern.serial)
      have hthose : ∀ hit, hit ∈ those ↔
          hit ∈ hits ∧ hit.node = n ∧ hit.pattern.serial = pattern.serial := by
        simp [those]
      have hsame : ∀ hit ∈ those, hit.pattern = m.pattern := by
        intro hit hhit
        obtain ⟨hmem, -, heq⟩ := (hthose hit).mp hhit
        rw [← hpattern]
        refine hnested.unique hit hmem first hfirst ?_
        rw [heq, hpattern, hserial]
      have hmem : first ∈ those := (hthose first).mpr ⟨hfirst, hnode, hpattern ▸ hserial⟩
      obtain ⟨last, hlast, hall⟩ := exists_last
        (r := fun hit other : Hit N => page.Inside hit.anchors other.anchors)
        (fun a b c => Page.Inside.trans horderly) (List.ne_nil_of_mem hmem) fun a ha b hb =>
          hnested.total horderly ((hthose a).mp ha).1 ((hthose b).mp hb).1
            (((hthose b).mp hb).2.1.trans ((hthose a).mp ha).2.1.symm)
            ((hsame b hb).trans (hsame a ha).symm) (hsame a ha ▸ hsiblings)
      refine ⟨last, ((hthose last).mp hlast).1, ((hthose last).mp hlast).2.1, hsame last hlast,
        fun _ a ha => ?_⟩
      obtain ⟨hit, hhit, hat, heq, ha⟩ := (h.anchors n pattern m hm a).mp ha
      exact hall hit ((hthose hit).mpr ⟨hhit, hat, heq⟩) a ha

end Tracks

/-! ### What a run covers -/

namespace Run

section Covers

variable {page : Page N S} {run : Run N} {pattern : Pattern}

omit [DecidableEq N] in
/-- What a run covers depends on what its candidates reach. -/
theorem covers_of_reaches {known other : List N}
    (hreaches : ∀ candidate ∈ run.candidates, reaches page candidate ⟨pattern, known⟩ = true →
      reaches page candidate ⟨pattern, other⟩ = true)
    (h : run.covers page ⟨pattern, known⟩ = true) : run.covers page ⟨pattern, other⟩ = true := by
  unfold covers at h ⊢
  simp only at h ⊢
  by_cases hfull : run.full = true
  · rw [if_pos hfull]
  · rw [if_neg hfull] at h ⊢
    by_cases hstyles : (!run.completeStyles && pattern.dependencies.style) = true
    · simp [hstyles] at h
    · rw [if_neg hstyles] at h ⊢
      cases hfind : run.candidates.find? fun candidate => candidate.pattern.same pattern with
      | none => simp [hfind] at h
      | some candidate =>
        rw [hfind] at h
        exact hreaches candidate (List.mem_of_find?_eq_some hfind) h

omit [DecidableEq N] in
theorem covers_of_subset {few many : List N} (hsubset : ∀ a ∈ few, a ∈ many)
    (h : run.covers page ⟨pattern, many⟩ = true) : run.covers page ⟨pattern, few⟩ = true := by
  refine covers_of_reaches (fun candidate _ hreaches => ?_) h
  unfold reaches at hreaches ⊢
  cases htargets : candidate.targets with
  | none => rfl
  | some targets =>
    simp only [htargets, Option.all_some, List.all_eq_true] at hreaches ⊢
    exact fun a ha => hreaches a (hsubset a ha)

omit [DecidableEq N] in
/-- A run that reaches what is inside reaches what is around it. -/
theorem covers_of_inside (horderly : page.Orderly) {outer inner : List N}
    (hinside : page.Inside outer inner) (h : run.covers page ⟨pattern, inner⟩ = true) :
    run.covers page ⟨pattern, outer⟩ = true := by
  refine covers_of_reaches (fun candidate _ hreaches => ?_) h
  unfold reaches at hreaches ⊢
  cases htargets : candidate.targets with
  | none => rfl
  | some targets =>
    simp only [htargets, Option.all_some, List.all_eq_true] at hreaches ⊢
    intro x hx
    obtain ⟨y, hy, hxy⟩ := hinside x hx
    obtain ⟨target, htarget, hrelated⟩ := List.any_eq_true.mp (hreaches y hy)
    exact List.any_eq_true.mpr ⟨target, htarget, horderly.related_of_contains hxy hrelated⟩

end Covers

/-! ### One run -/

/--
A run after changes of the page, with the hits that it found and those of the page before and
after.  What it does not cover is a hit when it was one before.
-/
structure Updates (before after : Page N S) (run : Run N) (found old new : List (Hit N)) :
    Prop where
  orderly : after.Orderly
  nested : Nested after new
  finds : Tracks after run.findings.matched found
  subset : ∀ hit ∈ found, hit ∈ new
  covered : ∀ hit ∈ new, run.covers after ⟨hit.pattern, hit.anchors⟩ = true → hit ∈ found
  kept : ∀ hit, run.covers after ⟨hit.pattern, hit.anchors⟩ = false →
    (hit ∈ new ↔ hit ∈ old ∧ after.isConnected hit.node = true)
  unique : ∀ hit ∈ old, ∀ other ∈ new, hit.pattern.serial = other.pattern.serial →
    hit.pattern = other.pattern
  carried : ∀ hit ∈ old, hit.pattern.dependencies.siblings = false →
    after.isConnected hit.node = true →
    ∀ outer, before.Inside outer hit.anchors → after.Inside outer hit.anchors
  /-- If siblings matter, the run looks everywhere or nowhere. -/
  everywhere : ∀ hit ∈ old, hit.pattern.dependencies.siblings = true → ∀ anchors others,
    run.covers after ⟨hit.pattern, anchors⟩ = run.covers after ⟨hit.pattern, others⟩

namespace Updates

variable {before after : Page N S} {run : Run N} {found old new : List (Hit N)}
  {hidden : MatchTable N}

/-- A known match records, when it is renewed, the hits that there are. -/
theorem renewed_recorded (h : Updates before after run found old new)
    (hhidden : Tracks before hidden old) {hit : Hit N} (hhit : hit ∈ new) {known : Match N}
    (hknown : hidden.match? hit.node hit.pattern = some known) :
    ∃ m, run.renewed after known (run.findings.matched.match? hit.node hit.pattern) = some m ∧
      ∀ a ∈ hit.anchors, a ∈ m.anchors := by
  cases hcovers : run.covers after ⟨hit.pattern, hit.anchors⟩ with
  | true =>
    obtain ⟨again, hagain, hanchors⟩ := h.finds.recorded hit (h.covered hit hhit hcovers)
    rw [hagain]
    cases hall : run.covers after known with
    | true => exact ⟨{ known with anchors := again.anchors }, by simp [renewed, hall], hanchors⟩
    | false =>
      exact ⟨known.addAnchors again.anchors, by simp [renewed, hall],
        fun a ha => mem_addNew.mpr (.inr (hanchors a ha))⟩
  | false =>
    obtain ⟨hold, -⟩ := (h.kept hit hcovers).mp hhit
    obtain ⟨m, hm, hanchors⟩ := hhidden.recorded hit hold
    obtain rfl := Option.some.inj (hm.symm.trans hknown)
    obtain ⟨other, hother, -, hpattern, -⟩ := hhidden.valid _ _ m hm
    have hsame : m.pattern = hit.pattern := by
      rw [← hpattern]
      refine h.unique other hother hit hhit ?_
      rw [hpattern, MatchTable.match?_serial hm]
    have hnot : run.covers after m = false := by
      refine Bool.eq_false_iff.mpr fun hyes => ?_
      rw [show m = ⟨hit.pattern, m.anchors⟩ by rw [← hsame]] at hyes
      simp [covers_of_subset hanchors hyes] at hcovers
    cases run.findings.matched.match? hit.node hit.pattern with
    | none => exact ⟨m, by simp [renewed, hnot], hanchors⟩
    | some again =>
      exact ⟨m.addAnchors again.anchors, by simp [renewed, hnot],
        fun a ha => mem_addNew.mpr (.inl (hanchors a ha))⟩

/-- A known match that the run found again lies around a hit, as far as it was found. -/
theorem again_valid (h : Updates before after run found old new) {n : N} {pattern : Pattern}
    {known again : Match N} {first : Hit N} (hfirst : first ∈ old)
    (hpattern : first.pattern = known.pattern) (hserial : known.pattern.serial = pattern.serial)
    (hagain : run.findings.matched.match? n pattern = some again) :
    ∃ hit ∈ new, hit.node = n ∧ hit.pattern = known.pattern ∧
      (known.pattern.dependencies.siblings = false →
        after.Inside again.anchors hit.anchors) := by
  obtain ⟨hit, hhit, hat, heq, hin⟩ := h.finds.valid n pattern again hagain
  have hsame : hit.pattern = known.pattern := by
    rw [← hpattern]
    refine (h.unique first hfirst hit (h.subset hit hhit) ?_).symm
    rw [heq, hpattern, MatchTable.match?_serial hagain, hserial]
  rw [← heq, hsame] at hin
  exact ⟨hit, h.subset hit hhit, hat, hsame, hin⟩

/-- Where a known match is not covered, the hit inside is not covered either and still one. -/
theorem still_valid (h : Updates before after run found old new) {known : Match N}
    (hcovers : run.covers after known = false) {first : Hit N} (hfirst : first ∈ old)
    (hpattern : first.pattern = known.pattern) (hconnected : after.isConnected first.node = true)
    (hinside : known.pattern.dependencies.siblings = false →
      before.Inside known.anchors first.anchors) :
    first ∈ new ∧ (known.pattern.dependencies.siblings = false →
      after.Inside known.anchors first.anchors) := by
  have hstays : known.pattern.dependencies.siblings = false →
      after.Inside known.anchors first.anchors := fun hsiblings =>
    h.carried first hfirst (hpattern ▸ hsiblings) hconnected _ (hinside hsiblings)
  have hnot : run.covers after ⟨first.pattern, first.anchors⟩ = false := by
    rw [hpattern]
    cases hsiblings : known.pattern.dependencies.siblings with
    | true =>
      have hany := h.everywhere first hfirst (hpattern ▸ hsiblings) first.anchors known.anchors
      rw [hpattern] at hany
      exact hany.trans hcovers
    | false =>
      refine Bool.eq_false_iff.mpr fun hyes => ?_
      exact absurd (covers_of_inside h.orderly (hstays hsiblings) hyes) (by simp [hcovers])
  exact ⟨(h.kept first hnot).mpr ⟨hfirst, hconnected⟩, hstays⟩

/-- A known match that is renewed lies around a hit. -/
theorem renewed_valid (h : Updates before after run found old new)
    (hhidden : Tracks before hidden old) {n : N} {pattern : Pattern} {known m : Match N}
    (hconnected : after.isConnected n = true) (hknown : hidden.match? n pattern = some known)
    (hm : run.renewed after known (run.findings.matched.match? n pattern) = some m) :
    ∃ hit ∈ new, hit.node = n ∧ hit.pattern = m.pattern ∧
      (m.pattern.dependencies.siblings = false → after.Inside m.anchors hit.anchors) := by
  obtain ⟨first, hfirst, rfl, hpattern, hinside⟩ := hhidden.valid n pattern known hknown
  have hserial := MatchTable.match?_serial hknown
  cases hcovers : run.covers after known with
  | true =>
    cases hmatch : run.findings.matched.match? first.node pattern with
    | none => simp [renewed, hmatch, hcovers] at hm
    | some again =>
      obtain rfl : { known with anchors := again.anchors } = m := by
        simpa [renewed, hmatch, hcovers] using hm
      have hagain := h.again_valid hfirst hpattern hserial hmatch
      exact hagain
  | false =>
    obtain ⟨hstill, hstays⟩ := h.still_valid hcovers hfirst hpattern hconnected hinside
    cases hmatch : run.findings.matched.match? first.node pattern with
    | none =>
      obtain rfl : known = m := by simpa [renewed, hmatch, hcovers] using hm
      exact ⟨first, hstill, rfl, hpattern, hstays⟩
    | some again =>
      obtain rfl : known.addAnchors again.anchors = m := by
        simpa [renewed, hmatch, hcovers] using hm
      obtain ⟨other, hother, hat, heq, hin⟩ := h.again_valid hfirst hpattern hserial hmatch
      exact h.nested.exists_inside_addAnchors h.orderly hstill hother hat hpattern heq hstays hin

/-- **A run after changes** leaves a table that tracks the hits of the page as it is now. -/
theorem hiddenAfter (h : Updates before after run found old new)
    (hhidden : Tracks before hidden old) :
    Tracks after (run.hiddenAfter after hidden) new := by
  refine ⟨tidy_hiddenAfter after run hhidden.tidy h.finds.tidy, ?_, ?_⟩
  · intro hit hhit
    have hconnected := h.nested.connected hit hhit
    cases hold : hidden.match? hit.node hit.pattern with
    | none =>
      -- What is new to the table has been found.
      have hcovers : run.covers after ⟨hit.pattern, hit.anchors⟩ = true := by
        refine (Bool.not_eq_false _).mp fun hnot => ?_
        obtain ⟨m, hm, -⟩ := hhidden.recorded hit ((h.kept hit hnot).mp hhit).1
        simp [hold] at hm
      rw [match?_hiddenAfter after run hhidden.tidy h.finds.tidy, if_pos hconnected, hold]
      exact h.finds.recorded hit (h.covered hit hhit hcovers)
    | some known =>
      obtain ⟨m, hm, hanchors⟩ := h.renewed_recorded hhidden hhit hold
      exact ⟨m, match?_hiddenAfter_of_renewed hhidden.tidy h.finds.tidy hconnected hold hm,
        hanchors⟩
  · intro n pattern m hm
    rcases cases_match?_hiddenAfter hhidden.tidy h.finds.tidy hm with
      ⟨hconnected, known, hknown, hm⟩ | hm
    · exact h.renewed_valid hhidden hconnected hknown hm
    · obtain ⟨hit, hhit, hrest⟩ := h.finds.valid n pattern m hm
      exact ⟨hit, h.subset hit hhit, hrest⟩

end Updates

end Run

end CosmeticFilter
