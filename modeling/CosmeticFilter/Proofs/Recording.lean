/-
The records of a document tell of every change that shows.

A document records a change where it is connected, and what is connected in the end was so
all the time, for a node that is detached never comes back.  So the records at the end tell
of every new node below a connected parent, of every connected node that lost a child, and,
if they are observed, of the attributes and the text of connected nodes.

`Documented` says this of two states of a document.  It holds for each single change, and
from one state to the next and on.  The records are for whoever takes them: a page does not
show them.
-/
import CosmeticFilter.Document.Change
import CosmeticFilter.Proofs.Tree

namespace CosmeticFilter.Document

/-- The text of a node itself. -/
def ownText (doc : Document) (n : Nat) : String :=
  match doc.kind? n with
  | some (.text data) => data
  | _ => ""

/-- Some record tells of a change of this kind that touches the node. -/
def Told (doc : Document) (kind : MutationKind) (n : Nat) : Prop :=
  ∃ record ∈ doc.records, record.kind = kind ∧ n ∈ record.touched

/-- The later state keeps the nodes of the earlier one, and its records tell what has changed. -/
structure Documented (options : ObserveOptions) (a b : Document) : Prop where
  observed : b.observed = a.observed
  size : a.size ≤ b.size
  records : ∀ record ∈ a.records, record ∈ b.records
  /-- A node keeps its parent or is detached. -/
  parent : ∀ n p, n < a.size → b.parentNode? n = some p → a.parentNode? n = some p
  isElement : ∀ n, n < a.size → b.isElement n = a.isElement n
  tag : ∀ n, n < a.size → b.family.tag n = a.family.tag n
  added : ∀ n p, a.size ≤ n → b.parentNode? n = some p → b.isConnected p = true →
    b.Told .childList n
  removed : ∀ n p, a.parentNode? n = some p → b.parentNode? n ≠ some p → b.isConnected p = true →
    b.Told .childList p
  attributes : options.attributes = true → ∀ n, n < a.size → b.isConnected n = true →
    b.family.attributes n ≠ a.family.attributes n → b.Told .attributes n
  text : options.characterData = true → ∀ n, n < a.size → b.isConnected n = true →
    b.ownText n ≠ a.ownText n → b.Told .characterData n

variable {options : ObserveOptions} {a b c : Document}

theorem Told.mono {kind : MutationKind} {n : Nat} (h : a.Told kind n)
    (hrecords : ∀ record ∈ a.records, record ∈ b.records) : b.Told kind n := by
  obtain ⟨record, hrecord, htells⟩ := h
  exact ⟨record, hrecords record hrecord, htells⟩

/-- If no old node gets another parent, what is around it in the end was around it before. -/
theorem contains_of_parents
    (hparents : ∀ n p, n < a.size → b.parentNode? n = some p → a.parentNode? n = some p)
    {m n : Nat} (hn : n < a.size) (hmn : b.contains m n = true) : a.contains m n = true := by
  rw [contains_iff] at hmn ⊢
  induction hmn using Relation.ReflTransGen.head_induction_on with
  | refl => exact .refl
  | head hparent _ ih =>
    have hp := hparents _ _ hn hparent
    exact .head hp (ih (Nat.lt_trans (a.parentNode?_lt hp) hn))

namespace Documented

theorem refl (options : ObserveOptions) (doc : Document) : Documented options doc doc where
  observed := rfl
  size := Nat.le_refl _
  records _ h := h
  parent _ _ _ h := h
  isElement _ _ := rfl
  tag _ _ := rfl
  added _ _ hn hp _ := absurd (lt_size_of_parentNode? hp) (Nat.not_lt.mpr hn)
  removed _ _ h hne _ := absurd h hne
  attributes _ _ _ _ h := absurd rfl h
  text _ _ _ _ h := absurd rfl h

/-- What is connected in the end was connected before. -/
theorem connected (h : Documented options a b) {n : Nat} (hn : n < a.size)
    (hconnected : b.isConnected n = true) : a.isConnected n = true :=
  contains_of_parents h.parent hn hconnected

theorem trans (hab : Documented options a b) (hbc : Documented options b c) :
    Documented options a c where
  observed := hbc.observed.trans hab.observed
  size := Nat.le_trans hab.size hbc.size
  records r hr := hbc.records r (hab.records r hr)
  parent n p hn hp := hab.parent n p hn (hbc.parent n p (Nat.lt_of_lt_of_le hn hab.size) hp)
  isElement n hn := (hbc.isElement n (Nat.lt_of_lt_of_le hn hab.size)).trans (hab.isElement n hn)
  tag n hn := (hbc.tag n (Nat.lt_of_lt_of_le hn hab.size)).trans (hab.tag n hn)
  added n p hn hp hconnected := by
    by_cases hnb : n < b.size
    · have hbp := hbc.parent n p hnb hp
      have hpb : p < b.size := Nat.lt_trans (b.parentNode?_lt hbp) hnb
      exact (hab.added n p hn hbp (hbc.connected hpb hconnected)).mono hbc.records
    · exact hbc.added n p (Nat.le_of_not_lt hnb) hp hconnected
  removed n p hp hne hconnected := by
    by_cases hbp : b.parentNode? n = some p
    · exact hbc.removed n p hbp hne hconnected
    · have hpa : p < a.size := Nat.lt_trans (a.parentNode?_lt hp) (lt_size_of_parentNode? hp)
      have hpb := hbc.connected (Nat.lt_of_lt_of_le hpa hab.size) hconnected
      exact (hab.removed n p hp hbp hpb).mono hbc.records
  attributes hobserved n hn hconnected hne := by
    have hnb := Nat.lt_of_lt_of_le hn hab.size
    by_cases hsame : b.family.attributes n = a.family.attributes n
    · exact hbc.attributes hobserved n hnb hconnected (hsame ▸ hne)
    · exact (hab.attributes hobserved n hn (hbc.connected hnb hconnected) hsame).mono hbc.records
  text hobserved n hn hconnected hne := by
    have hnb := Nat.lt_of_lt_of_le hn hab.size
    by_cases hsame : b.ownText n = a.ownText n
    · exact hbc.text hobserved n hnb hconnected (hsame ▸ hne)
    · exact (hab.text hobserved n hn (hbc.connected hnb hconnected) hsame).mono hbc.records

/-- A node that is still connected has what it hung from above it. -/
theorem contains (h : Documented options a b) {m n : Nat} (hn : n < a.size)
    (hconnected : b.isConnected n = true) (hmn : a.contains m n = true) :
    b.contains m n = true := by
  rw [isConnected_iff] at hconnected
  induction hconnected using Relation.ReflTransGen.head_induction_on with
  | refl =>
    obtain rfl : m = 0 := Nat.le_zero.mp (contains_le hmn)
    exact contains_self 0
  | head hparent _ ih =>
    have hp := h.parent _ _ hn hparent
    rcases (contains_parent hp).mp hmn with rfl | hmp
    · exact contains_self m
    · exact (contains_parent hparent).mpr (.inr (ih (Nat.lt_trans (a.parentNode?_lt hp) hn) hmp))

/-- A node that is still connected has around it what it had around it. -/
theorem contains_iff (h : Documented options a b) {m n : Nat} (hn : n < a.size)
    (hconnected : b.isConnected n = true) : b.contains m n = true ↔ a.contains m n = true :=
  ⟨contains_of_parents h.parent hn, h.contains hn hconnected⟩

end Documented

/-! ### One record -/

section Record

variable (doc : Document) (wanted : ObserveOptions → Bool) (place : Nat)
  (change : ObserveOptions → Mutation Nat)

/-- Recording changes nothing but the records. -/
theorem record_eq : ∃ records, doc.record wanted place change = { doc with records := records } ∧
    ∀ record ∈ doc.records, record ∈ records := by
  unfold record
  split
  · rename_i options _
    split
    · exact ⟨doc.records ++ [change options], rfl, fun _ h => List.mem_append_left _ h⟩
    · exact ⟨doc.records, rfl, fun _ h => h⟩
  · exact ⟨doc.records, rfl, fun _ h => h⟩

@[simp] theorem observed_record : (doc.record wanted place change).observed = doc.observed := by
  obtain ⟨records, heq, -⟩ := record_eq doc wanted place change
  rw [heq]

@[simp] theorem size_record : (doc.record wanted place change).size = doc.size := by
  obtain ⟨records, heq, -⟩ := record_eq doc wanted place change
  rw [heq]
  rfl

@[simp] theorem kind?_record (n : Nat) :
    (doc.record wanted place change).kind? n = doc.kind? n := by
  obtain ⟨records, heq, -⟩ := record_eq doc wanted place change
  rw [heq]
  rfl

@[simp] theorem parentNode?_record (n : Nat) :
    (doc.record wanted place change).parentNode? n = doc.parentNode? n := by
  obtain ⟨records, heq, -⟩ := record_eq doc wanted place change
  rw [heq]
  rfl

@[simp] theorem isConnected_record (n : Nat) :
    (doc.record wanted place change).isConnected n = doc.isConnected n := by
  rw [Bool.eq_iff_iff, isConnected_iff, isConnected_iff, Below, Below]
  simp only [parentNode?_record]

theorem mem_record {record : Mutation Nat} (h : record ∈ doc.records) :
    record ∈ (doc.record wanted place change).records := by
  obtain ⟨records, heq, hsub⟩ := record_eq doc wanted place change
  rw [heq]
  exact hsub record h

variable {doc wanted place change}

/-- A change that is wanted, of a place that is connected, is told. -/
theorem told_record (hobserved : doc.observed = some options) (hwanted : wanted options = true)
    (hplace : doc.isConnected place = true) {n : Nat} (hn : n ∈ (change options).touched) :
    (doc.record wanted place change).Told (change options).kind n := by
  refine ⟨change options, ?_, rfl, hn⟩
  simp [record, hobserved, hwanted, hplace]

end Record

/-! ### One change -/

/-- What the kind of a node becomes: it stays, or it is told what has changed about it. -/
inductive Renewed (options : ObserveOptions) (a b : Document) (n : Nat) : Prop
  | same (h : b.kind? n = a.kind? n)
  | attributes {tag : String} {old new : List (String × String)}
      (ha : a.kind? n = some (.element tag old)) (hb : b.kind? n = some (.element tag new))
      (htold : options.attributes = true → b.isConnected n = true → b.Told .attributes n)
  | text {old new : String} (ha : a.kind? n = some (.text old)) (hb : b.kind? n = some (.text new))
      (htold : options.characterData = true → b.isConnected n = true → b.Told .characterData n)

/-- A change keeps nodes and renews their kinds, with what is told of children. -/
theorem Documented.of_renewed (hobserved : b.observed = a.observed) (hsize : a.size ≤ b.size)
    (hrecords : ∀ record ∈ a.records, record ∈ b.records)
    (hkind : ∀ n, n < a.size → Renewed options a b n)
    (hparent : ∀ n p, n < a.size → b.parentNode? n = some p → a.parentNode? n = some p)
    (hadded : ∀ n p, a.size ≤ n → b.parentNode? n = some p → b.isConnected p = true →
      b.Told .childList n)
    (hremoved : ∀ n p, a.parentNode? n = some p → b.parentNode? n ≠ some p →
      b.isConnected p = true → b.Told .childList p) : Documented options a b where
  observed := hobserved
  size := hsize
  records := hrecords
  parent := hparent
  isElement n hn := by
    cases hkind n hn with
    | same h => simp only [Document.isElement, h]
    | attributes ha hb _ => simp only [Document.isElement, ha, hb]
    | text ha hb _ => simp only [Document.isElement, ha, hb]
  tag n hn := by
    cases hkind n hn with
    | same h => simp only [Family.tag, family, h]
    | attributes ha hb _ => simp only [Family.tag, family, ha, hb]
    | text ha hb _ => simp only [Family.tag, family, ha, hb]
  added := hadded
  removed := hremoved
  attributes hobserved n hn hconnected hne := by
    cases hkind n hn with
    | same h => simp only [Family.attributes, family, h, ne_eq, not_true] at hne
    | attributes _ _ htold => exact htold hobserved hconnected
    | text ha hb _ => simp only [Family.attributes, family, ha, hb, ne_eq, not_true] at hne
  text hobserved n hn hconnected hne := by
    cases hkind n hn with
    | same h => simp only [ownText, h, ne_eq, not_true] at hne
    | attributes ha hb _ => simp only [ownText, ha, hb, ne_eq, not_true] at hne
    | text _ _ htold => exact htold hobserved hconnected

theorem kind?_setKind (doc : Document) (n m : Nat) (kind : NodeKind) :
    (doc.setKind n kind).kind? m =
      if n = m then (doc.kind? m).map fun _ => kind else doc.kind? m := by
  simp only [kind?, setKind, Array.getElem?_modify]
  split
  · cases doc.nodes[m]? <;> rfl
  · rfl

@[simp] theorem parentNode?_setKind (doc : Document) (n m : Nat) (kind : NodeKind) :
    (doc.setKind n kind).parentNode? m = doc.parentNode? m := by
  simp only [parentNode?, setKind, Array.getElem?_modify]
  split
  · cases doc.nodes[m]? <;> rfl
  · rfl

@[simp] theorem size_setKind (doc : Document) (n : Nat) (kind : NodeKind) :
    (doc.setKind n kind).size = doc.size := by
  simp [size, setKind]

/-- A change of the kind of one node keeps the tree. -/
theorem documented_setKind (doc : Document) (n : Nat) (kind : NodeKind)
    (wanted : ObserveOptions → Bool) (change : ObserveOptions → Mutation Nat)
    (h : Renewed options doc ((doc.setKind n kind).record wanted n change) n) :
    Documented options doc ((doc.setKind n kind).record wanted n change) := by
  refine .of_renewed (by simp [setKind]) (by simp) (fun _ hr => mem_record _ _ _ _ hr)
    (fun m hm => ?_) (by simp) ?_ (by simp_all)
  · by_cases hmn : n = m
    · exact hmn ▸ h
    · exact .same (by simp [kind?_setKind, hmn])
  · intro m p hm hp
    simp only [parentNode?_record, parentNode?_setKind] at hp
    exact absurd (lt_size_of_parentNode? hp) (Nat.not_lt.mpr hm)

section Changes

variable (hobserved : a.observed = some options)

include hobserved

theorem documented_setAttribute {n : Nat} {name value : String}
    (h : a.setAttribute n name value = .ok b) : Documented options a b := by
  unfold setAttribute at h
  split at h
  · rename_i tag old hkind
    obtain rfl := Except.ok.inj h
    refine documented_setKind a n _ _ _ (.attributes hkind
      (by simp [kind?_setKind, hkind]; rfl) fun hwanted hconnected => ?_)
    rw [isConnected_record] at hconnected
    exact told_record (by exact hobserved) hwanted hconnected (by simp [Mutation.touched])
  · simp at h

theorem documented_setText {n : Nat} {data : String} (h : a.setText n data = .ok b) :
    Documented options a b := by
  unfold setText at h
  split at h
  · rename_i old hkind
    obtain rfl := Except.ok.inj h
    refine documented_setKind a n _ _ _ (.text hkind
      (by simp [kind?_setKind, hkind]; rfl) fun hwanted hconnected => ?_)
    rw [isConnected_record] at hconnected
    exact told_record (by exact hobserved) hwanted hconnected (by simp [Mutation.touched])
  · simp at h

omit hobserved in
theorem kind?_append (parent : Nat) (kind : NodeKind) {n : Nat} (hn : n < a.size) :
    (a.append parent kind).kind? n = a.kind? n := by
  refine (kind?_record _ _ _ _ n).trans (congrArg (Option.map Node.kind) ?_)
  rw [Array.getElem?_push_lt hn, Array.getElem?_eq_getElem hn]

omit hobserved in
theorem parentNode?_append (parent : Nat) (kind : NodeKind) (n : Nat) :
    (a.append parent kind).parentNode? n =
      if n = a.size then (if parent < a.size then some parent else none)
      else a.parentNode? n := by
  refine (parentNode?_record _ _ _ _ n).trans ?_
  by_cases hn : n = a.size
  · subst hn
    rw [if_pos rfl]
    refine (congrArg (Option.bind · Node.parent) Array.getElem?_push_size).trans ?_
    rfl
  · rw [if_neg hn]
    refine congrArg (Option.bind · Node.parent) (Array.getElem?_push.trans ?_)
    exact if_neg hn

omit hobserved in
theorem size_append (parent : Nat) (kind : NodeKind) :
    (a.append parent kind).size = a.size + 1 := by
  simp only [append, size_record]
  simp [size]

theorem documented_append (hwanted : options.childList = true) (parent : Nat) (kind : NodeKind) :
    Documented options a (a.append parent kind) := by
  refine .of_renewed (by simp [append]) (by simp [size_append]) (fun _ hr => mem_record _ _ _ _ hr)
    (fun n hn => .same (kind?_append parent kind hn)) ?_ ?_ ?_
  · intro n p hn hp
    rwa [parentNode?_append, if_neg (by omega)] at hp
  · intro n p hn hp hconnected
    have hlt := lt_size_of_parentNode? hp
    rw [size_append] at hlt
    obtain rfl : n = a.size := by omega
    rw [parentNode?_append, if_pos rfl] at hp
    split at hp
    · obtain rfl := Option.some.inj hp
      rw [append, isConnected_record] at hconnected
      exact told_record (by exact hobserved) hwanted hconnected (by simp [Mutation.touched])
    · simp at hp
  · intro n p hp hne
    have hn := lt_size_of_parentNode? hp
    rw [parentNode?_append, if_neg (by omega)] at hne
    exact absurd hp hne

omit hobserved in
theorem kind?_remove (n m : Nat) : (a.remove n).kind? m = a.kind? m := by
  have hmodify : (a.nodes.modify n fun node => { node with parent := none })[m]?.map Node.kind =
      a.nodes[m]?.map Node.kind := by
    rw [Array.getElem?_modify]
    split
    · cases a.nodes[m]? <;> rfl
    · rfl
  unfold remove
  split
  · exact (kind?_record _ _ _ _ m).trans hmodify
  · exact hmodify

omit hobserved in
theorem parentNode?_remove (n m : Nat) :
    (a.remove n).parentNode? m = if n = m then none else a.parentNode? m := by
  have hmodify : (a.nodes.modify n fun node => { node with parent := none })[m]?.bind Node.parent =
      if n = m then none else a.parentNode? m := by
    rw [Array.getElem?_modify]
    split
    · cases a.nodes[m]? <;> rfl
    · rfl
  unfold remove
  split
  · exact (parentNode?_record _ _ _ _ m).trans hmodify
  · exact hmodify

theorem documented_remove (hwanted : options.childList = true) (n : Nat) :
    Documented options a (a.remove n) := by
  have hfixed : (a.remove n).observed = a.observed ∧ (a.remove n).size = a.size ∧
      ∀ record ∈ a.records, record ∈ (a.remove n).records := by
    unfold remove
    split
    · exact ⟨observed_record _ _ _ _, (size_record _ _ _ _).trans (by simp [size]),
        fun _ hr => mem_record _ _ _ _ hr⟩
    · exact ⟨rfl, by simp [size], fun _ hr => hr⟩
  obtain ⟨hobs, hsize, hrecords⟩ := hfixed
  have hold : ∀ m p, (a.remove n).parentNode? m = some p → a.parentNode? m = some p := by
    intro m p hp
    rw [parentNode?_remove] at hp
    split at hp
    · simp at hp
    · exact hp
  refine .of_renewed hobs (Nat.le_of_eq hsize.symm) hrecords
    (fun m hm => .same (kind?_remove n m)) (fun m p _ hp => hold m p hp) ?_ ?_
  · intro m p hm hp
    exact absurd (lt_size_of_parentNode? (hold m p hp)) (Nat.not_lt.mpr hm)
  · intro m p hp hne hconnected
    rw [parentNode?_remove] at hne
    obtain rfl : n = m :=
      Decidable.byContradiction fun hnm => hne (by rw [if_neg hnm, hp])
    unfold remove at hconnected ⊢
    simp only [hp, isConnected_record] at hconnected ⊢
    exact told_record (by exact hobserved) hwanted hconnected (by simp [Mutation.touched])

end Changes

/-- **What has been changed is told.**  The changes may be any, in any order. -/
theorem documented_changeAll (hobserved : a.observed = some options)
    (hwanted : options.childList = true) (changes : List Change) :
    Documented options a (a.changeAll changes) := by
  induction changes generalizing a with
  | nil => exact .refl options a
  | cons change more ih =>
    have hfirst : Documented options a (a.change change) := by
      cases change with
      | appendElement parent tag => exact documented_append hobserved hwanted parent _
      | appendText parent data => exact documented_append hobserved hwanted parent _
      | remove n => exact documented_remove hobserved hwanted n
      | setAttribute n name value =>
        cases hset : a.setAttribute n name value with
        | error e =>
          simp only [Document.change, hset, Except.toOption, Option.getD_none]
          exact .refl options a
        | ok b =>
          simp only [Document.change, hset, Except.toOption, Option.getD_some]
          exact documented_setAttribute hobserved hset
      | setText n data =>
        cases hset : a.setText n data with
        | error e =>
          simp only [Document.change, hset, Except.toOption, Option.getD_none]
          exact .refl options a
        | ok b =>
          simp only [Document.change, hset, Except.toOption, Option.getD_some]
          exact documented_setText hobserved hset
    exact hfirst.trans (ih (hfirst.observed.trans hobserved))

/-! ### What every change keeps -/

/-- Whether they are recorded or not, a change keeps elements and gives no node a new parent. -/
structure Keeps (a b : Document) : Prop where
  parent : ∀ n p, n < a.size → b.parentNode? n = some p → a.parentNode? n = some p
  isElement : ∀ n, a.isElement n = true → b.isElement n = true

theorem Keeps.refl (doc : Document) : Keeps doc doc :=
  ⟨fun _ _ _ hp => hp, fun _ hn => hn⟩

theorem Keeps.connected (h : Keeps a b) {n : Nat} (hn : a.isElement n = true)
    (hconnected : b.isConnected n = true) : a.isConnected n = true :=
  contains_of_parents h.parent (lt_size_of_isElement hn) hconnected

theorem isElement_congr {n : Nat} (h : b.kind? n = a.kind? n) : b.isElement n = a.isElement n := by
  simp only [isElement, h]

theorem keeps_append (doc : Document) (parent : Nat) (kind : NodeKind) :
    Keeps doc (doc.append parent kind) where
  parent n p hn hp := by
    rwa [parentNode?_append, if_neg (Nat.ne_of_lt hn)] at hp
  isElement n hn := by
    rwa [isElement_congr (kind?_append parent kind (lt_size_of_isElement hn))]

theorem keeps_remove (doc : Document) (n : Nat) : Keeps doc (doc.remove n) where
  parent m p _ hp := by
    rw [parentNode?_remove] at hp
    split at hp
    · simp at hp
    · exact hp
  isElement m hm := by
    rwa [isElement_congr (kind?_remove n m)]

theorem keeps_setKind (doc : Document) {n : Nat} {kind : NodeKind}
    (hkind : doc.isElement n = true → ∃ tag attributes, kind = .element tag attributes)
    (wanted : ObserveOptions → Bool) (change : ObserveOptions → Mutation Nat) :
    Keeps doc ((doc.setKind n kind).record wanted n change) where
  parent m p _ hp := by simpa using hp
  isElement m hm := by
    by_cases hnm : n = m
    · subst hnm
      obtain ⟨tag, attributes, rfl⟩ := hkind hm
      cases hold : doc.kind? n with
      | none => simp [isElement, hold] at hm
      | some old => simp [isElement, kind?_setKind, hold]
    · have hsame : ((doc.setKind n kind).record wanted n change).kind? m = doc.kind? m := by
        simp [kind?_setKind, hnm]
      rwa [isElement_congr hsame]

/-- **Every change keeps** elements, and parents unless a node is detached. -/
theorem keeps_change (doc : Document) (change : Change) : Keeps doc (doc.change change) := by
  cases change with
  | appendElement parent tag => exact keeps_append doc parent _
  | appendText parent data => exact keeps_append doc parent _
  | remove n => exact keeps_remove doc n
  | setAttribute n name value =>
    simp only [Document.change, setAttribute]
    split
    · exact keeps_setKind doc (fun _ => ⟨_, _, rfl⟩) _ _
    · exact .refl doc
  | setText n data =>
    simp only [Document.change, setText]
    split
    · rename_i hkind
      exact keeps_setKind doc (fun hn => by simp [isElement, hkind] at hn) _ _
    · exact .refl doc

/-! ### Nothing but records -/

/-- The document with another account of its changes. -/
def telling (doc : Document) (observed : Option ObserveOptions) (records : List (Mutation Nat)) :
    Document :=
  { doc with observed := observed, records := records }

theorem takeRecords_eq (doc : Document) :
    doc.takeRecords = (doc.records, doc.telling doc.observed []) := rfl

theorem observe_eq (doc : Document) (options : ObserveOptions) :
    doc.observe options = doc.telling (some options) doc.records := rfl

section Telling

variable (doc : Document) (observed : Option ObserveOptions) (records : List (Mutation Nat))

theorem childNodes_telling :
    (doc.telling observed records).family.childNodes = doc.family.childNodes := by
  funext n
  unfold Family.childNodes family childTable
  rfl

theorem siblings_telling :
    (doc.telling observed records).family.siblings = doc.family.siblings := by
  funext n
  unfold Family.siblings
  rw [childNodes_telling]
  rfl

theorem subtree_telling : (doc.telling observed records).family.subtree = doc.family.subtree := by
  have hlayers : ∀ layers,
      (doc.telling observed records).family.layersBelow layers = doc.family.layersBelow layers := by
    intro layers
    induction layers with
    | zero => rfl
    | succ layers ih =>
      funext n
      simp only [Family.layersBelow, childNodes_telling, ih]
  funext n
  unfold Family.subtree
  rw [show (doc.telling observed records).family.doc.size = doc.family.doc.size from rfl, hlayers]

theorem attribute?_telling :
    (doc.telling observed records).family.attribute? = doc.family.attribute? := by
  funext n
  unfold Family.attribute? Family.attributes
  rfl

theorem contains_telling : (doc.telling observed records).contains = doc.contains := by
  have hclimb : ∀ steps, (doc.telling observed records).climb steps = doc.climb steps := by
    intro steps
    induction steps with
    | zero => rfl
    | succ steps ih =>
      funext n
      unfold climb
      rw [ih]
      rfl
  funext a n
  unfold contains
  rw [hclimb]

theorem tree_telling : (doc.telling observed records).family.tree = doc.family.tree := by
  have hprevious : (doc.telling observed records).family.previousElement? =
      doc.family.previousElement? := by
    funext n
    unfold Family.previousElement?
    rw [siblings_telling]
    rfl
  have hclass : (doc.telling observed records).family.hasClass = doc.family.hasClass := by
    funext n
    unfold Family.hasClass
    rw [attribute?_telling]
  have hposition : (doc.telling observed records).family.position = doc.family.position := by
    funext n
    unfold Family.position
    rw [siblings_telling]
    rfl
  have hdescendants : (doc.telling observed records).family.descendants =
      doc.family.descendants := by
    funext n
    unfold Family.descendants
    rw [subtree_telling]
    rfl
  unfold Family.tree
  simp only [ElementTree.mk.injEq, hprevious, hclass, hposition, hdescendants,
    attribute?_telling]
  exact ⟨rfl, trivial, trivial, trivial, rfl, trivial, trivial, trivial, trivial, trivial, rfl⟩

/-- **A page does not show the records** of its document. -/
theorem page_telling : (doc.telling observed records).page = doc.page := by
  have hquery : (doc.telling observed records).family.queryAll = doc.family.queryAll := by
    funext scope selector
    unfold Family.queryAll
    rw [tree_telling]
  have hchildren : (doc.telling observed records).family.childElements =
      doc.family.childElements := by
    funext n
    unfold Family.childElements
    rw [childNodes_telling]
    rfl
  have htext : (doc.telling observed records).family.textContent = doc.family.textContent := by
    funext n
    unfold Family.textContent
    rw [subtree_telling]
    rfl
  have hconnected : (doc.telling observed records).isConnected = doc.isConnected := by
    funext n
    unfold isConnected
    rw [contains_telling]
  unfold page
  simp only [Page.mk.injEq, hquery, hchildren, htext, contains_telling, hconnected]
  exact ⟨trivial, trivial, rfl, trivial, trivial, rfl, trivial, trivial, trivial, rfl, rfl, rfl,
    rfl, rfl⟩

end Telling

end CosmeticFilter.Document
