/-
Sealed texts.

A scan of selector text keeps account of quotes and parentheses.  Out of a text in which all of
them are closed it comes as it went in.  Such a text is one part of a selector list, and it can
stand inside of an argument without ending it.  The splitting of lists and the closing of
arguments are two scans of this kind, so that it is shown once for both.
-/
import CosmeticFilter.Proofs.Commas
import CosmeticFilter.Proofs.Grammar

namespace CosmeticFilter

/-- The characters that scans of selector text look for. -/
def isScanSign (c : Char) : Bool :=
  "\\\"'(),".toList.contains c

/-- A kind of characters that has none of them. -/
theorem isScanSign_of {p : Char → Bool}
    (hnone : ("\\\"'(),".toList.all fun c => !p c) = true) {c : Char} (h : p c = true) :
    isScanSign c = false := by
  rw [Bool.eq_false_iff]
  intro hsign
  simpa [h] using List.all_eq_true.mp hnone c (List.contains_iff_mem.mp hsign)

/-- Quotes and parentheses are closed, and outside of quotes no character needs care. -/
inductive Sealed : List Char → Prop
  | nil : Sealed []
  | letter {c : Char} {rest : List Char} (hc : isScanSign c = false) (hrest : Sealed rest) :
      Sealed (c :: rest)
  | quoted {value rest : List Char} (hvalue : ∀ c ∈ value, c ≠ '"' ∧ c ≠ '\\')
      (hrest : Sealed rest) : Sealed ('"' :: (value ++ '"' :: rest))
  | group {inner rest : List Char} (hinner : Sealed inner) (hrest : Sealed rest) :
      Sealed ('(' :: (inner ++ ')' :: rest))

namespace Sealed

theorem append {front back : List Char} (hfront : Sealed front) (hback : Sealed back) :
    Sealed (front ++ back) := by
  induction hfront with
  | nil => exact hback
  | letter hc _ ih => exact .letter hc ih
  | quoted hvalue _ ih => simpa using Sealed.quoted hvalue ih
  | group hinner _ _ ih => simpa using Sealed.group hinner ih

theorem of_letters {cs : List Char} (h : ∀ c ∈ cs, isScanSign c = false) : Sealed cs := by
  induction cs with
  | nil => exact .nil
  | cons c rest ih =>
    obtain ⟨hc, hrest⟩ := List.forall_mem_cons.mp h
    exact .letter hc (ih hrest)

theorem of_all {cs : List Char} (h : (cs.all fun c => !isScanSign c) = true) : Sealed cs :=
  .of_letters fun c hc => by simpa using List.all_eq_true.mp h c hc

theorem flatMap {pieces : List String} (h : ∀ piece ∈ pieces, Sealed piece.toList) :
    Sealed (pieces.flatMap String.toList) := by
  induction pieces with
  | nil => exact .nil
  | cons piece more ih =>
    obtain ⟨hpiece, hmore⟩ := List.forall_mem_cons.mp h
    exact hpiece.append (ih hmore)

end Sealed

open SelectorList

/--
A scan with an account of quotes and parentheses.  It puts character after character in front
of its result, unless a backslash comes, or at the top a comma or a closing parenthesis.
-/
def Scans {α : Type} (scan : Nesting → List Char → α) (cons : Char → α → α) : Prop :=
  ∀ n c rest, c ≠ '\\' → (n = .top → c ≠ ')' ∧ c ≠ ',') →
    scan n (c :: rest) = cons c (scan (n.after c) rest)

namespace Sealed

variable {α : Type} {scan : Nesting → List Char → α} {cons : Char → α → α}

/-- A scan stays inside of the quotes. -/
theorem scan_quoted (hscans : Scans scan cons) {value : List Char}
    (hvalue : ∀ c ∈ value, c ≠ '"' ∧ c ≠ '\\') (depth : Nat) (rest : List Char) :
    scan ⟨depth, some '"'⟩ (value ++ '"' :: rest) =
      value.foldr cons (cons '"' (scan ⟨depth, none⟩ rest)) := by
  have hinside : ∀ c : Char, (⟨depth, some '"'⟩ : Nesting) = .top → c ≠ ')' ∧ c ≠ ',' := by
    intro c htop
    simp [Nesting.top] at htop
  induction value with
  | nil =>
    rw [List.nil_append, hscans _ _ _ (by decide) (hinside _)]
    simp [Nesting.after]
  | cons c value ih =>
    obtain ⟨⟨hquote, hslash⟩, hmore⟩ := List.forall_mem_cons.mp hvalue
    have hafter : (⟨depth, some '"'⟩ : Nesting).after c = ⟨depth, some '"'⟩ := by
      simp [Nesting.after, hquote]
    rw [List.cons_append, hscans _ _ _ hslash (hinside c), hafter, ih hmore, List.foldr_cons]

/-- **A scan passes over a sealed text**, and goes on behind it as if it had not been there. -/
theorem scan_append (hscans : Scans scan cons) {cs : List Char} (h : Sealed cs) (depth : Nat)
    (rest : List Char) :
    scan ⟨depth, none⟩ (cs ++ rest) = cs.foldr cons (scan ⟨depth, none⟩ rest) := by
  induction h generalizing depth rest with
  | nil => rfl
  | @letter c more hc _ ih =>
    have hsigns : c ≠ '\\' ∧ c ≠ '"' ∧ c ≠ '\'' ∧ c ≠ '(' ∧ c ≠ ')' ∧ c ≠ ',' := by
      refine ⟨?_, ?_, ?_, ?_, ?_, ?_⟩ <;> rintro rfl <;> exact absurd hc (by decide)
    obtain ⟨hslash, hdouble, hsingle, hopen, hclose, hcomma⟩ := hsigns
    have hafter : (⟨depth, none⟩ : Nesting).after c = ⟨depth, none⟩ := by
      simp [Nesting.after, hdouble, hsingle, hopen, hclose]
    rw [List.cons_append, hscans _ _ _ hslash (fun _ => ⟨hclose, hcomma⟩), hafter, ih,
      List.foldr_cons]
  | @quoted value more hvalue _ ih =>
    have hafter : (⟨depth, none⟩ : Nesting).after '"' = ⟨depth, some '"'⟩ := rfl
    rw [List.cons_append, hscans _ _ _ (by decide) (fun _ => by decide), hafter, List.append_assoc,
      List.cons_append, scan_quoted hscans hvalue, ih, List.foldr_cons, List.foldr_append,
      List.foldr_cons]
  | @group inner more _ _ ihinner ih =>
    have hafter : (⟨depth, none⟩ : Nesting).after '(' = ⟨depth + 1, none⟩ := rfl
    have hback : (⟨depth + 1, none⟩ : Nesting).after ')' = ⟨depth, none⟩ := rfl
    have hinside : (⟨depth + 1, none⟩ : Nesting) ≠ .top := by simp [Nesting.top]
    rw [List.cons_append, hscans _ _ _ (by decide) (fun _ => by decide), hafter, List.append_assoc,
      List.cons_append, ihinner, hscans _ _ _ (by decide) (fun htop => absurd htop hinside), hback,
      ih, List.foldr_cons, List.foldr_append, List.foldr_cons]

/-! ### Arguments and parts -/

/-- A sealed text can be an argument. -/
theorem isBalanced {cs : List Char} (h : Sealed cs) : IsBalanced cs := by
  have hscans : Scans argumentEnd? (fun _ stand => stand) := by
    intro n c rest hslash htop
    rw [argumentEnd?_cons hslash, if_neg (fun hend => (htop hend.2).1 hend.1)]
  have hall := scan_append hscans h 0 []
  rwa [List.append_nil, List.foldr_fixed] at hall

theorem scans_splitFrom : Scans SelectorList.splitFrom consFirst := by
  intro n c rest hslash htop
  rw [splitFrom_cons hslash, if_neg (fun hend => (htop hend.2).2 hend.1)]

theorem foldr_consFirst (cs part : List Char) (parts : List (List Char)) :
    cs.foldr consFirst (part :: parts) = (cs ++ part) :: parts := by
  induction cs with
  | nil => rfl
  | cons c more ih => rw [List.foldr_cons, ih, consFirst, List.cons_append]

/-- A sealed text is one part of a list. -/
theorem splitFrom {cs : List Char} (h : Sealed cs) : SelectorList.splitFrom .top cs = [cs] := by
  have hall := scan_append scans_splitFrom h 0 []
  rwa [List.append_nil, SelectorList.splitFrom, foldr_consFirst, List.append_nil] at hall

/-- Up to the next comma it is one, too. -/
theorem splitFrom_comma {cs : List Char} (h : Sealed cs) (rest : List Char) :
    SelectorList.splitFrom .top (cs ++ ',' :: rest) = cs :: SelectorList.splitFrom .top rest := by
  have hall := scan_append scans_splitFrom h 0 (',' :: rest)
  exact hall.trans (by
    rw [← Nesting.top, SelectorList.splitFrom_comma, foldr_consFirst, List.append_nil])

end Sealed

end CosmeticFilter
