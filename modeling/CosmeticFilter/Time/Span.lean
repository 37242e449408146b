/-
Spans of time.

A span is a number of nanoseconds between nothing and a longest span, which is that of
64-bit seconds with a fraction.  Sums stop at the longest span and differences at
nothing.
-/

namespace CosmeticFilter

/-- A span of time in nanoseconds. -/
structure Span where
  nanoseconds : Nat
  deriving DecidableEq, Repr

namespace Span

def zero : Span := ⟨0⟩

/-- The nanoseconds of a second. -/
def second : Nat := 1000000000

/-- The longest span. -/
def longest : Span := ⟨0xFFFFFFFFFFFFFFFF * second + (second - 1)⟩

def ofMilliseconds (n : Nat) : Span := ⟨n * 1000000⟩

/-- Whole seconds and nanoseconds beyond them. -/
def ofSeconds (seconds nanoseconds : Nat) : Span :=
  ⟨min (seconds * second + nanoseconds) longest.nanoseconds⟩

/-- The sum, or the longest span. -/
def add (a b : Span) : Span :=
  ⟨min (a.nanoseconds + b.nanoseconds) longest.nanoseconds⟩

/-- The difference, or nothing. -/
def sub (a b : Span) : Span :=
  ⟨a.nanoseconds - b.nanoseconds⟩

instance : Add Span := ⟨add⟩
instance : Sub Span := ⟨sub⟩
instance : LT Span := ⟨fun a b => a.nanoseconds < b.nanoseconds⟩
instance : LE Span := ⟨fun a b => a.nanoseconds ≤ b.nanoseconds⟩

instance (a b : Span) : Decidable (a < b) :=
  inferInstanceAs (Decidable (a.nanoseconds < b.nanoseconds))

instance (a b : Span) : Decidable (a ≤ b) :=
  inferInstanceAs (Decidable (a.nanoseconds ≤ b.nanoseconds))

theorem lt_iff {a b : Span} : a < b ↔ a.nanoseconds < b.nanoseconds := Iff.rfl

theorem le_iff {a b : Span} : a ≤ b ↔ a.nanoseconds ≤ b.nanoseconds := Iff.rfl

@[simp] theorem nanoseconds_sub (a b : Span) :
    (a - b).nanoseconds = a.nanoseconds - b.nanoseconds := rfl

@[simp] theorem nanoseconds_add (a b : Span) :
    (a + b).nanoseconds = min (a.nanoseconds + b.nanoseconds) longest.nanoseconds := rfl

end Span

end CosmeticFilter
