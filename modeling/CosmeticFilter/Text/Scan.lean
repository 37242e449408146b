/-
Reading from the front of a text.

A reader takes characters off the front and gives back what is left.  What is left
is always an ending of the text, so the part that was read can be cut out again, and
a reader that takes something leaves less.
-/

namespace CosmeticFilter.Text

/-- The text that lies between `cs` and its ending `rest`. -/
def between (cs rest : List Char) : List Char :=
  cs.take (cs.length - rest.length)

theorem length_dropWhile_le (p : Char → Bool) (cs : List Char) :
    (cs.dropWhile p).length ≤ cs.length :=
  (List.dropWhile_suffix p).length_le

theorem between_append (front rest : List Char) : between (front ++ rest) rest = front := by
  simp [between]

end CosmeticFilter.Text
