/-! How deep the pieces of a pattern are nested. A row of two and more pieces is a level of its
own; a row of one is that piece, and an empty row is nothing. -/
namespace Redelivery.Text

def depthLimit : Nat := 250

structure PatternRow where
  size : Nat := 0
  deepest : Nat := 0
  deriving DecidableEq, Repr

namespace PatternRow

def add (row : PatternRow) (depth : Nat) : PatternRow :=
  ⟨row.size + 1, max row.deepest depth⟩

def depth (row : PatternRow) : Nat := if 2 ≤ row.size then row.deepest + 1 else row.deepest

@[simp] theorem depth_empty : ({} : PatternRow).depth = 0 := rfl

@[simp] theorem depth_single (d : Nat) : (({} : PatternRow).add d).depth = d := by
  simp [add, depth]

theorem le_depth_add (row : PatternRow) (d : Nat) : d ≤ (row.add d).depth := by
  unfold add depth
  split
  · exact Nat.le_succ_of_le (Nat.le_max_right ..)
  · exact Nat.le_max_right ..

end PatternRow
end Redelivery.Text
