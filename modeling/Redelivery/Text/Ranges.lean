/-! Classes of characters as tables of inclusive ranges of code points, in rising order. -/
namespace Redelivery.Text

abbrev Ranges := List (Nat × Nat)

def Ranges.hold : Ranges → Nat → Bool
  | [], _ => false
  | (low, high) :: rest, n => if n < low then false else n ≤ high || Ranges.hold rest n

end Redelivery.Text
