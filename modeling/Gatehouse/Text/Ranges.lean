/-!
# Character properties as tables of ranges
-/
namespace Gatehouse.Text

/-- Whether some range of the table holds `n`. -/
def inRanges (ranges : Array (Nat × Nat)) (n : Nat) : Bool :=
  ranges.any fun range => range.1 ≤ n && n ≤ range.2

end Gatehouse.Text
