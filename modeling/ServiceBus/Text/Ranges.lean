/-
ServiceBus.Text.Ranges — sets of characters, written as ranges of code points.

The tables of character properties are lists of such ranges.
-/
namespace ServiceBus.Text

/-- Whether a number lies in one of the ranges. -/
def inRanges (ranges : List (Nat × Nat)) (n : Nat) : Bool :=
  ranges.any fun r => r.1 ≤ n && n ≤ r.2

end ServiceBus.Text
