/-! # Ranges of code points

A property of characters is given by the ranges of the code points that have it, with both ends
included. Ranges of a table ascend and never touch, so each property has one table.
-/

namespace DemandPaging.Text

/-- Ranges of code points, both ends included. -/
abbrev CodeRanges := List (Nat × Nat)

namespace CodeRanges

def holds (ranges : CodeRanges) (c : Char) : Bool :=
  ranges.any fun (first, last) => first ≤ c.toNat && c.toNat ≤ last

/-- How many code points lie in the ranges. -/
def count (ranges : CodeRanges) : Nat :=
  ranges.foldl (fun total (first, last) => total + (last + 1 - first)) 0

/-- Whether ranges lie at or above a code point, ascend and do not touch. -/
def ascendFrom (least : Nat) : CodeRanges → Bool
  | [] => true
  | (first, last) :: rest => least ≤ first && first ≤ last && ascendFrom (last + 2) rest

theorem holds_iff {ranges : CodeRanges} {c : Char} :
    ranges.holds c = true ↔ ∃ range ∈ ranges, range.1 ≤ c.toNat ∧ c.toNat ≤ range.2 := by
  simp [holds]

end CodeRanges

end DemandPaging.Text
