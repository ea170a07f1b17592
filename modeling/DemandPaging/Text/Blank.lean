import DemandPaging.Text.CodePoint

/-! # Blank characters

The characters with the Unicode property `White_Space`, which separate words. There are 25 of them:
the six of the ASCII range, the next line, the no-break and other spaces of a fixed width, and the
line and paragraph separators.
-/

namespace DemandPaging.Text

/-- Code points with the property `White_Space`. -/
def blankRanges : CodeRanges :=
  [(0x0009, 0x000D), (0x0020, 0x0020), (0x0085, 0x0085), (0x00A0, 0x00A0), (0x1680, 0x1680),
    (0x2000, 0x200A), (0x2028, 0x2029), (0x202F, 0x202F), (0x205F, 0x205F), (0x3000, 0x3000)]

example : blankRanges.ascendFrom 0 = true ∧ blankRanges.count = 25 := by decide

def isBlank (c : Char) : Bool := blankRanges.holds c

theorem isBlank_of_isWhitespace {c : Char} (blank : c.isWhitespace = true) : isBlank c = true := by
  simp only [Char.isWhitespace, Bool.or_eq_true, decide_eq_true_eq] at blank
  rcases blank with ((rfl | rfl) | rfl) | rfl <;> decide

end DemandPaging.Text
