/-! # Words of 64 bits

Addresses and sizes are natural numbers below `Word.limit`. Arithmetic that may leave that range is
checked and answers `none`; the left shift of a page or frame number is the one operation that drops
the bits above the word, by `Word.truncate`.
-/

namespace DemandPaging.Word

def limit : Nat := 1 <<< 64

/-- The largest word. -/
def max : Nat := limit - 1

/-- Drops the bits above the word. -/
def truncate (x : Nat) : Nat := x % limit

def add? (x y : Nat) : Option Nat :=
  if x + y < limit then some (x + y) else none

def mul? (x y : Nat) : Option Nat :=
  if x * y < limit then some (x * y) else none

/-- The largest multiple of `unit` that is at most `x`. -/
def alignDown (x unit : Nat) : Nat := x - x % unit

/-- Rounds up by adding `unit - 1` first, so a sum beyond the word is refused. -/
def alignUp? (x unit : Nat) : Option Nat :=
  (add? x (unit - 1)).map fun sum => alignDown sum unit

theorem add?_eq_some_iff {x y sum : Nat} : add? x y = some sum ↔ x + y < limit ∧ x + y = sum := by
  unfold add?
  split <;> simp [*]

theorem mul?_eq_some_iff {x y product : Nat} :
    mul? x y = some product ↔ x * y < limit ∧ x * y = product := by
  unfold mul?
  split <;> simp [*]

theorem add?_eq_none_iff {x y : Nat} : add? x y = none ↔ limit ≤ x + y := by
  unfold add?
  split
  · next fits =>
    simp only [reduceCtorEq, false_iff, Nat.not_le]
    exact fits
  · next large =>
    simp only [true_iff]
    exact Nat.le_of_not_lt large

theorem mul?_eq_none_iff {x y : Nat} : mul? x y = none ↔ limit ≤ x * y := by
  unfold mul?
  split
  · next fits =>
    simp only [reduceCtorEq, false_iff, Nat.not_le]
    exact fits
  · next large =>
    simp only [true_iff]
    exact Nat.le_of_not_lt large

theorem truncate_lt (x : Nat) : truncate x < limit := Nat.mod_lt _ (by decide)

theorem truncate_of_lt {x : Nat} (small : x < limit) : truncate x = x := Nat.mod_eq_of_lt small

theorem alignDown_le (x unit : Nat) : alignDown x unit ≤ x := Nat.sub_le _ _

theorem alignDown_mod (x unit : Nat) : alignDown x unit % unit = 0 := by
  have cut : x - x % unit = unit * (x / unit) := by
    have := Nat.div_add_mod x unit
    omega
  rw [alignDown, cut, Nat.mul_mod_right]

end DemandPaging.Word
