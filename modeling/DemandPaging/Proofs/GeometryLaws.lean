import DemandPaging.Geometry
import Mathlib.Algebra.Group.Nat.Defs

/-! # Splitting and joining addresses

While a page fits the word, joining it with an offset is adding the offset to the first byte of the
page, and splitting gives both back. Whole pages are the multiples of the page size. There is one
geometry for each shift that pages can have.
-/

namespace DemandPaging.Geometry

variable {geometry : Geometry}

/-- Each geometry has its own shift, and no other shift has one. -/
theorem ofShift?_eq_some_iff {shift : Nat} :
    ofShift? shift = some geometry ↔ geometry.shift = shift := by
  unfold ofShift?
  constructor
  · intro made
    split at made
    · rw [← Option.some.inj made]
    · contradiction
  · rintro rfl
    exact dif_pos ⟨geometry.shift_pos, geometry.shift_lt⟩

theorem ofShift?_eq_none_iff {shift : Nat} : ofShift? shift = none ↔ ¬ (0 < shift ∧ shift < 32) := by
  unfold ofShift?
  split
  · next valid => exact iff_of_false (Option.some_ne_none _) (· valid)
  · next invalid => exact iff_of_true rfl invalid

theorem pageSize_eq (geometry : Geometry) : geometry.pageSize = 2 ^ geometry.shift := by
  rw [pageSize, Nat.one_shiftLeft]

theorem shiftLeft_eq (number : Nat) : number <<< geometry.shift = number * geometry.pageSize := by
  rw [Nat.shiftLeft_eq, pageSize_eq]

theorem shiftRight_eq (number : Nat) : number >>> geometry.shift = number / geometry.pageSize :=
  geometry.pageOf_eq_div number

theorem physical_eq {frame offset : Nat} (fits : frame * geometry.pageSize < Word.limit)
    (within : offset < geometry.pageSize) :
    geometry.physical frame offset = frame * geometry.pageSize + offset := by
  rw [pageSize_eq] at within
  rw [physical, base, shiftLeft_eq, Word.truncate_of_lt fits, pageSize_eq, Nat.mul_comm]
  exact (Nat.two_pow_add_eq_or_of_lt within frame).symm

theorem pageOf_add {page offset : Nat} (within : offset < geometry.pageSize) :
    geometry.pageOf (page * geometry.pageSize + offset) = page := by
  rw [pageOf_eq_div, Nat.mul_comm, Nat.mul_add_div geometry.pageSize_pos, Nat.div_eq_of_lt within,
    Nat.add_zero]

theorem offsetOf_add {page offset : Nat} (within : offset < geometry.pageSize) :
    geometry.offsetOf (page * geometry.pageSize + offset) = offset := by
  rw [offsetOf, Nat.mul_comm, Nat.mul_add_mod, Nat.mod_eq_of_lt within]

/-- An address is its page and its offset put together. -/
theorem page_add_offset (address : Nat) :
    geometry.pageOf address * geometry.pageSize + geometry.offsetOf address = address := by
  rw [pageOf_eq_div, offsetOf, Nat.mul_comm]
  exact Nat.div_add_mod address geometry.pageSize

theorem pageOf_mul_le (geometry : Geometry) (address : Nat) :
    geometry.pageOf address * geometry.pageSize ≤ address := by
  rw [pageOf_eq_div]
  exact Nat.div_mul_le_self address geometry.pageSize

theorem pageOf_le_pageOf {low high : Nat} (le : low ≤ high) : geometry.pageOf low ≤ geometry.pageOf high := by
  rw [pageOf_eq_div, pageOf_eq_div]
  exact Nat.div_le_div_right le

/-- The bytes of a whole frame lie below the size. -/
theorem add_lt_of_lt_shiftRight {size frame offset : Nat} (whole : frame < size >>> geometry.shift)
    (within : offset < geometry.pageSize) : frame * geometry.pageSize + offset < size := by
  rw [shiftRight_eq] at whole
  have next := (Nat.le_div_iff_mul_le geometry.pageSize_pos).mp (Nat.succ_le_of_lt whole)
  rw [Nat.succ_mul] at next
  omega

theorem split_physical {frame offset : Nat} (fits : frame * geometry.pageSize < Word.limit)
    (within : offset < geometry.pageSize) :
    geometry.split (geometry.physical frame offset) = (frame, offset) := by
  rw [physical_eq fits within, split, pageOf_add within, offsetOf_add within]

theorem physical_split {address : Nat} (word : address < Word.limit) :
    geometry.physical (geometry.pageOf address) (geometry.offsetOf address) = address := by
  have fits := Nat.lt_of_le_of_lt (geometry.pageOf_mul_le address) word
  rw [physical_eq fits (geometry.offsetOf_lt address), page_add_offset]

theorem pageOf_mul {value : Nat} (aligned : value % geometry.pageSize = 0) :
    geometry.pageOf value * geometry.pageSize = value := by
  have whole := geometry.page_add_offset value
  rwa [offsetOf, aligned, Nat.add_zero] at whole

/-- The whole pages for `size` bytes, and no page more. -/
structure RoundsUp (geometry : Geometry) (size bytes : Nat) : Prop where
  whole : geometry.isAligned bytes = true
  holds : size ≤ bytes
  least : bytes < size + geometry.pageSize

theorem roundsUp_of_alignUp? {size bytes : Nat} (aligned : geometry.alignUp? size = some bytes) :
    geometry.RoundsUp size bytes := by
  obtain ⟨padded, sum, rfl⟩ := Option.map_eq_some_iff.mp aligned
  obtain ⟨-, rfl⟩ := Word.add?_eq_some_iff.mp sum
  have positive := geometry.pageSize_pos
  have below := Nat.mod_lt (size + (geometry.pageSize - 1)) positive
  refine ⟨(geometry.isAligned_iff _).mpr (Word.alignDown_mod _ _), ?_, ?_⟩
  · rw [Word.alignDown]
    omega
  · have le := Word.alignDown_le (size + (geometry.pageSize - 1)) geometry.pageSize
    omega

end DemandPaging.Geometry
