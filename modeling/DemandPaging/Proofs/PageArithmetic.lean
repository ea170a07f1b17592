import DemandPaging.Proofs.GeometryLaws
import Mathlib.Algebra.Order.Floor.Div
import Mathlib.Order.Bounds.Basic

/-! # Page arithmetic on words

On words of 64 bits the arithmetic of a geometry is done by shifts and masks, and what these compute are
quotients, remainders and multiples of the page size. A size is rounded up by adding the largest offset
first. That sum leaves the word only if the next multiple does, since the first address beyond the words is
itself a multiple of every page size: nothing is refused that could be rounded, and nothing wraps.
-/

namespace DemandPaging.Geometry

variable (geometry : Geometry)

section Words

/-- The largest offset, which is the word of all offset bits. -/
def mask : BitVec 64 := (1#64 <<< geometry.shift) - 1#64

/-- Splitting, joining and rounding as shifts and masks of words. -/
structure Masked : Prop where
  pageOf : ∀ address : BitVec 64, geometry.pageOf address.toNat = (address >>> geometry.shift).toNat
  offsetOf : ∀ address : BitVec 64, geometry.offsetOf address.toNat = (address &&& geometry.mask).toNat
  join : ∀ page offset : BitVec 64,
    geometry.join page.toNat offset.toNat = (page <<< geometry.shift ||| offset).toNat
  alignUp : ∀ size : BitVec 64, geometry.alignUp? size.toNat =
    if size.uaddOverflow geometry.mask then none else some ((size + geometry.mask) &&& ~~~geometry.mask).toNat
  isAligned : ∀ value : BitVec 64, geometry.isAligned value.toNat = (value &&& geometry.mask == 0#64)
  pagesFor : ∀ size : BitVec 64, geometry.pagesFor? size.toNat =
    if size.uaddOverflow geometry.mask then none
    else some (((size + geometry.mask) &&& ~~~geometry.mask) >>> geometry.shift).toNat

/-- The first address beyond the words is a multiple of the page size. -/
theorem pageSize_mul : 2 ^ (64 - geometry.shift) * geometry.pageSize = Word.limit := by
  have short : geometry.shift ≤ 64 := by
    have := geometry.shift_lt
    omega
  rw [pageSize_eq, Nat.pow_sub_mul_pow 2 short]
  rfl

theorem pageSize_lt : geometry.pageSize < Word.limit := by
  have long : 0 < 64 - geometry.shift := by
    have := geometry.shift_lt
    omega
  rw [← geometry.pageSize_mul]
  exact (Nat.lt_mul_iff_one_lt_left geometry.pageSize_pos).mpr (Nat.one_lt_two_pow long.ne')

theorem toNat_mask : geometry.mask.toNat = geometry.pageSize - 1 := by
  have size : (1#64 <<< geometry.shift).toNat = geometry.pageSize := by
    rw [BitVec.toNat_shiftLeft]
    exact Nat.mod_eq_of_lt geometry.pageSize_lt
  have fits : 1#64 ≤ 1#64 <<< geometry.shift := by
    rw [BitVec.le_def, size]
    exact geometry.pageSize_pos
  rw [mask, BitVec.toNat_sub_of_le fits, size]
  rfl

/-- The bits under the mask are the remainder. -/
theorem toNat_and_mask (value : BitVec 64) : (value &&& geometry.mask).toNat = value.toNat % geometry.pageSize := by
  rw [BitVec.toNat_and, toNat_mask, pageSize_eq, Nat.and_two_pow_sub_one_eq_mod]

/-- The bits outside the mask and those under it make up the word. -/
theorem toNat_mask_partition (value : BitVec 64) :
    (value &&& ~~~geometry.mask).toNat + (value &&& geometry.mask).toNat = value.toNat := by
  have apart : (value &&& ~~~geometry.mask) &&& (value &&& geometry.mask) = 0#64 := by
    ext bit
    simp only [BitVec.getElem_and, BitVec.getElem_not, BitVec.getElem_zero]
    cases value[bit] <;> cases geometry.mask[bit] <;> rfl
  have whole : (value &&& ~~~geometry.mask) ||| (value &&& geometry.mask) = value := by
    ext bit
    simp only [BitVec.getElem_or, BitVec.getElem_and, BitVec.getElem_not]
    cases value[bit] <;> cases geometry.mask[bit] <;> rfl
  rw [← BitVec.toNat_add_of_and_eq_zero apart, BitVec.add_eq_or_of_and_eq_zero _ _ apart, whole]

/-- The bits outside the mask are the multiple below. -/
theorem toNat_and_not_mask (value : BitVec 64) :
    (value &&& ~~~geometry.mask).toNat = Word.alignDown value.toNat geometry.pageSize := by
  have parts := geometry.toNat_mask_partition value
  rw [toNat_and_mask] at parts
  rw [Word.alignDown]
  omega

theorem alignUp?_eq_masked (size : BitVec 64) : geometry.alignUp? size.toNat =
    if size.uaddOverflow geometry.mask then none
    else some ((size + geometry.mask) &&& ~~~geometry.mask).toNat := by
  have overflow : size.uaddOverflow geometry.mask = decide (Word.limit ≤ size.toNat + (geometry.pageSize - 1)) := by
    rw [BitVec.uaddOverflow, toNat_mask]
    rfl
  rw [overflow, toNat_and_not_mask, BitVec.toNat_add, toNat_mask, alignUp?, Word.alignUp?, Word.add?]
  by_cases fits : size.toNat + (geometry.pageSize - 1) < Word.limit
  · rw [if_pos fits, Option.map_some, if_neg (by simpa using fits)]
    exact congrArg (some <| Word.alignDown · geometry.pageSize) (Nat.mod_eq_of_lt fits).symm
  · rw [if_neg fits, Option.map_none, if_pos (by simpa using fits)]

theorem masked : geometry.Masked where
  pageOf _ := rfl
  offsetOf address := (geometry.toNat_and_mask address).symm
  join page offset := by
    rw [BitVec.toNat_or, BitVec.toNat_shiftLeft]
    rfl
  alignUp := geometry.alignUp?_eq_masked
  isAligned value := by
    rw [isAligned, ← toNat_and_mask, Bool.eq_iff_iff, beq_iff_eq, beq_iff_eq, ← BitVec.toNat_inj]
    rfl
  pagesFor size := by
    rw [pagesFor?, alignUp?_eq_masked]
    split <;> rfl

end Words

section Multiples

/-- The multiples of the page size that hold `size` bytes. -/
def multiplesFrom (size : Nat) : Set Nat := {bytes | geometry.pageSize ∣ bytes ∧ size ≤ bytes}

/-- The numbers of pages that hold `size` bytes. -/
def pagesFrom (size : Nat) : Set Nat := {pages | size ≤ pages * geometry.pageSize}

/-- Splitting, joining and rounding in terms of quotients, remainders and multiples. -/
structure Exact : Prop where
  join_split : ∀ address < Word.limit, geometry.join (geometry.split address).1 (geometry.split address).2 = address
  split_join : ∀ page < 2 ^ (64 - geometry.shift), ∀ offset < geometry.pageSize,
    geometry.split (geometry.join page offset) = (page, offset)
  alignUp : ∀ size, ∃ bytes, IsLeast (geometry.multiplesFrom size) bytes ∧
    geometry.alignUp? size = if bytes < Word.limit then some bytes else none
  pagesFor : ∀ size, ∃ pages, IsLeast (geometry.pagesFrom size) pages ∧
    geometry.pagesFor? size = if pages * geometry.pageSize < Word.limit then some pages else none
  refused : ∀ size, geometry.pagesFor? size = none ↔ geometry.alignUp? size = none
  aligned : ∀ size < Word.limit, geometry.isAligned size = true ↔ geometry.alignUp? size = some size

theorem isLeast_pagesFrom (size : Nat) : IsLeast (geometry.pagesFrom size) (size ⌈/⌉ geometry.pageSize) := by
  have galois (pages : Nat) : size ⌈/⌉ geometry.pageSize ≤ pages ↔ size ≤ pages * geometry.pageSize := by
    rw [ceilDiv_le_iff_le_smul geometry.pageSize_pos, smul_eq_mul, Nat.mul_comm]
  exact ⟨(galois _).mp le_rfl, fun pages holds => (galois pages).mpr holds⟩

theorem isLeast_multiplesFrom {size pages : Nat} (least : IsLeast (geometry.pagesFrom size) pages) :
    IsLeast (geometry.multiplesFrom size) (pages * geometry.pageSize) := by
  refine ⟨⟨Nat.dvd_mul_left _ _, least.1⟩, ?_⟩
  rintro _ ⟨⟨more, rfl⟩, holds⟩
  rw [Nat.mul_comm] at holds ⊢
  exact Nat.mul_le_mul_left _ (least.2 holds)

theorem alignUp?_eq_ite (size : Nat) : geometry.alignUp? size =
    if size ⌈/⌉ geometry.pageSize * geometry.pageSize < Word.limit
    then some (size ⌈/⌉ geometry.pageSize * geometry.pageSize) else none := by
  have positive := geometry.pageSize_pos
  have quotient : size ⌈/⌉ geometry.pageSize = (size + (geometry.pageSize - 1)) / geometry.pageSize := by
    rw [Nat.ceilDiv_eq_add_pred_div, Nat.add_sub_assoc positive]
  have rounded : Word.alignDown (size + (geometry.pageSize - 1)) geometry.pageSize =
      size ⌈/⌉ geometry.pageSize * geometry.pageSize := by
    rw [Word.alignDown, quotient, Nat.div_mul_self_eq_mod_sub_self]
  have fits : size + (geometry.pageSize - 1) < Word.limit ↔
      size ⌈/⌉ geometry.pageSize * geometry.pageSize < Word.limit := by
    rw [quotient, ← geometry.pageSize_mul, Nat.mul_lt_mul_right positive, Nat.div_lt_iff_lt_mul positive]
  simp only [alignUp?, Word.alignUp?, Word.add?, fits]
  split
  · rw [Option.map_some, rounded]
  · rw [Option.map_none]

theorem isAligned_iff_alignUp? {size : Nat} (word : size < Word.limit) :
    geometry.isAligned size = true ↔ geometry.alignUp? size = some size := by
  constructor
  · intro aligned
    have whole := geometry.isLeast_multiplesFrom (geometry.isLeast_pagesFrom size)
    have itself : IsLeast (geometry.multiplesFrom size) size :=
      ⟨⟨Nat.dvd_of_mod_eq_zero ((geometry.isAligned_iff size).mp aligned), le_rfl⟩, fun _ holds => holds.2⟩
    rw [alignUp?_eq_ite, whole.unique itself, if_pos word]
  · exact fun rounded => (roundsUp_of_alignUp? rounded).whole

theorem exact : geometry.Exact where
  join_split _ word := physical_split word
  split_join page below offset within := by
    refine split_physical ?_ within
    rw [← geometry.pageSize_mul]
    exact Nat.mul_lt_mul_of_pos_right below geometry.pageSize_pos
  alignUp size :=
    ⟨_, geometry.isLeast_multiplesFrom (geometry.isLeast_pagesFrom size), geometry.alignUp?_eq_ite size⟩
  pagesFor size := by
    refine ⟨_, geometry.isLeast_pagesFrom size, ?_⟩
    rw [pagesFor?, alignUp?_eq_ite]
    split
    · rw [Option.map_some, shiftRight_eq, Nat.mul_div_cancel _ geometry.pageSize_pos]
    · rw [Option.map_none]
  refused _ := Option.map_eq_none_iff
  aligned _ word := geometry.isAligned_iff_alignUp? word

variable {geometry}

/-- The whole pages for a size, and no page more, are the least multiple that holds it. -/
theorem RoundsUp.isLeast {size bytes : Nat} (rounded : geometry.RoundsUp size bytes) :
    IsLeast (geometry.multiplesFrom size) bytes := by
  have whole := Nat.dvd_of_mod_eq_zero ((geometry.isAligned_iff bytes).mp rounded.whole)
  refine ⟨⟨whole, rounded.holds⟩, fun other ⟨multiple, holds⟩ => Nat.le_of_not_lt fun less => ?_⟩
  -- a smaller multiple is smaller by a page at least
  have apart := Nat.le_of_dvd (Nat.sub_pos_of_lt less) (Nat.dvd_sub whole multiple)
  have close := rounded.least
  omega

end Multiples

end DemandPaging.Geometry
