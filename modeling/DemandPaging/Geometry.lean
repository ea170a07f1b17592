import DemandPaging.Address
import DemandPaging.Parameters
import DemandPaging.Text.Record
import DemandPaging.Word

/-! # Page geometry

A geometry is a page size, given by its number of offset bits between 1 and 31. It splits addresses
into a page or frame number and an offset, joins them again, and rounds byte counts up to whole
pages. Splitting is division by the page size; joining is its inverse while the number fits the bits
that are left; rounding up fails exactly when adding the largest offset leaves the word.
-/

namespace DemandPaging

structure Geometry where
  shift : Nat
  shift_pos : 0 < shift
  shift_lt : shift < 32
deriving DecidableEq, Repr

namespace Geometry

def ofShift? (shift : Nat) : Option Geometry :=
  if valid : 0 < shift ∧ shift < 32 then some ⟨shift, valid.1, valid.2⟩ else none

/-- Pages of 256 bytes. -/
def standard : Geometry := ⟨Parameters.pageShift, by decide, by decide⟩

instance : Inhabited Geometry := ⟨standard⟩

variable (geometry : Geometry)

def pageSize : Nat := 1 <<< geometry.shift

def pageOf (address : Nat) : Nat := address >>> geometry.shift

def offsetOf (address : Nat) : Nat := address % geometry.pageSize

def split (address : Nat) : Nat × Nat :=
  (geometry.pageOf address, geometry.offsetOf address)

/-- First address of a page or frame, less the bits above the word. -/
def base (number : Nat) : Nat := Word.truncate (number <<< geometry.shift)

/-- Address of byte `offset` of a page. -/
def join (page offset : Nat) : Nat := geometry.base page ||| offset

/-- Address of byte `offset` of a frame. -/
def physical (frame offset : Nat) : Nat := geometry.base frame ||| offset

/-- Where the bytes of a page or frame start, and where they stop. -/
def span (number : Nat) : Nat × Nat :=
  (number * geometry.pageSize, number * geometry.pageSize + geometry.pageSize)

def alignUp? (size : Nat) : Option Nat := Word.alignUp? size geometry.pageSize

def isAligned (value : Nat) : Bool := value % geometry.pageSize == 0

/-- Whole pages covering `size` bytes. -/
def pagesFor? (size : Nat) : Option Nat := (geometry.alignUp? size).map (· >>> geometry.shift)

/-- How a geometry is described. -/
def description : String := Text.record "PageGeometry" [("shift", toString geometry.shift)]

theorem pageSize_pos : 0 < geometry.pageSize := by
  rw [pageSize, Nat.one_shiftLeft]
  exact Nat.two_pow_pos _

theorem pageOf_eq_div (address : Nat) :
    geometry.pageOf address = address / geometry.pageSize := by
  rw [pageSize, Nat.one_shiftLeft]
  exact Nat.shiftRight_eq_div_pow _ _

theorem pageOf_span (number : Nat) : geometry.pageOf (geometry.span number).1 = number := by
  rw [pageOf_eq_div]
  exact Nat.mul_div_cancel number geometry.pageSize_pos

theorem isAligned_iff (value : Nat) :
    geometry.isAligned value = true ↔ value % geometry.pageSize = 0 := by
  simp only [isAligned, beq_iff_eq]

theorem offsetOf_lt (address : Nat) : geometry.offsetOf address < geometry.pageSize :=
  Nat.mod_lt _ geometry.pageSize_pos

end Geometry

end DemandPaging
