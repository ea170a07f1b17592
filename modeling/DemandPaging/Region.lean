import DemandPaging.Address
import DemandPaging.Text.Record

/-! # Regions and free lists

A region is a half-open range of bytes. The free list of an area holds the regions released last
first; neighbours are never merged and empty regions never enter. Allocation takes the first region
that is large enough: an exact fit leaves the list, a larger region gives up its front and stays in
its place.
-/

namespace DemandPaging

open Text

structure Region where
  start : Nat
  stop : Nat
deriving DecidableEq, Repr, Inhabited

namespace Region

def size (region : Region) : Nat := region.stop - region.start

/-- Sum of the sizes. -/
def totalSize : List Region → Nat
  | [] => 0
  | region :: rest => region.size + totalSize rest

def tag (region : Region) : String :=
  "[" ++ Hexadecimal.short region.start ++ ", " ++ Hexadecimal.short region.stop ++ ")"

end Region

/-- Free regions, the last released first. -/
abbrev FreeList := List Region

namespace FreeList

def push (free : FreeList) (region : Region) : FreeList :=
  if region.size = 0 then free else region :: free

/-- Carves `size` bytes from the front of the first region that holds them. -/
def takeFirstFit? (size : Nat) : FreeList → Option (Region × FreeList)
  | [] => none
  | region :: rest =>
    if size ≤ region.size then
      let carved : Region := ⟨region.start, region.start + size⟩
      if region.size = size then some (carved, rest)
      else some (carved, { region with start := carved.stop } :: rest)
    else (takeFirstFit? size rest).map fun (carved, rest) => (carved, region :: rest)

/-- Sum of all free bytes. -/
def total (free : FreeList) : Nat := Region.totalSize free

/-- How a free list is described. -/
def description (free : FreeList) : String :=
  record "FreeList" [("regions", sequence (free.map Region.tag))]

theorem takeFirstFit?_eq_none_iff {size : Nat} {free : FreeList} :
    takeFirstFit? size free = none ↔ ∀ region ∈ free, region.size < size := by
  induction free with
  | nil => simp [takeFirstFit?]
  | cons region rest ih =>
    unfold takeFirstFit?
    by_cases fits : size ≤ region.size
    · have large : ¬ region.size < size := Nat.not_lt.mpr fits
      simp only [fits, ↓reduceIte, List.forall_mem_cons, large, false_and, iff_false]
      split <;> simp
    · simp [fits, ih, Nat.lt_of_not_le fits]

theorem total_push (free : FreeList) (region : Region) :
    (free.push region).total = region.size + free.total := by
  unfold push
  split <;> simp [total, Region.totalSize, *]

end FreeList

end DemandPaging
