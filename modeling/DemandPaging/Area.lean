import DemandPaging.Region
import DemandPaging.Text.Record
import DemandPaging.Word

/-! # Virtual memory areas

An area is a contiguous range of reserved virtual addresses that only grows at its end. Its break
divides what was handed out at least once from what never was: live and free regions cover the bytes
below the break, and regions are carved at the break while they fit. An area with nothing reserved
still claims its start address, so that nothing is placed on top of it.
-/

namespace DemandPaging

structure Area where
  id : Nat
  start : Nat
  stop : Nat
  /-- The first address that was never handed out. -/
  brk : Nat
  free : FreeList := []
deriving DecidableEq, Repr, Inhabited

/-- Byte accounting of one area. -/
structure AreaUsage where
  reserved : Nat
  live : Nat
  free : Nat
  unused : Nat
deriving DecidableEq, Repr, Inhabited

/-- How the accounting of an area is described. -/
def AreaUsage.description (usage : AreaUsage) : String :=
  Text.record "VmaUsage"
    [("reserved", toString usage.reserved), ("live", toString usage.live),
      ("free", toString usage.free), ("unused", toString usage.unused)]

namespace Area

/-- An area with nothing reserved. -/
def empty (id start : Nat) : Area := { id, start, stop := start, brk := start }

/-- Whether a range lies inside the area. -/
def contains (area : Area) (start stop : Nat) : Bool :=
  area.start ≤ start && stop ≤ area.stop

/-- End of the range that the area claims, which is never empty. -/
def claimedStop (area : Area) : Nat :=
  if area.start < area.stop then area.stop else area.start + 1

/-- Whether a range meets what the area claims. -/
def overlaps (area : Area) (start stop : Nat) : Bool :=
  start < area.claimedStop && area.start < stop

/-- Carves `size` bytes at the break if they end within the area. -/
def takeFromBreak? (area : Area) (size : Nat) : Option (Region × Area) :=
  match Word.add? area.brk size with
  | none => none
  | some stop =>
    if area.stop < stop then none
    else some (⟨area.brk, stop⟩, { area with brk := stop })

theorem start_lt_claimedStop (area : Area) : area.start < area.claimedStop := by
  unfold claimedStop
  split <;> omega

end Area

end DemandPaging
