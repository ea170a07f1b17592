import DemandPaging.Area
import DemandPaging.Config
import DemandPaging.PageQueue
import DemandPaging.Table.Flat
import DemandPaging.Table.Radix

/-! # Address spaces

A space is the virtual memory of one process: its areas, the table of its live regions, the queue of
its resident pages with the oldest first, and its page table. Frames and swap slots belong to the
devices of a machine that many spaces share. An operation runs on a stage, which is a machine with
one space in front of it; it answers or fails with a memory error, and in both cases the stage shows
what it left behind. The other spaces are out of its reach.
-/

namespace DemandPaging

/-- A live region and the area it was carved from. -/
structure LiveRegion where
  area : Nat
  region : Region
deriving DecidableEq, Repr, Inhabited

structure Space (T : Type) where
  populate : Populate
  /-- Areas by id. -/
  areas : List Area
  /-- Live regions by id. -/
  regions : Vector (Option LiveRegion) Parameters.regionCapacity
  resident : PageQueue
  table : T

structure Stage (T : Type) extends Machine where
  space : Space T

abbrev Paging (T : Type) := EStateM MemoryError (Stage T)

namespace Space

variable {T : Type}

/-- A space over a given table, with area 0 at address zero and nothing reserved. -/
def ofTable (populate : Populate) (table : T) : Space T where
  populate
  areas := [Area.empty 0 0]
  regions := Vector.replicate _ none
  resident := ∅
  table

/-- A space whose table is empty. -/
def empty [EmptyCollection T] (populate : Populate) : Space T := ofTable populate ∅

/-- The first address that the table cannot map, or the last word if there is none. -/
def reach [PageTable T] (space : Space T) (geometry : Geometry) : Nat :=
  (Word.mul? (PageTable.capacity space.table) geometry.pageSize).getD Word.max

def area? (space : Space T) (id : Nat) : Except MemoryError Area :=
  match space.areas[id]? with
  | some area => .ok area
  | none => .error (.noSuchArea id)

/-- The slot of a region id, which is empty while the id is unused. -/
def slot? (space : Space T) (id : Nat) : Except MemoryError (Option LiveRegion) :=
  match space.regions[id]? with
  | some slot => .ok slot
  | none => .error (.invalidRegionId id)

def live? (space : Space T) (id : Nat) : Except MemoryError LiveRegion := do
  match ← space.slot? id with
  | some live => return live
  | none => throw (.regionNotLive id)

/-- The live region of an id. -/
def region? (space : Space T) (id : Nat) : Except MemoryError Region := do
  return (← space.live? id).region

/-- The live regions with their ids, in ascending order. -/
def liveRegions (space : Space T) : List (Nat × LiveRegion) :=
  space.regions.toList.zipIdx.filterMap fun (slot, id) => slot.map fun live => (id, live)

def setRegion (space : Space T) (id : Nat) (slot : Option LiveRegion) : Space T :=
  { space with regions := space.regions.setIfInBounds id slot }

def setArea (space : Space T) (id : Nat) (area : Area) : Space T :=
  { space with areas := space.areas.set id area }

def modifyArea (space : Space T) (id : Nat) (change : Area → Area) : Space T :=
  { space with areas := space.areas.modify id change }

/-- Byte accounting of one area. -/
def usage (space : Space T) (id : Nat) : Except MemoryError AreaUsage := do
  let area ← space.area? id
  let live := (space.liveRegions.filter fun held => held.2.area == id).map fun held => held.2.region
  return {
    reserved := Address.distance area.start area.stop
    live := Region.totalSize live
    free := area.free.total
    unused := Address.distance area.brk area.stop }

/-- Fails unless some area covers the whole range. -/
def covered (space : Space T) (start stop : Nat) : Except MemoryError Unit :=
  if space.areas.any fun area => area.contains start stop then .ok ()
  else .error (.unmapped start stop)

/-- The first page of an aligned range of pages that lies inside one area. -/
def pageRange (space : Space T) (geometry : Geometry) (start pages : Nat) : Except MemoryError Nat := do
  if !geometry.isAligned start then throw (.misaligned start)
  match (Word.mul? pages geometry.pageSize).bind (Word.add? start) with
  | none => throw (.unmapped start Word.max)
  | some stop =>
    space.covered start stop
    return geometry.pageOf start

end Space

namespace Paging

variable {T : Type}

/-- Lets an action on the machine run as part of an operation. -/
def onMachine {α : Type} (action : DeviceAction α) : Paging T α := fun stage =>
  match action stage.toMachine with
  | .ok answer machine => .ok answer { stage with toMachine := machine }
  | .error reason machine => .error (.device reason) { stage with toMachine := machine }

instance : MonadLift DeviceAction (Paging T) := ⟨onMachine⟩

def emit (event : Event) : Paging T Unit :=
  modify fun stage => { stage with log := event :: stage.log }

def geometry : Paging T Geometry := do
  return (← get).devices.geometry

def space : Paging T (Space T) := do
  return (← get).space

def modifySpace (change : Space T → Space T) : Paging T Unit :=
  modify fun stage => { stage with space := change stage.space }

/-- Runs an operation and writes an event to the log if it fails. -/
def reporting {α : Type} (action : Paging T α) (event : MemoryError → Event) :
    Paging T Unit := do
  match ← attempt action with
  | .ok _ => return ()
  | .error reason => emit (event reason)

/-- Runs an operation on each item until one fails; gives the items done before, and the item that
failed with its failure. -/
def eachUntilFailure {α : Type} (action : α → Paging T Unit) :
    List α → Paging T (List α × Option (α × MemoryError))
  | [] => return ([], none)
  | item :: rest => do
    match ← attempt (action item) with
    | .error reason => return ([], some (item, reason))
    | .ok () =>
      let (done, failure) ← eachUntilFailure action rest
      return (item :: done, failure)

section

variable [PageTable T]

def lookup (page : Nat) : Paging T Entry := do
  return PageTable.lookup (← space).table page

/-- Puts a table written at `page` in place of the old one. -/
def commit (page : Nat) (written : Except TableError T) : Paging T Unit := do
  match written with
  | .error reason => throw (.table reason)
  | .ok table =>
    let old := (← space).table
    modifySpace fun space => { space with table }
    match PageTable.growth? old table page with
    | some event => emit event
    | none => return ()

def write (page : Nat) (entry : Entry) : Paging T Unit := do
  commit page (PageTable.write (← space).table page entry)

def install (page frame : Nat) : Paging T Unit := do
  commit page (PageTable.install (← space).table page frame)

def markSwapped (page device slot : Nat) : Paging T Unit := do
  commit page (PageTable.markSwapped (← space).table page device slot)

def markDirty (page : Nat) : Paging T Unit := do
  commit page (PageTable.markDirty (← space).table page)

def clear (page : Nat) : Paging T Unit := do
  commit page (PageTable.clear (← space).table page)

end

end Paging

end DemandPaging
