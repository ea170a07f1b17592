import DemandPaging.Space.Basic

/-! # Reserving addresses

Areas are created empty at an aligned address and grow at their end by whole pages, never into what
a sibling claims nor past the reach of the table. A region is carved from the first free region of
its area that holds it, else at the break, else at the break after growth; releasing it puts it on
the free list. Eager growth maps a zeroed frame for every new page: all frames are taken at once, and
when a page cannot be mapped, the pages mapped so far are cleared and all frames given back.
-/

namespace DemandPaging

namespace Event

def areaCreated (id start : Nat) : Event :=
  ⟨.debug, .space, s!"created VMA {id} at {Address.text start}"⟩

def areaGrown (id bytes oldStop newStop : Nat) : Event where
  severity := .debug
  source := .space
  message := s!"VMA {id}: grew by {bytes} bytes to " ++
    s!"[{Address.virtualTag oldStop}..{Address.virtualTag newStop})"

def regionAllocated (id area : Nat) (region : Region) : Event :=
  ⟨.debug, .space, s!"region {id}: allocated {region.tag} in VMA {area}"⟩

def regionReleased (id : Nat) (region : Region) : Event :=
  ⟨.debug, .space, s!"region {id}: released {region.tag}"⟩

def areaOverlapped (area start stop : Nat) : Event where
  severity := .warn
  source := .space
  message := s!"[{Address.virtualTag start}..{Address.virtualTag stop}) overlaps VMA {area}"

def mappingRefused (start stop : Nat) (reason : ShortageError) : Event where
  severity := .debug
  source := .space
  message := s!"eager mapping of [{Address.virtualTag start}..{Address.virtualTag stop}) refused: " ++
    reason.message

def pageRollbackFailed (page : Nat) (reason : MemoryError) : Event :=
  ⟨.error, .space, s!"rollback of {Address.pageTag page} failed: {reason.message}"⟩

def frameRollbackFailed (frame : Nat) (reason : MemoryError) : Event :=
  ⟨.error, .space, s!"rollback of {Address.frameTag frame} failed: {reason.message}"⟩

def pagesMapped (count first : Nat) : Event :=
  ⟨.debug, .space, s!"mapped {count} page(s) from {Address.pageTag first}"⟩

end Event

namespace Space

open Paging

variable {T : Type}

/-- Fails if a range meets what another area claims. -/
def checkOverlap (id start stop : Nat) : Paging T Unit := do
  match (← space).areas.find? fun area => area.id != id && area.overlaps start stop with
  | some area =>
    emit (.areaOverlapped area.id start stop)
    throw (.overlap area.id start stop)
  | none => return ()

/-- Puts a zeroed frame behind a page. -/
def mapZeroed [PageTable T] (page frame : Nat) : Paging T Unit := do
  onMachine (Machine.zeroFrame frame)
  install page frame

/-- Maps a zeroed frame for every page of an aligned range, or none. -/
def mapRange [PageTable T] (start stop : Nat) : Paging T Unit := do
  let geometry ← geometry
  let first := geometry.pageOf start
  let count := Address.distance start stop >>> geometry.shift
  match ← onMachine (Machine.acquireMany .ram count) with
  | .error reason =>
    emit (.mappingRefused start stop reason)
    throw (.frames reason)
  | .ok frames =>
    let pages := List.range' first count
    let (done, failure) ← eachUntilFailure (fun (page, frame) => mapZeroed page frame)
      (pages.zip frames)
    match failure with
    | some (_, reason) =>
      done.forM fun (page, _) => reporting (clear page) (.pageRollbackFailed page)
      frames.forM fun frame =>
        reporting (onMachine (Machine.release .ram frame)) (.frameRollbackFailed frame)
      throw reason
    | none =>
      modifySpace fun space => { space with resident := space.resident.pushAll pages }
      emit (.pagesMapped count first)

/-- Appends an empty area at an aligned address and gives its id. -/
def createArea [PageTable T] (start : Nat) : Paging T Nat := do
  let geometry ← geometry
  if !geometry.isAligned start then throw (.misaligned start)
  let current ← space
  if current.reach geometry ≤ start then throw (.spaceExhausted start 0)
  let id := current.areas.length
  checkOverlap id start (start + 1)
  modifySpace fun space => { space with areas := space.areas ++ [Area.empty id start] }
  emit (.areaCreated id start)
  return id

/-- The bytes by which an area grows for `size` more bytes, and its new end. -/
def growth? [PageTable T] (space : Space T) (geometry : Geometry) (oldStop size : Nat) :
    Option (Nat × Nat) := do
  let bytes ← geometry.alignUp? size
  let newStop ← Word.add? oldStop bytes
  if newStop ≤ space.reach geometry then some (bytes, newStop) else none

/-- Extends an area by `size` bytes in whole pages and gives its old end. -/
def grow [PageTable T] (id size : Nat) : Paging T Nat := do
  if size = 0 then throw .zeroSize
  let current ← space
  let area ← settle (current.area? id)
  match current.growth? (← geometry) area.stop size with
  | none => throw (.spaceExhausted area.stop size)
  | some (bytes, newStop) =>
    checkOverlap id area.stop newStop
    if current.populate = .eager then mapRange area.stop newStop
    modifySpace fun space => space.setArea id { area with stop := newStop }
    emit (.areaGrown id bytes area.stop newStop)
    return area.stop

/-- Carves a region at the break of an area after growing it. -/
def carveGrown [PageTable T] (id size : Nat) : Paging T Region := do
  let _ ← grow id size
  let area ← settle ((← space).area? id)
  match area.takeFromBreak? size with
  | some (region, area) =>
    modifySpace fun space => space.setArea id area
    return region
  | none => throw (.spaceExhausted area.stop size)

/-- Carves a region from the free list of an area, at its break, or at its break after growth. -/
def carve [PageTable T] (id size : Nat) : Paging T Region := do
  let area ← settle ((← space).area? id)
  match area.free.takeFirstFit? size with
  | some (region, free) =>
    modifySpace fun space => space.setArea id { area with free }
    return region
  | none =>
    match area.takeFromBreak? size with
    | some (region, area) =>
      modifySpace fun space => space.setArea id area
      return region
    | none => carveGrown id size

/-- Carves `size` bytes from an area, stores the region under an unused id and gives its start. -/
def allocate [PageTable T] (area id size : Nat) : Paging T Nat := do
  match ← settle ((← space).slot? id) with
  | some _ => throw (.regionInUse id)
  | none =>
    if size = 0 then throw .zeroSize
    let region ← carve area size
    modifySpace fun space => space.setRegion id (some ⟨area, region⟩)
    emit (.regionAllocated id area region)
    return region.start

/-- Puts a live region on the free list of its area and gives it. Its pages stay mapped. -/
def release (id : Nat) : Paging T Region := do
  let live ← settle ((← space).live? id)
  modifySpace fun space =>
    (space.setRegion id none).modifyArea live.area fun area =>
      { area with free := area.free.push live.region }
  emit (.regionReleased id live.region)
  return live.region

end Space

end DemandPaging
