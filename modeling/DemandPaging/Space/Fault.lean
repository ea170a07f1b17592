import DemandPaging.Space.Reserve

/-! # Page faults

Resolving a page makes it resident. A fault takes a free RAM frame if there is one; else the oldest
resident page of the space is written to the active swap device and its frame is used again. A page
that comes back from swap has its bytes copied in and its slot released; any other page starts with
zeros. What fails is undone: the frame goes back, or the evicted page gets back its bytes, its entry
and its place as the oldest, and the slot taken for it is free again.
-/

namespace DemandPaging

namespace Event

def pageResident (page frame : Nat) : Event :=
  ⟨.trace, .fault, s!"{Address.pageTag page} resident in {Address.frameTag frame}"⟩

def faultFailed (page : Nat) (reason : MemoryError) : Event :=
  ⟨.warn, .fault, s!"fault on {Address.pageTag page} failed: {reason.message}"⟩

def slotKept (device slot : Nat) (reason : MemoryError) : Event where
  severity := .warn
  source := .fault
  message := s!"swap slot {Address.frameTag slot} of device {device} not released: " ++ reason.message

def pageSwappedIn (page device slot frame : Nat) : Event where
  severity := .debug
  source := .fault
  message := s!"{Address.pageTag page} swapped in from device {device} " ++
    s!"slot {Address.frameTag slot} to {Address.frameTag frame}"

def pageFaulted (page frame : Nat) : Event :=
  ⟨.debug, .fault, s!"{Address.pageTag page} faulted into {Address.frameTag frame}"⟩

def victimStale (page : Nat) (entry : Entry) : Event :=
  ⟨.warn, .fault, s!"FIFO victim {Address.pageTag page} is not resident: {entry.tag}"⟩

def victimEvicted (page frame device slot : Nat) : Event where
  severity := .debug
  source := .fault
  message := s!"evicted {Address.pageTag page} from {Address.frameTag frame} to device {device} " ++
    s!"slot {Address.frameTag slot}"

def slotLeaked (slot : Nat) (reason : MemoryError) : Event :=
  ⟨.error, .fault, s!"swap slot {Address.frameTag slot} leaked: {reason.message}"⟩

def frameLeaked (frame : Nat) (reason : MemoryError) : Event :=
  ⟨.error, .fault, s!"{Address.frameTag frame} leaked: {reason.message}"⟩

def victimLost (page : Nat) (reason : MemoryError) : Event :=
  ⟨.error, .fault, s!"victim {Address.pageTag page} not restored: {reason.message}"⟩

def victimStaysOut (page : Nat) (reason : MemoryError) : Event :=
  ⟨.error, .fault, s!"victim {Address.pageTag page} stays in swap: {reason.message}"⟩

end Event

namespace Space

open Paging

variable {T : Type} [PageTable T]

/-- Where the bytes of a swapped page are. -/
structure SwapSlot where
  device : Nat
  slot : Nat
deriving DecidableEq, Repr, Inhabited

/-- A finished eviction, with what is needed to undo it. -/
structure Eviction where
  victim : Nat
  entry : Entry
  frame : Nat
  copy : SwapSlot
deriving DecidableEq, Repr, Inhabited

/-- Copies a frame to a slot that was taken for it, then marks its page swapped. -/
def writeOut (page frame device slot : Nat) : Paging T Unit := do
  onMachine (Machine.copyFrame .ram frame (.swap device) slot)
  markSwapped page device slot

/-- Writes a page to a new slot of the active swap device; the slot goes back on failure. -/
def swapOut (page frame : Nat) : Paging T SwapSlot := do
  let device ← onMachine Machine.activeSwap
  match ← onMachine (Machine.acquire (.swap device)) with
  | none => throw (.swapExhausted device)
  | some slot =>
    match ← attempt (writeOut page frame device slot) with
    | .ok () => return ⟨device, slot⟩
    | .error reason =>
      reporting (onMachine (Machine.release (.swap device) slot)) (.slotLeaked slot)
      throw reason

/-- Writes the oldest resident page to swap. It stays the oldest if that fails. -/
def evictOldest : Paging T Eviction := do
  match (← space).resident.takeOldest? with
  | none => throw .noVictim
  | some (victim, rest) =>
    modifySpace fun space => { space with resident := rest }
    let entry ← lookup victim
    match entry.frame? with
    | none =>
      emit (.victimStale victim entry)
      throw (.staleVictim victim)
    | some frame =>
      match ← attempt (swapOut victim frame) with
      | .ok copy =>
        emit (.victimEvicted victim frame copy.device copy.slot)
        return { victim, entry, frame, copy }
      | .error reason =>
        modifySpace fun space => { space with resident := space.resident.putBack victim }
        throw reason

/-- A frame for a new resident page, and the eviction that made room for it. -/
def claimFrame : Paging T (Nat × Option Eviction) := do
  match ← onMachine (Machine.acquire .ram) with
  | some frame => return (frame, none)
  | none =>
    let eviction ← evictOldest
    return (eviction.frame, some eviction)

/-- Gives a frame the bytes of its new page. -/
def fill (source : Option SwapSlot) (frame : Nat) : Paging T Unit :=
  match source with
  | none => onMachine (Machine.zeroFrame frame)
  | some copy => onMachine (Machine.copyFrame (.swap copy.device) copy.slot .ram frame)

/-- Brings an evicted page back from its slot, or leaves it swapped if its bytes cannot be read. -/
def restoreVictim (eviction : Eviction) : Paging T Unit := do
  let copy := eviction.copy
  match ← attempt (onMachine (Machine.copyFrame (.swap copy.device) copy.slot .ram eviction.frame)) with
  | .ok () =>
    reporting (write eviction.victim eviction.entry) (.victimLost eviction.victim)
    reporting (onMachine (Machine.release (.swap copy.device) copy.slot)) (.slotLeaked copy.slot)
    modifySpace fun space => { space with resident := space.resident.putBack eviction.victim }
  | .error reason =>
    emit (.victimStaysOut eviction.victim reason)
    reporting (onMachine (Machine.release .ram eviction.frame)) (.frameLeaked eviction.frame)

/-- Gives back the frame of a failed fault. -/
def undoFault (frame : Nat) : Option Eviction → Paging T Unit
  | none => reporting (onMachine (Machine.release .ram frame)) (.frameLeaked frame)
  | some eviction => restoreVictim eviction

/-- Ends a fault: the slot a page came from is free again, and the page is the newest resident. -/
def enlist (page frame : Nat) (source : Option SwapSlot) : Paging T Unit := do
  match source with
  | some copy =>
    reporting (onMachine (Machine.release (.swap copy.device) copy.slot))
      (.slotKept copy.device copy.slot)
    emit (.pageSwappedIn page copy.device copy.slot frame)
  | none => emit (.pageFaulted page frame)
  modifySpace fun space => { space with resident := space.resident.push page }

/-- Makes a page resident that is not. -/
def faultIn (page : Nat) (source : Option SwapSlot) : Paging T Nat := do
  let limit := PageTable.capacity (← space).table
  if limit ≤ page then throw (.table (.outOfRange page limit))
  let (frame, eviction) ← claimFrame
  match ← attempt (do fill source frame; install page frame) with
  | .ok () =>
    enlist page frame source
    return frame
  | .error reason =>
    emit (.faultFailed page reason)
    undoFault frame eviction
    throw reason

/-- Makes a page resident and gives its frame. -/
def resolve (page : Nat) : Paging T Nat := do
  match (← lookup page).state with
  | .present frame _ =>
    emit (.pageResident page frame)
    return frame
  | .absent => faultIn page none
  | .swapped device slot => faultIn page (some ⟨device, slot⟩)

end Space

end DemandPaging
