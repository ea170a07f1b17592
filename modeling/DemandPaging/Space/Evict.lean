import DemandPaging.Space.Fault

/-! # Range eviction

Evicting a range of pages writes its resident pages to the active swap device and frees their frames.
Slots for all of them are taken before the first page is written, and a failure part-way restores the
entries written so far and gives every slot back, so the pages are evicted together or not at all.
-/

namespace DemandPaging

namespace Event

def evictionFailed (page : Nat) (reason : MemoryError) : Event :=
  ⟨.warn, .fault, s!"eviction of {Address.pageTag page} failed: {reason.message}"⟩

def entryLost (page : Nat) (reason : MemoryError) : Event :=
  ⟨.error, .fault, s!"{Address.pageTag page} not restored: {reason.message}"⟩

def frameKept (page frame : Nat) (reason : MemoryError) : Event where
  severity := .warn
  source := .fault
  message := s!"{Address.frameTag frame} of evicted {Address.pageTag page} not released: " ++
    reason.message

def pageEvicted (page device slot : Nat) : Event where
  severity := .debug
  source := .fault
  message := s!"{Address.pageTag page} evicted to device {device} slot {Address.frameTag slot}"

end Event

namespace Space

open Paging

variable {T : Type} [PageTable T]

/-- A resident page with its entry and frame. -/
structure ResidentPage where
  page : Nat
  entry : Entry
  frame : Nat
deriving DecidableEq, Repr, Inhabited

/-- The resident pages among `pages` pages from `first` on. -/
def residentIn (table : T) (first pages : Nat) : List ResidentPage :=
  (List.range' first pages).filterMap fun page =>
    let entry := PageTable.lookup table page
    entry.frame?.map fun frame => { page, entry, frame }

/-- Writes pages to the slots taken for them; on failure the entries and slots are as before. -/
def writeOutAll (device : Nat) (pairs : List (ResidentPage × Nat)) : Paging T Unit := do
  let (done, failure) ← eachUntilFailure
    (fun (held, slot) => writeOut held.page held.frame device slot) pairs
  match failure with
  | none => return ()
  | some ((held, _), reason) =>
    emit (.evictionFailed held.page reason)
    done.forM fun (held, _) => reporting (write held.page held.entry) (.entryLost held.page)
    pairs.forM fun (_, slot) =>
      reporting (onMachine (Machine.release (.swap device) slot)) (.slotLeaked slot)
    throw reason

/-- Frees the frame of a page that was written out. -/
def retire (device : Nat) (held : ResidentPage) (slot : Nat) : Paging T Unit := do
  reporting (onMachine (Machine.release .ram held.frame)) (.frameKept held.page held.frame)
  emit (.pageEvicted held.page device slot)

/-- Evicts the resident pages of an aligned range inside one area and gives their number. -/
def evictPages (start pages : Nat) : Paging T Nat := do
  let first ← settle ((← space).pageRange (← geometry) start pages)
  let held := residentIn (← space).table first pages
  if held.isEmpty then return 0
  let device ← onMachine Machine.activeSwap
  match ← onMachine (Machine.acquireMany (.swap device) held.length) with
  | .error _ => throw (.swapExhausted device)
  | .ok slots =>
    let pairs := held.zip slots
    writeOutAll device pairs
    modifySpace fun space =>
      { space with resident := space.resident.without (held.map ResidentPage.page) }
    pairs.forM fun (held, slot) => retire device held slot
    return held.length

end Space

end DemandPaging
