import DemandPaging.Space.Access

/-! # Teardown

A space that goes away gives back every RAM frame and swap slot its table names and clears those
entries. Nothing stops a teardown: what cannot be released or cleared is reported, and the rest goes
on. Poison entries name nothing and stay.
-/

namespace DemandPaging

namespace Event

def releaseFailed (page : Nat) (entry : Entry) (reason : MemoryError) : Event where
  severity := .warn
  source := .space
  message := s!"teardown of {Address.pageTag page} ({entry.tag}) failed: {reason.message}"

def clearFailed (page : Nat) (reason : MemoryError) : Event :=
  ⟨.warn, .space, s!"teardown of {Address.pageTag page} failed: {reason.message}"⟩

def spaceReleased (frames slots : Nat) : Event where
  severity := .debug
  source := .space
  message := s!"address space released {frames} RAM frame(s) and {slots} swap slot(s)"

end Event

namespace Space

open Paging

variable {T : Type} [PageTable T]

/-- Where the content of a page is kept, if it has any. -/
def home? (entry : Entry) : Option (DeviceId × Nat) :=
  match entry.state with
  | .absent => none
  | .present frame _ => some (.ram, frame)
  | .swapped device slot => some (.swap device, slot)

/-- Gives back what one entry names and clears it. -/
def releaseEntry (page : Nat) (entry : Entry) : Paging T Unit := do
  match home? entry with
  | none => return ()
  | some (device, frame) =>
    reporting (onMachine (Machine.release device frame)) (.releaseFailed page entry)
    reporting (write page .zero) (.clearFailed page)

/-- Gives back everything that the space owns. -/
def teardown : Paging T Unit := do
  let entries := PageTable.mapped (← space).table
  entries.forM fun (page, entry) => releaseEntry page entry
  modifySpace fun space => { space with resident := ∅ }
  let homes := entries.filterMap fun (_, entry) => home? entry
  let frames := homes.countP fun home => home.1 = .ram
  emit (.spaceReleased frames (homes.length - frames))

end Space

end DemandPaging
