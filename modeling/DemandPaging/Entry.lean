import DemandPaging.Address
import DemandPaging.Parameters
import DemandPaging.Text.Record

/-! # Page-table entries

An entry is a word of 64 bits. From the lowest bit on it holds a frame number or swap slot (40 bits),
the index of a swap device (5 bits), 16 reserved bits, and the flags dirty, swapped and present. An
entry is read through `Entry.state`, which gives the swapped flag precedence: a swapped entry keeps
its present flag set and still never yields a frame. An entry with neither flag is absent whatever
its payload, which is how a poison pattern stays without a mapping.
-/

namespace DemandPaging

open Text

structure Entry where
  frameOrSlot : BitVec 40 := 0
  device : BitVec 5 := 0
  reserved : BitVec 16 := 0
  dirty : Bool := false
  swapped : Bool := false
  present : Bool := false
deriving DecidableEq, Repr, Inhabited

/-- What an entry says about its page. -/
inductive EntryState where
  | absent
  | present (frame : Nat) (dirty : Bool)
  | swapped (device slot : Nat)
deriving DecidableEq, Repr, Inhabited

namespace Entry

/-- The largest frame number or swap slot an entry can hold. -/
def maxFrame : Nat := 1 <<< 40 - 1

/-- The largest index of a swap device an entry can hold. -/
def maxDevice : Nat := 1 <<< 5 - 1

def zero : Entry := {}

/-- A clean mapping to a RAM frame. -/
def ofFrame (frame : Nat) : Entry :=
  { frameOrSlot := BitVec.ofNat 40 frame, present := true }

/-- The page lives at `slot` of swap device `device`. -/
def ofSlot (device slot : Nat) : Entry :=
  { frameOrSlot := BitVec.ofNat 40 slot, device := BitVec.ofNat 5 device, swapped := true, present := true }

def ofWord (word : Nat) : Entry where
  frameOrSlot := BitVec.ofNat 40 word
  device := BitVec.ofNat 5 (word >>> 40)
  reserved := BitVec.ofNat 16 (word >>> 45)
  dirty := word.testBit 61
  swapped := word.testBit 62
  present := word.testBit 63

def toWord (entry : Entry) : Nat :=
  entry.frameOrSlot.toNat + entry.device.toNat <<< 40 + entry.reserved.toNat <<< 45 +
    entry.dirty.toNat <<< 61 + entry.swapped.toNat <<< 62 + entry.present.toNat <<< 63

/-- The pattern stamped over absent entries; it is absent itself. -/
def poison : Entry := ofWord Parameters.poisonWord

def isZero (entry : Entry) : Bool := entry == zero

def state (entry : Entry) : EntryState :=
  if entry.swapped then .swapped entry.device.toNat entry.frameOrSlot.toNat
  else if entry.present then .present entry.frameOrSlot.toNat entry.dirty
  else .absent

/-- The RAM frame of a resident page. -/
def frame? (entry : Entry) : Option Nat :=
  match entry.state with
  | .present frame _ => some frame
  | _ => none

/-- Sets the dirty flag of a resident page and leaves every other entry alone. -/
def markDirty (entry : Entry) : Entry :=
  match entry.state with
  | .present _ _ => { entry with dirty := true }
  | _ => entry

def withFrameOrSlot? (entry : Entry) (value : Nat) : Option Entry :=
  if value ≤ maxFrame then some { entry with frameOrSlot := BitVec.ofNat 40 value } else none

def withDevice? (entry : Entry) (value : Nat) : Option Entry :=
  if value ≤ maxDevice then some { entry with device := BitVec.ofNat 5 value } else none

/-- How an entry is written in the log. -/
def tag (entry : Entry) : String :=
  match entry.state with
  | .absent =>
    if entry.isZero then "PTE(absent)" else "PTE(absent, raw=" ++ Hexadecimal.short entry.toWord ++ ")"
  | .present frame dirty =>
    "PTE(present " ++ Address.frameTag frame ++ (if dirty then ", dirty" else "") ++ ")"
  | .swapped device slot => s!"PTE(swapped dev={device} off=" ++ Address.frameTag slot ++ ")"

theorem state_zero : zero.state = .absent := by decide

theorem state_poison : poison.state = .absent := by decide

theorem isZero_iff (entry : Entry) : entry.isZero = true ↔ entry = zero := by
  simp only [isZero, beq_iff_eq]

theorem state_ofFrame {frame : Nat} (fits : frame ≤ maxFrame) :
    (ofFrame frame).state = .present frame false := by
  have kept : (BitVec.ofNat 40 frame).toNat = frame := by
    rw [BitVec.toNat_ofNat]
    exact Nat.mod_eq_of_lt (by unfold maxFrame at fits; omega)
  simp only [state, ofFrame, kept, Bool.false_eq_true, ↓reduceIte]

theorem state_ofSlot {device slot : Nat} (deviceFits : device ≤ maxDevice)
    (slotFits : slot ≤ maxFrame) : (ofSlot device slot).state = .swapped device slot := by
  have keptDevice : (BitVec.ofNat 5 device).toNat = device := by
    rw [BitVec.toNat_ofNat]
    exact Nat.mod_eq_of_lt (by unfold maxDevice at deviceFits; omega)
  have keptSlot : (BitVec.ofNat 40 slot).toNat = slot := by
    rw [BitVec.toNat_ofNat]
    exact Nat.mod_eq_of_lt (by unfold maxFrame at slotFits; omega)
  simp only [state, ofSlot, keptDevice, keptSlot, ↓reduceIte]

theorem frame?_eq_some_iff {entry : Entry} {frame : Nat} :
    entry.frame? = some frame ↔ ∃ dirty, entry.state = .present frame dirty := by
  unfold frame?
  cases entry.state <;> simp

theorem ne_zero_of_frame? {entry : Entry} {frame : Nat} (framed : entry.frame? = some frame) : entry ≠ zero := by
  rintro rfl
  contradiction

end Entry

namespace EntryState

/-- How a state is written when its fields are named. -/
def description : EntryState → String
  | .absent => "Absent"
  | .present frame dirty =>
    record "Present" [("frame", Address.frameTag frame), ("dirty", toString dirty)]
  | .swapped device slot =>
    record "Swapped" [("swap_type", toString device), ("offset", Address.frameTag slot)]

end EntryState

end DemandPaging
