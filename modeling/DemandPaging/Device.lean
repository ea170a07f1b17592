import DemandPaging.Event
import DemandPaging.FramePool
import DemandPaging.Geometry
import Std.Data.ExtTreeMap

/-! # Memory devices

A device is a store of bytes, all zero at first, carved into page-sized frames. RAM and swap devices
differ only in how they are called. Bytes are addressed from zero up to the size; the bytes behind
the last whole frame can be read and written but belong to no frame of the pool. Contents are kept
by frame and offset, a missing byte being zero, so that copying a frame is one assignment; reading a
byte splits its address by the geometry of the device.
-/

namespace DemandPaging

open Text

inductive DeviceKind where
  | ram
  | swap
deriving DecidableEq, Repr, Inhabited

def DeviceKind.text : DeviceKind → String
  | .ram => "RAM"
  | .swap => "SWAP"

/-- The name of a kind as one word with a capital. -/
def DeviceKind.title : DeviceKind → String
  | .ram => "Ram"
  | .swap => "Swap"

inductive DeviceError where
  | outOfBounds (address size : Nat)
  | invalidFrame (frame frames : Nat)
  | doubleFree (frame : Nat)
  | noSuchSwapDevice (index : Nat)
  | tooManySwapDevices (got most : Nat)
deriving DecidableEq, Repr, Inhabited

def DeviceError.message : DeviceError → String
  | .outOfBounds address size =>
    s!"physical address {Address.text address} outside device of {size} bytes"
  | .invalidFrame frame frames => s!"frame {frame} outside device of {frames} frames"
  | .doubleFree frame => s!"frame {frame} is already free"
  | .noSuchSwapDevice index => s!"no swap device with index {index}"
  | .tooManySwapDevices got most => s!"at most {most} swap devices are supported, got {got}"

/-- The bytes of one frame by offset; a missing byte is zero. -/
abbrev FrameBytes := Std.ExtTreeMap Nat UInt8

structure Device where
  kind : DeviceKind
  geometry : Geometry
  /-- Bytes of the store. -/
  size : Nat
  pool : FramePool (size >>> geometry.shift) := {}
  contents : Std.ExtTreeMap Nat FrameBytes := ∅

namespace Device

variable (device : Device)

/-- Whole frames of the device. -/
def frames : Nat := device.size >>> device.geometry.shift

def frameBytes (frame : Nat) : FrameBytes := device.contents[frame]?.getD ∅

/-- The byte at an address, whether or not it is on the device. -/
def byte (address : Nat) : UInt8 :=
  (device.frameBytes (device.geometry.pageOf address))[device.geometry.offsetOf address]?.getD 0

/-- The place of a byte in the store. -/
def index (address : Nat) : Except DeviceError Nat :=
  if address < device.size then .ok address else .error (.outOfBounds address device.size)

def checkFrame (frame : Nat) : Except DeviceError Nat :=
  if frame < device.frames then .ok frame else .error (.invalidFrame frame device.frames)

/-- Where the bytes of a whole frame start and stop in the store. -/
def frameRange (frame : Nat) : Except DeviceError (Nat × Nat) := do
  return device.geometry.span (← device.checkFrame frame)

def read (address : Nat) : Except DeviceError UInt8 := do
  return device.byte (← device.index address)

def write (address : Nat) (value : UInt8) : Except DeviceError Device := do
  let (frame, offset) := device.geometry.split (← device.index address)
  return { device with
    contents := device.contents.insert frame ((device.frameBytes frame).insert offset value) }

def readFrame (frame : Nat) : Except DeviceError FrameBytes := do
  let (start, _) ← device.frameRange frame
  return device.frameBytes (device.geometry.pageOf start)

def writeFrame (frame : Nat) (bytes : FrameBytes) : Except DeviceError Device := do
  let (start, _) ← device.frameRange frame
  return { device with contents := device.contents.insert (device.geometry.pageOf start) bytes }

/-- Hands out the frame that was released last. -/
def acquire? : Option (Nat × Device) :=
  device.pool.acquire?.map fun (frame, pool) => (frame, { device with pool })

/-- Hands out several frames, or none of them. -/
def acquireMany? (count : Nat) : Option (List Nat × Device) :=
  (device.pool.acquireMany? count).map fun (frames, pool) => (frames, { device with pool })

def release (frame : Nat) : Except DeviceError Device :=
  match device.pool.release frame with
  | .ok pool => .ok { device with pool }
  | .error .invalid => .error (.invalidFrame frame device.frames)
  | .error .alreadyFree => .error (.doubleFree frame)

def freeCount : Nat := device.pool.freeCount

/-- The bytes other than zero with their addresses, in ascending order. -/
def nonzero : List (Nat × UInt8) :=
  device.contents.toList.flatMap fun (frame, bytes) =>
    (bytes.toList.filter fun slot => slot.2 != 0).map fun (offset, value) =>
      (device.geometry.physical frame offset, value)

/-- How a device is described. -/
def description : String :=
  openRecord "PhysicalMemory"
    [("kind", device.kind.title), ("geometry", device.geometry.description),
      ("frames", toString device.frames)]

theorem read_eq (address : Nat) : device.read address =
    if address < device.size then .ok (device.byte address) else .error (.outOfBounds address device.size) := by
  unfold read index
  split <;> rfl

theorem write_eq (address : Nat) (value : UInt8) : device.write address value =
    if address < device.size then .ok { device with
      contents := device.contents.insert (device.geometry.pageOf address)
        ((device.frameBytes (device.geometry.pageOf address)).insert (device.geometry.offsetOf address) value) }
    else .error (.outOfBounds address device.size) := by
  unfold write index
  split <;> rfl

theorem frameRange_eq (frame : Nat) : device.frameRange frame =
    if frame < device.frames then .ok (device.geometry.span frame)
    else .error (.invalidFrame frame device.frames) := by
  unfold frameRange checkFrame
  split <;> rfl

theorem readFrame_eq (frame : Nat) : device.readFrame frame =
    if frame < device.frames then .ok (device.frameBytes frame)
    else .error (.invalidFrame frame device.frames) := by
  rw [readFrame, frameRange_eq]
  split
  · exact congrArg (Except.ok <| device.frameBytes ·) (device.geometry.pageOf_span frame)
  · rfl

theorem writeFrame_eq (frame : Nat) (bytes : FrameBytes) : device.writeFrame frame bytes =
    if frame < device.frames then .ok { device with contents := device.contents.insert frame bytes }
    else .error (.invalidFrame frame device.frames) := by
  rw [writeFrame, frameRange_eq]
  split
  · exact congrArg (fun place => Except.ok { device with contents := device.contents.insert place bytes })
      (device.geometry.pageOf_span frame)
  · rfl

end Device

/-- Copies a whole frame from one device to another, and gives the latter. -/
def Device.copyFrame (source : Device) (frame : Nat) (target : Device) (slot : Nat) :
    Except DeviceError Device := do
  let bytes ← source.readFrame frame
  target.writeFrame slot bytes

theorem Device.copyFrame_eq (source : Device) (frame : Nat) (target : Device) (slot : Nat) :
    source.copyFrame frame target slot =
      if frame < source.frames then target.writeFrame slot (source.frameBytes frame)
      else .error (.invalidFrame frame source.frames) := by
  rw [copyFrame, readFrame_eq]
  split <;> rfl

namespace Event

def deviceCreated (device : Device) : Event where
  severity := .debug
  source := .device
  message := s!"{device.kind.text} device: {device.size} bytes, {device.frames} frames of " ++
    s!"{device.geometry.pageSize} bytes"

def frameAcquired (kind : DeviceKind) (frame : Nat) : Event :=
  ⟨.trace, .device, s!"{kind.text} acquire {Address.frameTag frame}"⟩

def framesAcquired (kind : DeviceKind) (count : Nat) : Event :=
  ⟨.trace, .device, s!"{kind.text} acquire {count} frames"⟩

def frameReleased (kind : DeviceKind) (frame : Nat) : Event :=
  ⟨.trace, .device, s!"{kind.text} release {Address.frameTag frame}"⟩

/-- A dump tells how much is free, then every byte other than zero. -/
def deviceDump (device : Device) : List Event :=
  ⟨.debug, .device, s!"{device.kind.text} dump: {device.freeCount} of {device.frames} frames free"⟩ ::
    device.nonzero.map fun (address, value) =>
      ⟨.debug, .device, s!"  0x{Hexadecimal.lower 8 address}: 0x{Hexadecimal.lower 2 value.toNat}"⟩

end Event

end DemandPaging
