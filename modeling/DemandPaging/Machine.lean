import DemandPaging.DeviceSet

/-! # The machine

A machine is a device set together with the log of what happened to it, newest event first. An action
on the machine either answers or fails with a device error, and in both cases leaves a machine
behind: what an action did before it failed stays done. Each action takes the device it needs out of
the set, performs one operation on it and, if that succeeded, puts the result back and says so.
-/

namespace DemandPaging

structure Machine where
  devices : DeviceSet
  log : List Event := []

/-- Runs an action to its end and hands on its failure as an answer. -/
def attempt {ε σ α : Type} (action : EStateM ε σ α) : EStateM ε σ (Except ε α) := fun state =>
  match action state with
  | .ok answer state => .ok (.ok answer) state
  | .error reason state => .ok (.error reason) state

/-- Answers or fails at once. -/
def settle {ε σ α : Type} (outcome : Except ε α) : EStateM ε σ α := fun state =>
  match outcome with
  | .ok answer => .ok answer state
  | .error reason => .error reason state

abbrev DeviceAction := EStateM DeviceError Machine

namespace Machine

/-- A machine over fresh devices, whose creation is on the log. -/
def ofSizes (geometry : Geometry) (ramSize : Nat) (swapSizes : List Nat) :
    Except DeviceError Machine := do
  let devices ← DeviceSet.ofSizes geometry ramSize swapSizes
  return { devices, log := ((devices.ram :: devices.swaps).map Event.deviceCreated).reverse }

def emit (event : Event) : DeviceAction Unit :=
  modify fun machine => { machine with log := event :: machine.log }

def device (id : DeviceId) : DeviceAction Device := do
  settle ((← get).devices.get id)

def putDevice (id : DeviceId) (device : Device) : DeviceAction Unit :=
  modify fun machine => { machine with devices := machine.devices.set id device }

/-- Takes one free frame, if there is one. -/
def acquire (id : DeviceId) : DeviceAction (Option Nat) := do
  match (← device id).acquire? with
  | none => return none
  | some (frame, rest) =>
    putDevice id rest
    emit (.frameAcquired rest.kind frame)
    return some frame

/-- Takes several free frames at once, or none of them. -/
def acquireMany (id : DeviceId) (count : Nat) : DeviceAction (Except ShortageError (List Nat)) := do
  let source ← device id
  match source.acquireMany? count with
  | none => return .error (.insufficient count source.freeCount)
  | some (frames, rest) =>
    putDevice id rest
    emit (.framesAcquired rest.kind count)
    return .ok frames

def release (id : DeviceId) (frame : Nat) : DeviceAction Unit := do
  let rest ← settle ((← device id).release frame)
  putDevice id rest
  emit (.frameReleased rest.kind frame)

def read (id : DeviceId) (address : Nat) : DeviceAction UInt8 := do
  settle ((← device id).read address)

def write (id : DeviceId) (address : Nat) (value : UInt8) : DeviceAction Unit := do
  putDevice id (← settle ((← device id).write address value))

def readFrame (id : DeviceId) (frame : Nat) : DeviceAction FrameBytes := do
  settle ((← device id).readFrame frame)

def writeFrame (id : DeviceId) (frame : Nat) (bytes : FrameBytes) : DeviceAction Unit := do
  putDevice id (← settle ((← device id).writeFrame frame bytes))

/-- Copies a frame to a frame of the same or another device. -/
def copyFrame (source : DeviceId) (frame : Nat) (target : DeviceId) (slot : Nat) :
    DeviceAction Unit := do
  let origin ← device source
  let destination ← device target
  putDevice target (← settle (origin.copyFrame frame destination slot))

/-- Fills a RAM frame with zeros. -/
def zeroFrame (frame : Nat) : DeviceAction Unit :=
  writeFrame .ram frame ∅

/-- The index of the swap device that receives evictions, if it is configured. -/
def activeSwap : DeviceAction Nat := do
  let index := (← get).devices.active
  let _ ← device (.swap index)
  return index

def activate (index : Nat) : DeviceAction Unit := do
  let devices ← settle ((← get).devices.activate index)
  modify fun machine => { machine with devices }
  emit (.deviceActivated index)

/-- Writes the contents of a device to the log. -/
def dump (id : DeviceId) : DeviceAction Unit := do
  let events := Event.deviceDump (← device id)
  modify fun machine => { machine with log := events.reverse ++ machine.log }

/-- The log up to now, which is then empty. -/
def drained (machine : Machine) : List Event × Machine :=
  (machine.log, { machine with log := [] })

end Machine

end DemandPaging
