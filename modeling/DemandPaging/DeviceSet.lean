import DemandPaging.FrameSource

/-! # Device sets

One RAM device and a few swap devices, all of one geometry, are shared by every space. Evictions go
to the active swap device; the index of a swap device is what an entry records, so pages stay where
they were written when another device becomes active. A device set that lacks the device asked for
answers with the index it does not have.
-/

namespace DemandPaging

inductive DeviceId where
  | ram
  | swap (index : Nat)
deriving DecidableEq, Repr, Inhabited

structure DeviceSet where
  geometry : Geometry
  ram : Device
  swaps : List Device
  /-- Index of the swap device that receives evictions. -/
  active : Nat := 0

namespace DeviceSet

/-- Fresh devices of the given sizes, with the first swap device active. -/
def ofSizes (geometry : Geometry) (ramSize : Nat) (swapSizes : List Nat) :
    Except DeviceError DeviceSet :=
  if Parameters.swapDeviceCapacity < swapSizes.length then
    .error (.tooManySwapDevices swapSizes.length Parameters.swapDeviceCapacity)
  else
    .ok {
      geometry
      ram := { kind := .ram, geometry, size := ramSize }
      swaps := swapSizes.map fun size => { kind := .swap, geometry, size } }

def get? (devices : DeviceSet) : DeviceId → Option Device
  | .ram => some devices.ram
  | .swap index => devices.swaps[index]?

def get (devices : DeviceSet) : DeviceId → Except DeviceError Device
  | .ram => .ok devices.ram
  | .swap index =>
    match devices.swaps[index]? with
    | some device => .ok device
    | none => .error (.noSuchSwapDevice index)

/-- Replaces a device of the set. -/
def set (devices : DeviceSet) (id : DeviceId) (device : Device) : DeviceSet :=
  match id with
  | .ram => { devices with ram := device }
  | .swap index => { devices with swaps := devices.swaps.set index device }

/-- Sends further evictions to another swap device. -/
def activate (devices : DeviceSet) (index : Nat) : Except DeviceError DeviceSet :=
  if index < devices.swaps.length then .ok { devices with active := index }
  else .error (.noSuchSwapDevice index)

/-- Free frames of RAM and free slots of each swap device. -/
def freeCounts (devices : DeviceSet) : Nat × List Nat :=
  (devices.ram.freeCount, devices.swaps.map Device.freeCount)

theorem get_eq_ok_iff {devices : DeviceSet} {id : DeviceId} {device : Device} :
    devices.get id = .ok device ↔ devices.get? id = some device := by
  cases id with
  | ram => simp [get, get?]
  | swap index =>
    simp only [get, get?]
    cases devices.swaps[index]? <;> simp

theorem get?_set_ram (devices : DeviceSet) (device : Device) :
    (devices.set .ram device).get? .ram = some device := rfl

theorem get?_set_swap {devices : DeviceSet} {index : Nat} (configured : index < devices.swaps.length)
    (device : Device) : (devices.set (.swap index) device).get? (.swap index) = some device := by
  simp [set, get?, configured]

theorem get?_set_of_ne {devices : DeviceSet} {id other : DeviceId} (distinct : id ≠ other)
    (device : Device) : (devices.set id device).get? other = devices.get? other := by
  cases id <;> cases other <;> simp_all [set, get?]

end DeviceSet

def Event.deviceActivated (index : Nat) : Event :=
  ⟨.debug, .deviceSet, s!"active swap device is now {index}"⟩

end DemandPaging
