import DemandPaging.Proofs.MachineActions
import DemandPaging.Proofs.ValidConfigurations

/-! # One store of bytes

A device is read and written by bytes and by frames, and both ways lead to the same store: the byte at some
offset of a frame is the byte at its physical address. An action succeeds exactly if the address lies below the
size, or the frame below the number of whole frames; it then changes the bytes it is asked to change and no other
byte of any device, those behind the last whole frame included. An action that fails changes nothing. A frame may
be copied within one device, even onto itself.
-/

namespace DemandPaging

/-- The addresses of a frame. -/
def Geometry.addresses (geometry : Geometry) (frame : Nat) : Set Nat :=
  Set.Ico (geometry.span frame).1 (geometry.span frame).2

/-- A frame is found at its addresses, and all of these are in the store. -/
structure Device.Locates (device : Device) (frame : Nat) : Prop where
  range : device.frameRange frame = .ok (device.geometry.span frame)
  inside : (device.geometry.span frame).2 ≤ device.size

/-- Whether bytes are those of one frame. -/
def Geometry.OnePage (geometry : Geometry) (bytes : FrameBytes) : Prop := ∀ offset ∈ bytes, offset < geometry.pageSize

/-- Whether bytes kept for a frame are bytes of it and of the device. -/
def Device.Fits (device : Device) (frame : Nat) (bytes : FrameBytes) : Prop :=
  ∀ offset ∈ bytes, offset < device.geometry.pageSize ∧ frame * device.geometry.pageSize + offset < device.size

/-- Every byte that is kept lies on the device. -/
def Device.Contained (device : Device) : Prop := ∀ frame, device.Fits frame (device.frameBytes frame)

def DeviceSet.Contained (devices : DeviceSet) : Prop :=
  ∀ id device, devices.get? id = some device → device.Contained

namespace Machine

/-- The byte that is read at an address. -/
def Reads (machine : Machine) (id : DeviceId) (address : Nat) (byte : UInt8) : Prop :=
  read id address machine = .ok byte machine

/-- Nothing but some bytes of one device has changed. -/
structure Overwrites (machine : Machine) (id : DeviceId) (touched : Set Nat) (next : Machine) : Prop where
  inside : ∀ device, machine.devices.get? id = some device → touched ⊆ Set.Iio device.size
  kept : ∀ other address, ¬ (other = id ∧ address ∈ touched) →
    ∀ byte, next.Reads other address byte ↔ machine.Reads other address byte
  layout : next.devices.layout = machine.devices.layout
  contained : machine.devices.Contained → next.devices.Contained

/-- How the bytes and frames of two devices, or of one, are read and written. -/
structure ByteStore (machine : Machine) (source target : DeviceId) (origin destination : Device) : Prop where
  read : ∀ address, Ends (Machine.read source address)
    (fun _ next => address < origin.size ∧ next = machine)
    (fun reason next => origin.size ≤ address ∧ reason = .outOfBounds address origin.size ∧ next = machine) machine
  write : ∀ address value, Ends (Machine.write target address value)
    (fun _ next => address < destination.size ∧ next.Reads target address value ∧
      machine.Overwrites target {address} next)
    (fun reason next => destination.size ≤ address ∧ reason = .outOfBounds address destination.size ∧
      next = machine) machine
  readFrame : ∀ frame, Ends (Machine.readFrame source frame)
    (fun bytes next => frame < origin.size >>> origin.geometry.shift ∧ next = machine ∧ origin.Locates frame ∧
      ∀ offset < origin.geometry.pageSize,
        machine.Reads source (origin.geometry.physical frame offset) (bytes.getD offset 0))
    (fun reason next => origin.size >>> origin.geometry.shift ≤ frame ∧
      reason = .invalidFrame frame origin.frames ∧ next = machine) machine
  writeFrame : ∀ slot bytes, destination.geometry.OnePage bytes → Ends (Machine.writeFrame target slot bytes)
    (fun _ next => slot < destination.size >>> destination.geometry.shift ∧ destination.Locates slot ∧
      (∀ offset < destination.geometry.pageSize,
        next.Reads target (destination.geometry.physical slot offset) (bytes.getD offset 0)) ∧
      machine.Overwrites target (destination.geometry.addresses slot) next)
    (fun reason next => destination.size >>> destination.geometry.shift ≤ slot ∧
      reason = .invalidFrame slot destination.frames ∧ next = machine) machine
  copyFrame : ∀ frame slot, Ends (Machine.copyFrame source frame target slot)
    (fun _ next => frame < origin.size >>> origin.geometry.shift ∧
      slot < destination.size >>> destination.geometry.shift ∧ origin.Locates frame ∧ destination.Locates slot ∧
      (∃ bytes : Nat → UInt8, ∀ offset < destination.geometry.pageSize,
        machine.Reads source (origin.geometry.physical frame offset) (bytes offset) ∧
          next.Reads target (destination.geometry.physical slot offset) (bytes offset)) ∧
      machine.Overwrites target (destination.geometry.addresses slot) next)
    (fun reason next => (origin.size >>> origin.geometry.shift ≤ frame ∧
        reason = .invalidFrame frame origin.frames ∨
      destination.size >>> destination.geometry.shift ≤ slot ∧
        reason = .invalidFrame slot destination.frames) ∧ next = machine) machine

end Machine

/-- Fresh devices keep no byte yet. -/
theorem DeviceSet.contained_of_ofSizes {geometry : Geometry} {ramSize : Nat} {swapSizes : List Nat}
    {devices : DeviceSet} (made : ofSizes geometry ramSize swapSizes = .ok devices) : devices.Contained := by
  intro id device found frame offset member
  obtain ⟨kind, size, -, rfl⟩ := fresh_of_ofSizes made found
  simp [Device.frameBytes] at member

section Devices

variable {geometry : Geometry} {device : Device}

theorem Geometry.mem_addresses_iff {frame address : Nat} :
    address ∈ geometry.addresses frame ↔ geometry.pageOf address = frame := by
  have whole := geometry.page_add_offset address
  have within := geometry.offsetOf_lt address
  unfold addresses span
  constructor
  · rintro ⟨low, high⟩
    obtain ⟨offset, rfl⟩ := Nat.exists_eq_add_of_le low
    exact pageOf_add (by omega)
  · rintro rfl
    exact ⟨by omega, by omega⟩

theorem Device.locates {frame : Nat} (whole : frame < device.size >>> device.geometry.shift) :
    device.Locates frame := by
  refine ⟨(device.frameRange_eq frame).trans (if_pos whole), ?_⟩
  have last := Geometry.add_lt_of_lt_shiftRight whole (Nat.sub_one_lt_of_lt device.geometry.pageSize_pos)
  unfold Geometry.span
  omega

theorem Device.Locates.addresses_subset {frame : Nat} (located : device.Locates frame) :
    device.geometry.addresses frame ⊆ Set.Iio device.size := fun _ member => member.2.trans_le located.inside

theorem Device.read_eq_ok_iff {address : Nat} {byte : UInt8} :
    device.read address = .ok byte ↔ address < device.size ∧ device.byte address = byte := by
  rw [read_eq]
  split <;> simp [*]

/-- The byte at a place of a frame, by its physical address. -/
theorem Device.read_physical (device : Device) {frame offset : Nat}
    (whole : frame < device.size >>> device.geometry.shift) (word : device.size < Word.limit)
    (within : offset < device.geometry.pageSize) :
    device.read (device.geometry.physical frame offset) = .ok ((device.frameBytes frame).getD offset 0) := by
  have bound := Geometry.add_lt_of_lt_shiftRight whole within
  rw [Geometry.physical_eq (by omega) within, read_eq_ok_iff, byte, Geometry.pageOf_add within,
    Geometry.offsetOf_add within]
  exact ⟨bound, by rw [Std.ExtTreeMap.getD_eq_getD_getElem?]⟩

theorem Device.Fits.insert {frame offset : Nat} {bytes : FrameBytes} {value : UInt8} (fits : device.Fits frame bytes)
    (within : offset < device.geometry.pageSize) (bound : frame * device.geometry.pageSize + offset < device.size) :
    device.Fits frame (bytes.insert offset value) := by
  intro place member
  rcases Std.ExtTreeMap.mem_insert.mp member with new | old
  · rw [← Std.compare_eq_iff_eq.mp new]
    exact ⟨within, bound⟩
  · exact fits place old

theorem Device.fits_of_onePage {frame : Nat} {bytes : FrameBytes}
    (whole : frame < device.size >>> device.geometry.shift) (page : device.geometry.OnePage bytes) :
    device.Fits frame bytes := fun offset member =>
  ⟨page offset member, Geometry.add_lt_of_lt_shiftRight whole (page offset member)⟩

end Devices

namespace Machine

variable {machine : Machine} {id source target : DeviceId} {device origin destination : Device}

theorem reads_iff {address : Nat} {byte : UInt8} : machine.Reads id address byte ↔
    ∃ device, machine.devices.get? id = some device ∧ device.read address = .ok byte := by
  rw [Reads, run_eq_ok_iff_ends, Machine.read, ends_bind]
  simp only [← DeviceSet.get_eq_ok_iff]
  cases found : machine.devices.get id with
  | error reason =>
    rw [ends_device_of_error found]
    simp
  | ok device =>
    rw [ends_device (DeviceSet.get_eq_ok_iff.mp found), ends_settle]
    cases outcome : device.read address <;> simp [outcome]

section Store

variable (found : machine.devices.get? id = some device)
include found

theorem reads_iff_of_found {address : Nat} {byte : UInt8} :
    machine.Reads id address byte ↔ device.read address = .ok byte := by
  simp only [reads_iff, found, Option.some.injEq, exists_eq_left']

theorem reads_set {next : Device} {other : DeviceId} {address : Nat} {byte : UInt8} :
    Reads { machine with devices := machine.devices.set id next } other address byte ↔
      if other = id then next.read address = .ok byte else machine.Reads other address byte := by
  rw [reads_iff, DeviceSet.get?_set found]
  split
  · simp only [Option.some.injEq, exists_eq_left']
  · exact reads_iff.symm

/-- Storing the bytes of one frame touches the addresses where they differ from what was stored. -/
theorem overwrites_of_insert {frame : Nat} {bytes : FrameBytes} {touched : Set Nat}
    (inside : touched ⊆ Set.Iio device.size)
    (same : ∀ address ∉ touched, device.geometry.pageOf address = frame →
      bytes.getD (device.geometry.offsetOf address) 0 =
        (device.frameBytes frame).getD (device.geometry.offsetOf address) 0)
    (fits : machine.devices.Contained → device.Fits frame bytes) :
    machine.Overwrites id touched { machine with
      devices := machine.devices.set id { device with contents := device.contents.insert frame bytes } } where
  inside held present := by
    obtain rfl := Option.some.inj (found.symm.trans present)
    exact inside
  kept other address apart byte := by
    rw [reads_set found]
    split
    · next at_id =>
      subst at_id
      have outside : address ∉ touched := fun member => apart ⟨rfl, member⟩
      have kept : Device.byte { device with contents := device.contents.insert frame bytes } address =
          device.byte address := by
        rw [Device.byte, Device.frameBytes_insert, Device.byte]
        split
        · next here =>
          have stored := same address outside here
          rw [Std.ExtTreeMap.getD_eq_getD_getElem?, Std.ExtTreeMap.getD_eq_getD_getElem?] at stored
          rw [stored, here]
        · rfl
      rw [reads_iff_of_found found, Device.read_eq_ok_iff, Device.read_eq_ok_iff, kept]
    · rfl
  layout := DeviceSet.layout_set found rfl
  contained contained other held present := by
    rw [DeviceSet.get?_set found] at present
    split at present
    · obtain rfl := Option.some.inj present
      intro place
      rw [Device.frameBytes_insert]
      split
      · next here =>
        subst here
        exact fits contained
      · exact contained id device found place
    · exact contained other held present

/-- One byte is stored by storing its frame again, be it a whole one or not. -/
theorem overwrites_of_byte {address : Nat} (below : address < device.size) (value : UInt8) :
    machine.Overwrites id {address} { machine with
      devices := machine.devices.set id { device with
        contents := device.contents.insert (device.geometry.pageOf address)
          ((device.frameBytes (device.geometry.pageOf address)).insert (device.geometry.offsetOf address)
            value) } } := by
  refine overwrites_of_insert found (by simpa using below) ?same ?fits
  case same =>
    intro other apart here
    have offsets : device.geometry.offsetOf address ≠ device.geometry.offsetOf other := by
      intro equal
      rw [← device.geometry.page_add_offset other, here, ← equal, Geometry.page_add_offset] at apart
      exact apart rfl
    rw [Std.ExtTreeMap.getD_insert, if_neg (mt Std.compare_eq_iff_eq.mp offsets)]
  case fits =>
    intro contained
    refine (contained id device found _).insert (device.geometry.offsetOf_lt address) ?_
    rwa [Geometry.page_add_offset]

/-- Storing a frame, wherever its bytes come from. -/
theorem ends_storeWhole (word : device.size < Word.limit) (slot : Nat) (bytes : FrameBytes)
    (page : machine.devices.Contained → device.geometry.OnePage bytes) :
    Ends (settle (device.writeFrame slot bytes) >>= putDevice id)
      (fun _ next => slot < device.size >>> device.geometry.shift ∧ device.Locates slot ∧
        (∀ offset < device.geometry.pageSize,
          next.Reads id (device.geometry.physical slot offset) (bytes.getD offset 0)) ∧
        machine.Overwrites id (device.geometry.addresses slot) next)
      (fun reason next => device.size >>> device.geometry.shift ≤ slot ∧
        reason = .invalidFrame slot device.frames ∧ next = machine) machine := by
  rw [ends_bind, Device.writeFrame_eq, ends_settle_ite]
  refine ⟨fun whole => ends_putDevice.mpr ⟨whole, Device.locates whole, ?written, ?others⟩, fun beyond => ⟨Nat.not_lt.mp beyond, rfl, rfl⟩⟩
  case written =>
    intro offset within
    rw [reads_set found, if_pos rfl]
    have read := Device.read_physical { device with contents := device.contents.insert slot bytes } whole word within
    rwa [Device.frameBytes_insert, if_pos rfl] at read
  case others =>
    refine overwrites_of_insert found (Device.locates whole).addresses_subset ?_ fun contained => ?_
    · intro address outside here
      exact (outside (Geometry.mem_addresses_iff.mpr here)).elim
    · exact Device.fits_of_onePage whole (page contained)

end Store

/-- Bytes and frames of a device are two ways to one store, and a copy takes what is read to where it is read back. -/
theorem byteStore (originFound : machine.devices.get? source = some origin)
    (found : machine.devices.get? target = some destination) (geometry : origin.geometry = destination.geometry)
    (originWord : origin.size < Word.limit) (word : destination.size < Word.limit) :
    machine.ByteStore source target origin destination where
  read address := by
    rw [Machine.read, ends_bind, ends_device originFound, Device.read_eq, ends_settle_ite]
    exact ⟨fun below => ⟨below, rfl⟩, fun beyond => ⟨Nat.not_lt.mp beyond, rfl, rfl⟩⟩
  write address value := by
    rw [Machine.write, ends_bind, ends_device found, ends_bind, Device.write_eq, ends_settle_ite]
    refine ⟨fun below => ends_putDevice.mpr ⟨below, ?_, overwrites_of_byte found below value⟩,
      fun beyond => ⟨Nat.not_lt.mp beyond, rfl, rfl⟩⟩
    rw [reads_set found, if_pos rfl, Device.read_eq_ok_iff, Device.byte, Device.frameBytes_insert, if_pos rfl,
      Std.ExtTreeMap.getElem?_insert_self]
    exact ⟨below, rfl⟩
  readFrame frame := by
    rw [Machine.readFrame, ends_bind, ends_device originFound, Device.readFrame_eq, ends_settle_ite]
    refine ⟨fun whole => ⟨whole, rfl, Device.locates whole, fun offset within => ?_⟩,
      fun beyond => ⟨Nat.not_lt.mp beyond, rfl, rfl⟩⟩
    exact (reads_iff_of_found originFound).mpr (origin.read_physical whole originWord within)
  writeFrame slot bytes page := by
    rw [Machine.writeFrame, ends_bind, ends_device found]
    exact ends_storeWhole found word slot bytes fun _ => page
  copyFrame frame slot := by
    rw [Machine.copyFrame, ends_bind, ends_device originFound, ends_bind, ends_device found, Device.copyFrame_eq]
    split
    · next whole =>
      have page (contained : machine.devices.Contained) :
          destination.geometry.OnePage (origin.frameBytes frame) := fun offset member =>
        geometry ▸ (contained source origin originFound frame offset member).1
      refine (ends_storeWhole found word slot _ page).mono ?_ ?_
      · rintro - next ⟨slot_lt, located, written, others⟩
        refine ⟨whole, slot_lt, Device.locates whole, located, ⟨fun offset => (origin.frameBytes frame).getD offset 0,
          fun offset within => ⟨?_, written offset within⟩⟩, others⟩
        exact (reads_iff_of_found originFound).mpr (origin.read_physical whole originWord (geometry ▸ within))
      · rintro reason next ⟨beyond, refused, same⟩
        exact ⟨.inr ⟨beyond, refused⟩, same⟩
    · next beyond =>
      rw [ends_bind, ends_settle_error]
      exact ⟨.inl ⟨Nat.not_lt.mp beyond, rfl⟩, rfl⟩

/-- A fresh machine with some bytes behind the last whole frame of each device. -/
def ragged : Machine where
  devices := {
    geometry := .standard
    ram := { kind := .ram, geometry := .standard, size := 600 }
    swaps := [{ kind := .swap, geometry := .standard, size := 300 }] }

/-- Frames of one device and between two devices. -/
theorem byteStore_ragged : ragged.devices.Contained ∧
    ragged.ByteStore .ram .ram ragged.devices.ram ragged.devices.ram ∧
    ∃ swap, ragged.devices.get? (.swap 0) = some swap ∧ ragged.ByteStore .ram (.swap 0) ragged.devices.ram swap :=
  have made : DeviceSet.ofSizes .standard 600 [300] = .ok ragged.devices := rfl
  ⟨DeviceSet.contained_of_ofSizes made, byteStore rfl rfl rfl (by decide) (by decide),
    _, rfl, byteStore rfl rfl rfl (by decide) (by decide)⟩

end Machine

end DemandPaging
