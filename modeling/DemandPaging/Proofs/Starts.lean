import DemandPaging.Proofs.HostCustody
import DemandPaging.Proofs.ValidConfigurations

/-! # The start of a run

A run starts on the devices of a configuration that was accepted, before any space is there. These are
sound, and no frame of theirs is in use. So every host that a run can reach is in custody. The sizes of a
configuration are words, which matters for RAM alone, as bytes of RAM are addressed by words.
-/

namespace DemandPaging

variable {config : MemoryConfig} {machine : Machine}

/-- A build validates, and then makes the devices. -/
theorem MemoryConfig.ofSizes_of_build (built : config.build = .ok machine) : config.broken? = none ∧
    DeviceSet.ofSizes config.geometry config.ramSize config.swapSizes = .ok machine.devices := by
  rw [build, MemorySettings.build, validate_settings] at built
  cases valid : config.broken? with
  | some rule => simp [valid, bind, Except.bind] at built
  | none =>
    obtain ⟨devices, made⟩ := exists_devices_of_broken? valid
    simp only [valid, assemble, Machine.ofSizes, made, bind, Except.bind, pure, Except.pure,
      Except.ok.injEq] at built
    exact ⟨rfl, by rw [made, ← built]⟩

theorem MemoryConfig.devices_of_build (built : config.build = .ok machine) :
    config.swapSizes.length ≤ Parameters.swapDeviceCapacity ∧
      (∀ size ∈ config.ramSize :: config.swapSizes, brokenBySize? config.geometry size = none) ∧
      machine.devices = {
        geometry := config.geometry
        ram := { kind := .ram, geometry := config.geometry, size := config.ramSize }
        swaps := config.swapSizes.map fun size => { kind := .swap, geometry := config.geometry, size } } := by
  obtain ⟨valid, made⟩ := ofSizes_of_build built
  obtain ⟨few, sizes⟩ := broken?_eq_none_iff.mp valid
  exact ⟨few, sizes, (DeviceSet.ofSizes_eq_ok_iff.mp made).2⟩

/-- Nothing stands in the way of building what is valid. -/
theorem MemoryConfig.exists_build_of_validate (valid : config.validate = .ok ()) :
    ∃ machine, config.build = .ok machine := by
  have obeyed := validate_eq_ok_iff.mp valid
  obtain ⟨devices, made⟩ := exists_devices_of_broken? obeyed
  rw [build, MemorySettings.build, validate_settings, obeyed]
  simp only [assemble, Machine.ofSizes, made, bind, Except.bind, pure, Except.pure]
  exact ⟨_, rfl⟩

/-- Each device of an accepted configuration is fresh and has one of its sizes. -/
theorem MemoryConfig.fresh_of_build (built : config.build = .ok machine) {id : DeviceId} {device : Device}
    (found : machine.devices.get? id = some device) :
    ∃ kind, ∃ size ∈ config.ramSize :: config.swapSizes,
      device = { kind, geometry := config.geometry, size } :=
  DeviceSet.fresh_of_ofSizes (ofSizes_of_build built).2 found

theorem MemoryConfig.sound_of_build (built : config.build = .ok machine) (word : config.ramSize < Word.limit) :
    machine.devices.Sound := by
  obtain ⟨few, sizes, devices⟩ := devices_of_build built
  refine ⟨fun id device found => ?_, fun id device found => ?_, fun id device found => ?_, ?_, ?_⟩
  · obtain ⟨kind, size, -, rfl⟩ := fresh_of_build built found
    exact FramePool.sound_default
  · obtain ⟨kind, size, -, rfl⟩ := fresh_of_build built found
    rw [devices]
  · obtain ⟨kind, size, member, rfl⟩ := fresh_of_build built found
    exact (brokenBySize?_eq_none_iff.mp (sizes size member)).2.2
  · rw [devices]
    exact word
  · rw [devices, List.length_map]
    exact few

/-- Nothing is in use yet. -/
theorem MemoryConfig.not_inUse_of_build (built : config.build = .ok machine) (home : Home) :
    ¬ machine.devices.InUse home := by
  rintro ⟨device, found, held⟩
  obtain ⟨kind, size, -, rfl⟩ := fresh_of_build built found
  simp at held

/-- An accepted device has a frame. -/
theorem MemoryConfig.frames_pos_of_build (built : config.build = .ok machine) {id : DeviceId} {device : Device}
    (found : machine.devices.get? id = some device) : 0 < device.frames := by
  obtain ⟨kind, size, member, rfl⟩ := fresh_of_build built found
  obtain ⟨filled, aligned, -⟩ := brokenBySize?_eq_none_iff.mp ((devices_of_build built).2.1 size member)
  have fits := Nat.le_of_dvd (Nat.pos_of_ne_zero filled) (Nat.dvd_of_mod_eq_zero aligned)
  rw [Device.frames, Geometry.shiftRight_eq]
  exact Nat.div_pos fits config.geometry.pageSize_pos

/-- One frame of RAM and two swap slots. -/
def MemoryConfig.cramped : MemoryConfig := { ramSize := 256, swapSizes := [512] }

namespace Host

/-- A machine without spaces. -/
def start (machine : Machine) : Host StandardTable := { machine }

theorem space?_start (machine : Machine) (number : Nat) : (start machine).space? number = none := rfl

theorem custody_start (built : config.build = .ok machine) (word : config.ramSize < Word.limit) :
    (start machine).Custody where
  sound := MemoryConfig.sound_of_build built word
  formed _ _ found := by
    rw [space?_start] at found
    contradiction
  laid _ _ found := by
    rw [space?_start] at found
    contradiction
  inUse _ _ named := by
    rw [homeOf, space?_start] at named
    contradiction
  unshared _ _ _ named := by
    rw [homeOf, space?_start] at named
    contradiction

theorem custody_after (built : config.build = .ok machine) (word : config.ramSize < Word.limit)
    (run : List Operation) : ((start machine).after run).Custody :=
  after_induction (custody_start built word) (fun _ operation custody => custody.step operation) run

end Host

end DemandPaging
