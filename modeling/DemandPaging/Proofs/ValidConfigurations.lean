import DemandPaging.Config
import DemandPaging.Proofs.DeviceEffects
import Mathlib.Data.Set.Function
import Mathlib.Order.Interval.Set.Defs

/-! # What validation makes sure of

Settings that are accepted can be built, and no number of the devices outgrows the bits it is kept in: the frames of a
device are all of its bytes, each byte has one place in them, and every frame of RAM and every slot of a swap device
can be read back from the word of its entry. Settings that are rejected break the rule that is named. The rules are
about the numbers that are asked for; a geometry comes out of validation only.
-/

namespace DemandPaging

namespace Entry

/-- An entry says `state`, and so does the word it is kept as. -/
structure Encodes (entry : Entry) (state : EntryState) : Prop where
  state_eq : entry.state = state
  word : entry.toWord < Word.limit
  read_back : (ofWord entry.toWord).state = state

/-- The fields of an entry lie in its word one above the other. -/
theorem toWord_eq (entry : Entry) : entry.toWord =
    entry.frameOrSlot.toNat + entry.device.toNat * 2 ^ 40 + entry.reserved.toNat * 2 ^ 45 +
      entry.dirty.toNat * 2 ^ 61 + entry.swapped.toNat * 2 ^ 62 + entry.present.toNat * 2 ^ 63 := by
  unfold toWord
  simp only [Nat.shiftLeft_eq]

theorem testBit_of_div_mod {word index : Nat} {flag : Bool} (read : word / 2 ^ index % 2 = flag.toNat) :
    word.testBit index = flag := by
  rw [Nat.testBit_eq_decide_div_mod_eq, read]
  cases flag <;> rfl

theorem ofNat_of_mod {width word : Nat} {field : BitVec width} (read : word % 2 ^ width = field.toNat) :
    BitVec.ofNat width word = field :=
  BitVec.eq_of_toNat_eq ((BitVec.toNat_ofNat ..).trans read)

section Words

variable (entry : Entry)

theorem fields_lt : entry.frameOrSlot.toNat < 2 ^ 40 ∧ entry.device.toNat < 2 ^ 5 ∧
    entry.reserved.toNat < 2 ^ 16 ∧ entry.dirty.toNat < 2 ∧ entry.swapped.toNat < 2 ∧ entry.present.toNat < 2 :=
  ⟨entry.frameOrSlot.isLt, entry.device.isLt, entry.reserved.isLt, entry.dirty.toNat_lt, entry.swapped.toNat_lt,
    entry.present.toNat_lt⟩

theorem toWord_lt : entry.toWord < Word.limit := by
  have fields := entry.fields_lt
  rw [toWord_eq, Word.limit]
  omega

/-- No field runs into the next one, so each is read back as it was. -/
theorem ofWord_toWord : ofWord entry.toWord = entry := by
  have layers := entry.toWord_eq
  have fields := entry.fields_lt
  have frameOrSlot : BitVec.ofNat 40 entry.toWord = entry.frameOrSlot := ofNat_of_mod (by omega)
  have device : BitVec.ofNat 5 (entry.toWord >>> 40) = entry.device := ofNat_of_mod (by omega)
  have reserved : BitVec.ofNat 16 (entry.toWord >>> 45) = entry.reserved := ofNat_of_mod (by omega)
  have dirty : entry.toWord.testBit 61 = entry.dirty := testBit_of_div_mod (by omega)
  have swapped : entry.toWord.testBit 62 = entry.swapped := testBit_of_div_mod (by omega)
  have present : entry.toWord.testBit 63 = entry.present := testBit_of_div_mod (by omega)
  rw [ofWord, frameOrSlot, device, reserved, dirty, swapped, present]

end Words

theorem encodes_iff {entry : Entry} {state : EntryState} : entry.Encodes state ↔ entry.state = state where
  mp := Encodes.state_eq
  mpr said := ⟨said, entry.toWord_lt, by rw [ofWord_toWord, said]⟩

end Entry

/-- The frames of a device are all of its bytes, and each byte has one place in them. -/
structure Device.Framed (device : Device) : Prop where
  whole : device.frames * device.geometry.pageSize = device.size
  addresses : Set.BijOn (fun place : Nat × Nat => device.geometry.physical place.1 place.2)
    (Set.Iio device.frames ×ˢ Set.Iio device.geometry.pageSize) (Set.Iio device.size)

/-- Splitting an address undoes joining a place, as long as both stay in the word. -/
theorem Device.framed {device : Device} (aligned : device.size % device.geometry.pageSize = 0)
    (word : device.size < Word.limit) : device.Framed := by
  have whole : device.frames * device.geometry.pageSize = device.size := Geometry.pageOf_mul aligned
  have inside {frame offset : Nat} (frame_lt : frame < device.frames) (within : offset < device.geometry.pageSize) :
      frame * device.geometry.pageSize + offset < device.size := Geometry.add_lt_of_lt_shiftRight frame_lt within
  have inverse : Set.InvOn device.geometry.split (fun place : Nat × Nat => device.geometry.physical place.1 place.2)
      (Set.Iio device.frames ×ˢ Set.Iio device.geometry.pageSize) (Set.Iio device.size) := by
    constructor
    · rintro ⟨frame, offset⟩ ⟨frame_lt, within⟩
      have fits := inside frame_lt within
      exact Geometry.split_physical (by omega) within
    · exact fun address below => Geometry.physical_split (lt_trans below word)
  refine ⟨whole, inverse.bijOn ?_ ?_⟩
  · rintro ⟨frame, offset⟩ ⟨frame_lt, within⟩
    have fits := inside frame_lt within
    exact (Geometry.physical_eq (by omega) within).trans_lt fits
  · intro address below
    refine ⟨?_, Geometry.offsetOf_lt _ _⟩
    have start := (Geometry.pageOf_mul_le device.geometry address).trans_lt below
    rw [← whole] at start
    exact Nat.lt_of_mul_lt_mul_right start

theorem DeviceSet.ofSizes_eq_ok_iff {geometry : Geometry} {ramSize : Nat} {swapSizes : List Nat}
    {devices : DeviceSet} : ofSizes geometry ramSize swapSizes = .ok devices ↔
      swapSizes.length ≤ Parameters.swapDeviceCapacity ∧ devices = {
        geometry
        ram := { kind := .ram, geometry, size := ramSize }
        swaps := swapSizes.map fun size => { kind := .swap, geometry, size } } := by
  unfold ofSizes
  split
  · next many => simp [many]
  · next few =>
    rw [Nat.not_lt] at few
    simp [few, eq_comm]

/-- Each of the devices is fresh and has one of the sizes. -/
theorem DeviceSet.fresh_of_ofSizes {geometry : Geometry} {ramSize : Nat} {swapSizes : List Nat}
    {devices : DeviceSet} (made : ofSizes geometry ramSize swapSizes = .ok devices) {id : DeviceId}
    {device : Device} (found : devices.get? id = some device) :
    ∃ kind, ∃ size ∈ ramSize :: swapSizes, device = { kind, geometry, size } := by
  obtain ⟨-, rfl⟩ := ofSizes_eq_ok_iff.mp made
  cases id with
  | ram => exact ⟨.ram, ramSize, List.mem_cons_self .., (Option.some.inj found).symm⟩
  | swap index =>
    obtain ⟨size, member, rfl⟩ := List.mem_map.mp (List.mem_of_getElem? found)
    exact ⟨.swap, size, List.mem_cons_of_mem _ member, rfl⟩

/-- What breaks each rule. -/
inductive MemorySettings.Breaks (settings : MemorySettings) : ConfigRule → Prop where
  | pageShift (outside : settings.pageShift ∉ Set.Ico 1 32) : settings.Breaks .pageShift
  | swapDevices (many : Parameters.swapDeviceCapacity < settings.swapSizes.length) : settings.Breaks .swapDevices
  | deviceSize {size : Nat} (sized : size ∈ settings.ramSize :: settings.swapSizes)
      (ragged : size = 0 ∨ ¬ 2 ^ settings.pageShift ∣ size) : settings.Breaks .deviceSize
  | frameNumbers {size : Nat} (sized : size ∈ settings.ramSize :: settings.swapSizes)
      (many : 2 ^ 40 < size / 2 ^ settings.pageShift) : settings.Breaks .frameNumbers

/-- The devices are laid out as configured, and all their frames and slots can be addressed and kept in entries. -/
structure MemoryConfig.Suits (config : MemoryConfig) (devices : DeviceSet) : Prop where
  layout : devices.layout = ⟨config.geometry, config.ramSize, config.swapSizes, 0⟩
  uniform : ∀ id device, devices.get? id = some device → device.geometry = config.geometry
  framed : ∀ id device, devices.get? id = some device → device.Framed
  present : ∀ frame < devices.ram.frames, (Entry.ofFrame frame).Encodes (.present frame false)
  swapped : ∀ index device, devices.get? (.swap index) = some device →
    ∀ slot < device.frames, (Entry.ofSlot index slot).Encodes (.swapped index slot)

/-- What an answer of validation says of settings. -/
inductive MemorySettings.Validation (settings : MemorySettings) : Except MemoryError MemoryConfig → Prop where
  | accepted {config : MemoryConfig} (same : config.settings = settings) (devices : DeviceSet)
      (made : DeviceSet.ofSizes config.geometry config.ramSize config.swapSizes = .ok devices)
      (suited : config.Suits devices) (obeyed : ∀ rule, ¬ settings.Breaks rule) : settings.Validation (.ok config)
  | rejected {rule : ConfigRule} (broken : settings.Breaks rule) :
      settings.Validation (.error (.invalidConfig rule))

namespace MemoryConfig

variable {config : MemoryConfig}

/-- Pages are as large as was asked for. -/
theorem pageSize_eq (config : MemoryConfig) : config.geometry.pageSize = 2 ^ config.settings.pageShift :=
  config.geometry.pageSize_eq

theorem brokenBySize?_eq_none_iff {geometry : Geometry} {size : Nat} : brokenBySize? geometry size = none ↔
    size ≠ 0 ∧ size % geometry.pageSize = 0 ∧ size >>> geometry.shift ≤ Entry.maxFrame + 1 := by
  rw [← geometry.isAligned_iff]
  unfold brokenBySize?
  split
  · next ragged =>
    simp only [reduceCtorEq, false_iff]
    rintro ⟨filled, aligned, -⟩
    simp [filled, aligned] at ragged
  · next whole =>
    rw [not_or, Bool.not_eq_false] at whole
    split
    · next many => simp only [reduceCtorEq, false_iff, not_and, Nat.not_le, many, implies_true]
    · next few => simp only [true_iff]; exact ⟨whole.1, whole.2, Nat.not_lt.mp few⟩

theorem breaks_of_brokenBySize? {size : Nat} (sized : size ∈ config.ramSize :: config.swapSizes) {rule : ConfigRule}
    (broken : brokenBySize? config.geometry size = some rule) : config.settings.Breaks rule := by
  unfold brokenBySize? at broken
  split at broken
  · next ragged =>
    obtain rfl := Option.some.inj broken
    refine .deviceSize sized (ragged.imp_right fun unaligned whole => ?_)
    rw [← pageSize_eq] at whole
    rw [(config.geometry.isAligned_iff size).mpr (Nat.mod_eq_zero_of_dvd whole)] at unaligned
    contradiction
  · split at broken
    · next many =>
      obtain rfl := Option.some.inj broken
      rw [Geometry.shiftRight_eq, pageSize_eq] at many
      exact .frameNumbers sized many
    · contradiction

theorem broken?_eq_none_iff : config.broken? = none ↔
    config.swapSizes.length ≤ Parameters.swapDeviceCapacity ∧
      ∀ size ∈ config.ramSize :: config.swapSizes, brokenBySize? config.geometry size = none := by
  unfold broken?
  split
  · next many => simp only [reduceCtorEq, false_iff, not_and, Nat.not_le.mpr many, false_implies]
  · next few => rw [List.findSome?_eq_none_iff, and_iff_right (Nat.not_lt.mp few)]

theorem breaks_of_broken? {rule : ConfigRule} (broken : config.broken? = some rule) : config.settings.Breaks rule := by
  unfold broken? at broken
  split at broken
  · next many =>
    obtain rfl := Option.some.inj broken
    exact .swapDevices many
  · obtain ⟨size, sized, ruled⟩ := List.exists_of_findSome?_eq_some broken
    exact breaks_of_brokenBySize? sized ruled

theorem not_breaks_of_broken? (valid : config.broken? = none) (rule : ConfigRule) : ¬ config.settings.Breaks rule := by
  obtain ⟨few, sizes⟩ := broken?_eq_none_iff.mp valid
  rintro (outside | many | ⟨sized, ragged⟩ | ⟨sized, many⟩)
  · exact outside ⟨config.geometry.shift_pos, config.geometry.shift_lt⟩
  · exact Nat.not_le.mpr many few
  · obtain ⟨filled, aligned, -⟩ := brokenBySize?_eq_none_iff.mp (sizes _ sized)
    rw [pageSize_eq] at aligned
    exact ragged.elim filled (· (Nat.dvd_of_mod_eq_zero aligned))
  · obtain ⟨-, -, fits⟩ := brokenBySize?_eq_none_iff.mp (sizes _ sized)
    rw [Geometry.shiftRight_eq, pageSize_eq] at fits
    exact Nat.not_le.mpr many fits

/-- Once the pages have a geometry, only the devices can break a rule. -/
theorem validate_settings (config : MemoryConfig) : config.settings.validate =
    match config.broken? with
    | some rule => .error (.invalidConfig rule)
    | none => .ok config := by
  have made : Geometry.ofShift? config.settings.pageShift = some config.geometry :=
    Geometry.ofShift?_eq_some_iff.mpr rfl
  unfold MemorySettings.validate
  rw [made]
  rfl

theorem validate_eq_ok_iff : config.validate = .ok () ↔ config.broken? = none := by
  rw [validate, validate_settings]
  cases config.broken? <;> simp [Except.map]

/-- Devices of valid sizes are not refused. -/
theorem exists_devices_of_broken? (valid : config.broken? = none) :
    ∃ devices, DeviceSet.ofSizes config.geometry config.ramSize config.swapSizes = .ok devices :=
  ⟨_, DeviceSet.ofSizes_eq_ok_iff.mpr ⟨(broken?_eq_none_iff.mp valid).1, rfl⟩⟩

theorem suits_of_broken? (valid : config.broken? = none)
    (words : ∀ size ∈ config.ramSize :: config.swapSizes, size < Word.limit) {devices : DeviceSet}
    (made : DeviceSet.ofSizes config.geometry config.ramSize config.swapSizes = .ok devices) :
    config.Suits devices := by
  obtain ⟨few, sizes⟩ := broken?_eq_none_iff.mp valid
  have fresh {id : DeviceId} {device : Device} (found : devices.get? id = some device) :=
    DeviceSet.fresh_of_ofSizes made found
  -- the last frame of the largest device is the largest number that an entry holds
  have numbered {id : DeviceId} {device : Device} (found : devices.get? id = some device) {frame : Nat}
      (inside : frame < device.frames) : frame ≤ Entry.maxFrame := by
    obtain ⟨kind, size, sized, rfl⟩ := fresh found
    exact Nat.le_of_lt_succ (inside.trans_le (brokenBySize?_eq_none_iff.mp (sizes size sized)).2.2)
  constructor
  case layout =>
    obtain ⟨-, rfl⟩ := DeviceSet.ofSizes_eq_ok_iff.mp made
    simp [DeviceSet.layout, Function.comp_def]
  case uniform =>
    intro id device found
    obtain ⟨kind, size, -, rfl⟩ := fresh found
    rfl
  case framed =>
    intro id device found
    obtain ⟨kind, size, sized, rfl⟩ := fresh found
    exact Device.framed (brokenBySize?_eq_none_iff.mp (sizes size sized)).2.1 (words size sized)
  case present =>
    intro frame inside
    have found : devices.get? .ram = some devices.ram := rfl
    exact Entry.encodes_iff.mpr (Entry.state_ofFrame (numbered found inside))
  case swapped =>
    intro index device found slot inside
    have configured : index < config.swapSizes.length := by
      obtain ⟨-, rfl⟩ := DeviceSet.ofSizes_eq_ok_iff.mp made
      simpa using (List.getElem?_eq_some_iff.mp found).1
    have named : index ≤ Entry.maxDevice :=
      (configured.le.trans few).trans (by decide : Parameters.swapDeviceCapacity ≤ Entry.maxDevice)
    exact Entry.encodes_iff.mpr (Entry.state_ofSlot named (numbered found inside))

end MemoryConfig

namespace MemorySettings

theorem exists_config {settings : MemorySettings} (valid : settings.pageShift ∈ Set.Ico 1 32) :
    ∃ config : MemoryConfig, config.settings = settings :=
  ⟨settings.withGeometry ⟨settings.pageShift, valid.1, valid.2⟩, rfl⟩

/-- The page shift is looked at first. -/
theorem validate_of_pageShift {settings : MemorySettings} (outside : settings.pageShift ∉ Set.Ico 1 32) :
    settings.validate = .error (.invalidConfig .pageShift) := by
  unfold validate
  rw [Geometry.ofShift?_eq_none_iff.mpr outside]

/-- Validation accepts what obeys the rules, and what it accepts fits entries and words. -/
theorem validation (settings : MemorySettings)
    (words : ∀ size ∈ settings.ramSize :: settings.swapSizes, size < Word.limit) :
    settings.Validation settings.validate := by
  by_cases shift : settings.pageShift ∈ Set.Ico 1 32
  · obtain ⟨config, rfl⟩ := exists_config shift
    rw [config.validate_settings]
    cases answer : config.broken? with
    | none =>
      obtain ⟨devices, made⟩ := MemoryConfig.exists_devices_of_broken? answer
      exact .accepted rfl devices made (MemoryConfig.suits_of_broken? answer words made)
        (MemoryConfig.not_breaks_of_broken? answer)
    | some rule => exact .rejected (MemoryConfig.breaks_of_broken? answer)
  · rw [validate_of_pageShift shift]
    exact .rejected (.pageShift shift)

/-- Pages of 256 bytes and as many frames as entries can number. -/
def vast : MemorySettings := { ramSize := 2 ^ 48, swapSizes := [2 ^ 48, 256] }

theorem validation_vast : vast.validate = .ok (vast.withGeometry .standard) ∧
    vast.Validation (.ok (vast.withGeometry .standard)) :=
  have valid : vast.validate = .ok (vast.withGeometry .standard) := by decide +kernel
  ⟨valid, valid ▸ validation vast (by decide +kernel)⟩

/-- One frame more is one too many, and a page of one byte is no page. -/
example : validate { ramSize := 2 ^ 48 + 256 } = .error (.invalidConfig .frameNumbers) ∧
    validate { pageShift := 0 } = .error (.invalidConfig .pageShift) := by
  decide +kernel

end MemorySettings

end DemandPaging
