import DemandPaging.Machine
import DemandPaging.Proofs.GeometryLaws
import DemandPaging.Proofs.Outcome
import DemandPaging.Proofs.PoolLaws

/-! # What device actions change

A home is a frame of RAM or a slot of a swap device. Of a device set three things can change while
spaces run: which homes are in use, which frames are free and in which order, and the bytes of each
home. Every device action is described by its effect on them: it takes frames, returns one, or stores
the bytes of one home. All actions keep a device set sound, that is, its pools account for every
frame and its frames can be numbered by entries and addressed by words.
-/

namespace DemandPaging

/-- A frame of RAM or a slot of a swap device. -/
abbrev Home := DeviceId × Nat

theorem Device.frameBytes_insert (device : Device) (frame : Nat) (bytes : FrameBytes) (place : Nat) :
    Device.frameBytes { device with contents := device.contents.insert frame bytes } place =
      if place = frame then bytes else device.frameBytes place := by
  simp only [Device.frameBytes, Std.ExtTreeMap.getElem?_insert, Std.compare_eq_iff_eq, eq_comm (a := frame)]
  split <;> rfl

namespace DeviceSet

/-- What no operation of a space changes. -/
structure Layout where
  geometry : Geometry
  ramSize : Nat
  swapSizes : List Nat
  active : Nat

def layout (devices : DeviceSet) : Layout where
  geometry := devices.geometry
  ramSize := devices.ram.size
  swapSizes := devices.swaps.map Device.size
  active := devices.active

def InUse (devices : DeviceSet) (home : Home) : Prop :=
  ∃ device, devices.get? home.1 = some device ∧ home.2 ∈ device.pool.inUse

/-- The free frames of a device in the order in which they are handed out. -/
def freeOf (devices : DeviceSet) (id : DeviceId) : List Nat :=
  match devices.get? id with
  | some device => device.pool.free
  | none => []

/-- The bytes of a home. -/
def bytesAt (devices : DeviceSet) (home : Home) : FrameBytes :=
  match devices.get? home.1 with
  | some device => device.frameBytes home.2
  | none => ∅

structure Sound (devices : DeviceSet) : Prop where
  pools : ∀ id device, devices.get? id = some device → device.pool.Sound
  uniform : ∀ id device, devices.get? id = some device → device.geometry = devices.geometry
  numbered : ∀ id device, devices.get? id = some device → device.frames ≤ Entry.maxFrame + 1
  addressed : devices.ram.size < Word.limit
  few : devices.swaps.length ≤ Parameters.swapDeviceCapacity

/-- The frames `taken` of a device come into use. -/
structure Takes (devices : DeviceSet) (id : DeviceId) (taken : List Nat) (next : DeviceSet) : Prop where
  sound : next.Sound
  layout : next.layout = devices.layout
  free : devices.freeOf id = taken ++ next.freeOf id
  free_other : ∀ other, other ≠ id → next.freeOf other = devices.freeOf other
  inUse : ∀ home, next.InUse home ↔ (home.1 = id ∧ home.2 ∈ taken) ∨ devices.InUse home
  fresh : ∀ frame ∈ taken, ¬ devices.InUse (id, frame)
  nodup : taken.Nodup
  bytes : ∀ home, next.bytesAt home = devices.bytesAt home

/-- One home is free again. -/
structure Returns (devices : DeviceSet) (home : Home) (next : DeviceSet) : Prop where
  sound : next.Sound
  layout : next.layout = devices.layout
  free : next.freeOf home.1 = home.2 :: devices.freeOf home.1
  free_other : ∀ other, other ≠ home.1 → next.freeOf other = devices.freeOf other
  inUse : ∀ other, next.InUse other ↔ other ≠ home ∧ devices.InUse other
  bytes : ∀ other, next.bytesAt other = devices.bytesAt other

/-- One home has new bytes. -/
structure Stores (devices : DeviceSet) (home : Home) (bytes : FrameBytes) (next : DeviceSet) : Prop where
  sound : next.Sound
  layout : next.layout = devices.layout
  free : ∀ id, next.freeOf id = devices.freeOf id
  inUse : ∀ other, next.InUse other ↔ devices.InUse other
  bytes : ∀ other, next.bytesAt other = if other = home then bytes else devices.bytesAt other

variable {devices : DeviceSet} {id : DeviceId} {device next : Device}

section Views

variable (found : devices.get? id = some device)
include found

theorem inUse_iff (frame : Nat) : devices.InUse (id, frame) ↔ frame ∈ device.pool.inUse := by
  simp only [InUse, found, Option.some.injEq, exists_eq_left']

theorem freeOf_eq : devices.freeOf id = device.pool.free := by
  simp only [freeOf, found]

theorem bytesAt_eq (frame : Nat) : devices.bytesAt (id, frame) = device.frameBytes frame := by
  simp only [bytesAt, found]

theorem get?_set_self (next : Device) : (devices.set id next).get? id = some next := by
  cases id with
  | ram => exact get?_set_ram devices next
  | swap index => exact get?_set_swap (List.getElem?_eq_some_iff.mp found).1 next

theorem get?_set (next : Device) (other : DeviceId) :
    (devices.set id next).get? other = if other = id then some next else devices.get? other := by
  split
  · next same =>
    subst same
    exact get?_set_self found next
  · next distinct => exact get?_set_of_ne (Ne.symm distinct) next

theorem inUse_set (home : Home) : (devices.set id next).InUse home ↔
    if home.1 = id then home.2 ∈ next.pool.inUse else devices.InUse home := by
  simp only [InUse, get?_set found]
  split <;> simp

theorem freeOf_set_self : (devices.set id next).freeOf id = next.pool.free :=
  freeOf_eq (get?_set_self found next)

theorem bytesAt_set (home : Home) : (devices.set id next).bytesAt home =
    if home.1 = id then next.frameBytes home.2 else devices.bytesAt home := by
  simp only [bytesAt, get?_set found]
  by_cases same : home.1 = id
  · simp only [same, if_true]
  · simp only [same, if_false]

theorem layout_set (size : next.size = device.size) : (devices.set id next).layout = devices.layout := by
  cases id with
  | ram =>
    cases found
    simp only [layout, set, size]
  | swap index =>
    have kept : (devices.swaps.set index next).map Device.size = devices.swaps.map Device.size := by
      obtain ⟨bound, rfl⟩ := List.getElem?_eq_some_iff.mp found
      have mapped : index < (devices.swaps.map Device.size).length := by simpa using bound
      rw [List.map_set, size, ← List.getElem_map Device.size (h := mapped)]
      exact List.set_getElem_self mapped
    simp only [layout, set, kept]

theorem Sound.set (sound : devices.Sound) (size : next.size = device.size)
    (geometry : next.geometry = device.geometry) (pool : next.pool.Sound) : (devices.set id next).Sound := by
  have kept : (devices.set id next).geometry = devices.geometry := by cases id <;> rfl
  have frames : next.frames = device.frames := by rw [Device.frames, Device.frames, size, geometry]
  refine ⟨?_, ?_, ?_, ?_, ?_⟩
  · intro other present held
    rw [get?_set found] at held
    split at held
    · cases held
      exact pool
    · exact sound.pools other present held
  · intro other present held
    rw [get?_set found] at held
    rw [kept]
    split at held
    · cases held
      exact geometry.trans (sound.uniform id device found)
    · exact sound.uniform other present held
  · intro other present held
    rw [get?_set found] at held
    split at held
    · cases held
      exact frames ▸ sound.numbered id device found
    · exact sound.numbered other present held
  · have same := congrArg Layout.ramSize (layout_set found size)
    exact lt_of_eq_of_lt same sound.addressed
  · have same := congrArg (fun layout => layout.swapSizes.length) (layout_set found size)
    simp only [layout, List.length_map] at same
    exact le_of_eq_of_le same sound.few

end Views

theorem freeOf_set_of_ne {other : DeviceId} (distinct : other ≠ id) :
    (devices.set id next).freeOf other = devices.freeOf other := by
  rw [freeOf, freeOf, get?_set_of_ne (Ne.symm distinct)]

theorem takes_of_hands (sound : devices.Sound) (found : devices.get? id = some device)
    {taken : List Nat} {rest : FramePool (device.size >>> device.geometry.shift)}
    (hands : device.pool.Hands taken rest) :
    devices.Takes id taken (devices.set id { device with pool := rest }) where
  sound := sound.set found rfl rfl (hands.sound (sound.pools id device found))
  layout := layout_set found rfl
  free := by rw [freeOf_eq found, freeOf_set_self found, hands.free]
  free_other other distinct := freeOf_set_of_ne distinct
  inUse := by
    rintro ⟨other, frame⟩
    rw [inUse_set found]
    by_cases same : other = id
    · subst same
      rw [if_pos rfl, hands.inUse, inUse_iff found]
      simp only [true_and]
    · simp only [same, if_false, false_and, false_or]
  fresh frame member := by
    rw [inUse_iff found]
    exact (hands.fresh (sound.pools id device found) member).2
  nodup := hands.nodup (sound.pools id device found)
  bytes := by
    rintro ⟨other, frame⟩
    rw [bytesAt_set found]
    split
    · next same =>
      subst same
      exact (bytesAt_eq found frame).symm
    · rfl

theorem returns_of_release (sound : devices.Sound) (found : devices.get? id = some device)
    {frame : Nat} {rest : FramePool (device.size >>> device.geometry.shift)}
    (done : device.pool.release frame = .ok rest) :
    devices.Returns (id, frame) (devices.set id { device with pool := rest }) where
  sound := sound.set found rfl rfl ((sound.pools id device found).release done)
  layout := layout_set found rfl
  free := by rw [freeOf_eq found, freeOf_set_self found, (FramePool.release_eq_ok done).1]
  free_other other distinct := freeOf_set_of_ne distinct
  inUse := by
    rintro ⟨other, place⟩
    rw [inUse_set found]
    by_cases same : other = id
    · subst same
      rw [if_pos rfl, FramePool.mem_inUse_release done, inUse_iff found]
      simp only [ne_eq, Prod.mk.injEq, true_and]
    · simp only [same, if_false, ne_eq, Prod.mk.injEq, false_and, not_false_eq_true, true_and]
  bytes := by
    rintro ⟨other, place⟩
    rw [bytesAt_set found]
    split
    · next same =>
      subst same
      exact (bytesAt_eq found place).symm
    · rfl

theorem stores_of_insert (sound : devices.Sound) (found : devices.get? id = some device) (frame : Nat)
    (bytes : FrameBytes) : devices.Stores (id, frame) bytes
      (devices.set id { device with contents := device.contents.insert frame bytes }) where
  sound := sound.set found rfl rfl (sound.pools id device found)
  layout := layout_set found rfl
  free other := by
    by_cases same : other = id
    · subst same
      rw [freeOf_set_self found, freeOf_eq found]
    · exact freeOf_set_of_ne same
  inUse := by
    rintro ⟨other, place⟩
    rw [inUse_set found]
    split
    · next same =>
      subst same
      exact (inUse_iff found place).symm
    · rfl
  bytes := by
    rintro ⟨other, place⟩
    rw [bytesAt_set found]
    by_cases same : other = id
    · subst same
      rw [if_pos rfl, Device.frameBytes_insert, bytesAt_eq found]
      simp only [Prod.mk.injEq, true_and]
    · simp only [same, if_false, Prod.mk.injEq, false_and]

/-- A home in use is a frame of a configured device. -/
theorem Sound.lt_frames (sound : devices.Sound) {frame : Nat} (held : devices.InUse (id, frame)) :
    ∃ device, devices.get? id = some device ∧ frame < device.frames := by
  obtain ⟨device, found, member⟩ := held
  exact ⟨device, found, (sound.pools id device found).inUse_lt frame member⟩

end DeviceSet

end DemandPaging
