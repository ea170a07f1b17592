import DemandPaging.Proofs.Disciplined
import DemandPaging.Proofs.Reservations
import Mathlib.Data.Set.Card

/-! # Spaces with a machine of their own

A space has the machine to itself when every home in use is that of one of its pages. Then a device has as
many free frames as pages are not kept on it, so how much is free follows from where pages are, whatever the
order in which frames were taken and given back. The calls of a program keep a space alone, tidy and laid out,
whether they succeed or fail, and they never take its first area away.
-/

namespace DemandPaging

variable {T : Type} [PageTable T]

/-- The device that keeps the bytes of a page. -/
def Memory.deviceOf (memory : Memory T) (page : Nat) : Option DeviceId := (memory.homeOf page).map Prod.fst

theorem Memory.resident_iff_deviceOf {memory : Memory T} {page : Nat} :
    memory.Resident page ↔ memory.deviceOf page = some .ram := by
  constructor
  · rintro ⟨frame, held⟩
    rw [deviceOf, held, Option.map_some]
  · intro on
    obtain ⟨⟨_, frame⟩, held, rfl⟩ := Option.map_eq_some_iff.mp on
    exact ⟨frame, held⟩

theorem Memory.deviceOf_eq_none_iff {memory : Memory T} {page : Nat} :
    memory.deviceOf page = none ↔ memory.homeOf page = none := Option.map_eq_none_iff

/-- Bytes of a device. -/
def DeviceSet.Layout.size? (layout : DeviceSet.Layout) : DeviceId → Option Nat
  | .ram => some layout.ramSize
  | .swap index => layout.swapSizes[index]?

theorem DeviceSet.size?_layout (devices : DeviceSet) (id : DeviceId) :
    devices.layout.size? id = (devices.get? id).map Device.size := by
  cases id with
  | ram => rfl
  | swap index => exact List.getElem?_map

/-- Sound devices of one layout have frames for each other. -/
theorem DeviceSet.Sound.mirrored {devices other : DeviceSet} (sound : devices.Sound) (also : other.Sound)
    (layout : other.layout = devices.layout) {id : DeviceId} {device : Device} (found : devices.get? id = some device) :
    ∃ mirror, other.get? id = some mirror ∧ mirror.frames = device.frames := by
  have sizes := other.size?_layout id
  rw [layout, size?_layout, found, Option.map_some, eq_comm, Option.map_eq_some_iff] at sizes
  obtain ⟨mirror, present, size⟩ := sizes
  refine ⟨mirror, present, ?_⟩
  rw [Device.frames, Device.frames, size, also.uniform id mirror present, sound.uniform id device found]
  exact congrArg (device.size >>> ·) (congrArg (Geometry.shift ∘ Layout.geometry) layout)

namespace Memory.Custody

variable [LawfulTable T] {memory : Memory T} (custody : memory.Custody ∅)
include custody

/-- A frame is in use for each page on its device, and for nothing else. -/
theorem ncard_inUse (id : DeviceId) :
    {frame | memory.devices.InUse (id, frame)}.ncard = {page | memory.deviceOf page = some id}.ncard := by
  let frameOf (page : Nat) : Nat := ((memory.homeOf page).map Prod.snd).getD 0
  have home {page : Nat} (on : memory.deviceOf page = some id) : memory.homeOf page = some (id, frameOf page) := by
    obtain ⟨⟨_, frame⟩, named, rfl⟩ := Option.map_eq_some_iff.mp on
    simp only [frameOf, named, Option.map_some, Option.getD_some]
  have image : {frame | memory.devices.InUse (id, frame)} = frameOf '' {page | memory.deviceOf page = some id} := by
    ext frame
    constructor
    · intro used
      obtain ⟨page, named⟩ := ((custody.accounts.inUse_iff _).mp used).resolve_left (Set.notMem_empty _)
      have on : memory.deviceOf page = some id := by rw [deviceOf, named, Option.map_some]
      exact ⟨page, on, (Prod.mk.inj (Option.some.inj ((home on).symm.trans named))).2⟩
    · rintro ⟨page, on, rfl⟩
      exact custody.inUse (home on)
  rw [image]
  refine Set.InjOn.ncard_image fun page on other also same => ?_
  exact custody.accounts.unshared page other _ (home on) (same ▸ home also)

/-- Every frame is free or keeps one page. -/
theorem length_freeOf_add {id : DeviceId} {device : Device} (found : memory.devices.get? id = some device) :
    (memory.devices.freeOf id).length + {page | memory.deviceOf page = some id}.ncard = device.frames := by
  have used : {frame | memory.devices.InUse (id, frame)} = {frame | frame ∈ device.pool.inUse} := by
    ext frame
    exact DeviceSet.inUse_iff found frame
  rw [← custody.ncard_inUse, used, DeviceSet.freeOf_eq found, FramePool.length_free]
  exact (custody.sound.pools id device found).freeCount_add_ncard

end Memory.Custody

/-- The space in front is the only one on a machine of a layout. -/
structure Stage.Solo [LawfulTable T] (layout : DeviceSet.Layout) (stage : Stage T) : Prop where
  layout : stage.devices.layout = layout
  custody : stage.memory.Custody ∅
  laid : stage.space.Laid stage.devices.geometry
  tidy : stage.Tidy
  based : 0 < stage.space.areas.length

namespace Space

/-- No move takes an area away. -/
theorem Move.length_pos {geometry : Geometry} {before after : Space T} (move : Move geometry before after)
    (based : 0 < before.areas.length) : 0 < after.areas.length := by
  cases move with
  | redrawn outline _ => rwa [outline.areas]
  | created _ _ _ => simp
  | grown _ _ _ _ => simpa [setArea] using based
  | carved _ _ _ _ => simpa [setArea, setRegion] using based
  | released _ => simpa [modifyArea, setRegion] using based

end Space

namespace Stage.Solo

variable [TotalTable T] {stage : Stage T} {layout : DeviceSet.Layout}

/-- A space without pages on a machine where nothing is in use. -/
theorem of_blank (shaped : stage.devices.layout = layout) (sound : stage.devices.Sound)
    (free : ∀ home, ¬ stage.devices.InUse home)
    (formed : LawfulTable.WellFormed stage.space.table) (blank : ∀ page, stage.memory.homeOf page = none)
    (laid : stage.space.Laid stage.devices.geometry) (resident : stage.space.resident.toList = [])
    (based : 0 < stage.space.areas.length) : stage.Solo layout where
  layout := shaped
  custody := by
    refine ⟨sound, formed, fun home => ?_, fun page home named => ?_, fun page _ home named _ => ?_⟩
    · refine iff_of_false (free home) ?_
      rintro (member | ⟨page, named⟩)
      · exact member
      · rw [blank] at named
        contradiction
    · rw [blank] at named
      contradiction
    · rw [blank] at named
      contradiction
  laid := laid
  tidy := .of_blank resident blank
  based := based

/-- Every call on pages of its areas leaves a space alone. -/
theorem ends_call (solo : stage.Solo layout) (call : Call) (inside : call.InArea stage.space stage.devices.geometry) :
    Ends call.perform (fun _ after => after.Solo layout) (fun _ after => after.Solo layout) stage := by
  have after {written : Option (Nat × UInt8)} {mapped : List Nat} {next : Stage T}
      (effect : Effect stage ∅ written mapped next) (tidy : next.Tidy) (moved : stage.Moved next) :
      next.Solo layout := by
    refine ⟨effect.layout.trans solo.layout, ?_, ?_, tidy, ?_⟩
    · have custody := effect.custody
      rwa [solo.tidy.homesOf_eq_empty effect.fresh, Set.empty_union] at custody
    · rw [moved.geometry]
      exact effect.laid
    · exact moved.moves.keeps (fun _ _ move => move.length_pos) solo.based
  have effects := Call.ends_perform solo.custody solo.laid call
  have turns := Call.ends_turned solo.custody solo.laid solo.tidy call inside
  refine ((effects.and turns).and (Call.ends_moved solo.custody.formed call)).mono ?_ ?_
  · rintro _ next ⟨⟨⟨_, effect⟩, _, turned, -⟩, moved⟩
    exact after effect turned.tidy moved
  · rintro _ next ⟨⟨effect, turned, -⟩, moved⟩
    exact after effect turned.tidy moved

/-- The first area is always there to be reported on. -/
theorem usage_zero (solo : stage.Solo layout) : ∃ usage, stage.space.usage 0 = .ok usage := by
  have found := List.getElem?_eq_getElem solo.based
  simp only [Space.usage, Space.area?, found]
  exact ⟨_, rfl⟩

end Stage.Solo

end DemandPaging
