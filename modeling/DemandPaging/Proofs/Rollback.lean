import DemandPaging.Proofs.Custody
import DemandPaging.Proofs.GuardedTables

/-! # Failed faults are rolled back

A fault over a guarded table can fail at two writes: when its victim is marked swapped, and when its
own page is installed. By then it has taken a slot, a frame or both, and a frame in use may have the
bytes of another page. The fault undoes all of it, down to the order of the free frames: what it took
last it gives back first, the victim's bytes come back from the slot, and the guard cannot refuse the
entry that the victim had before. Nothing is asked of the other users of the devices, so the bytes
come back even in a frame that is shared.
-/

namespace DemandPaging

namespace DeviceSet

variable {devices first second third : DeviceSet} {home place : Home} {bytes : FrameBytes}

/-- Nothing that a user of the devices can see has changed. -/
structure Restores (devices next : DeviceSet) : Prop where
  layout : next.layout = devices.layout
  free : ∀ id, next.freeOf id = devices.freeOf id
  inUse : ∀ home, next.InUse home ↔ devices.InUse home
  bytes : ∀ home, devices.InUse home → next.bytesAt home = devices.bytesAt home

theorem Restores.refl (devices : DeviceSet) : devices.Restores devices :=
  ⟨rfl, fun _ => rfl, fun _ => Iff.rfl, fun _ _ => rfl⟩

/-- The first free home of a device is in hand, and every home that was in use has its bytes. -/
structure Borrows (devices : DeviceSet) (home : Home) (next : DeviceSet) : Prop where
  sound : next.Sound
  layout : next.layout = devices.layout
  free : devices.freeOf home.1 = home.2 :: next.freeOf home.1
  free_other : ∀ other, other ≠ home.1 → next.freeOf other = devices.freeOf other
  inUse : ∀ other, next.InUse other ↔ other = home ∨ devices.InUse other
  fresh : ¬ devices.InUse home
  bytes : ∀ other, devices.InUse other → next.bytesAt other = devices.bytesAt other

theorem Takes.borrows {id : DeviceId} {frame : Nat} (takes : devices.Takes id [frame] first) :
    devices.Borrows (id, frame) first where
  sound := takes.sound
  layout := takes.layout
  free := takes.free
  free_other := takes.free_other
  inUse other := by
    rw [takes.inUse, List.mem_singleton, Prod.ext_iff]
  fresh := takes.fresh frame (List.mem_singleton_self frame)
  bytes other _ := takes.bytes other

namespace Borrows

theorem held (borrows : devices.Borrows home first) : first.InUse home :=
  (borrows.inUse home).mpr (.inl rfl)

theorem inUse_of_inUse (borrows : devices.Borrows home first) (held : devices.InUse place) : first.InUse place :=
  (borrows.inUse place).mpr (.inr held)

/-- A borrowed home may get any bytes. -/
theorem stores (borrows : devices.Borrows home first) (stores : first.Stores home bytes second) :
    devices.Borrows home second where
  sound := stores.sound
  layout := stores.layout.trans borrows.layout
  free := by rw [borrows.free, stores.free]
  free_other other distinct := (stores.free other).trans (borrows.free_other other distinct)
  inUse other := (stores.inUse other).trans (borrows.inUse other)
  fresh := borrows.fresh
  bytes other held := by
    have distinct : other ≠ home := fun same => borrows.fresh (same ▸ held)
    rw [stores.bytes, if_neg distinct, borrows.bytes other held]

/-- A home that lost its bytes has them again. -/
theorem mends (borrows : devices.Borrows home first) (spoils : first.Stores place bytes second)
    (mends : second.Stores place (devices.bytesAt place) third) : devices.Borrows home third where
  sound := mends.sound
  layout := mends.layout.trans (spoils.layout.trans borrows.layout)
  free := by rw [borrows.free, mends.free, spoils.free]
  free_other other distinct := by
    rw [mends.free, spoils.free, borrows.free_other other distinct]
  inUse other := by rw [mends.inUse, spoils.inUse, borrows.inUse]
  fresh := borrows.fresh
  bytes other held := by
    rw [mends.bytes, spoils.bytes]
    split
    · next same => rw [same]
    · exact borrows.bytes other held

/-- A borrowed home that is given back was never missed. -/
theorem returns (borrows : devices.Borrows home first) (returns : first.Returns home second) :
    devices.Restores second where
  layout := returns.layout.trans borrows.layout
  free id := by
    by_cases same : id = home.1
    · rw [same, returns.free, borrows.free]
    · rw [returns.free_other id same, borrows.free_other id same]
  inUse other := by
    rw [returns.inUse, borrows.inUse]
    constructor
    · rintro ⟨distinct, same | held⟩
      · exact absurd same distinct
      · exact held
    · intro held
      exact ⟨fun same => borrows.fresh (same ▸ held), .inr held⟩
  bytes other held := (returns.bytes other).trans (borrows.bytes other held)

end Borrows

end DeviceSet

/-- Nothing that a space or its devices show has changed. -/
structure Stage.Restored {T : Type} [PageTable T] (before after : Stage T) : Prop where
  devices : before.devices.Restores after.devices
  resident : after.space.resident.toList = before.space.resident.toList
  lookup : ∀ page, PageTable.lookup after.space.table page = PageTable.lookup before.space.table page
  outline : before.space.SameOutline after.space

theorem Stage.Restored.refl {T : Type} [PageTable T] (stage : Stage T) : stage.Restored stage :=
  ⟨.refl _, rfl, fun _ => rfl, .refl _⟩

/-- The queue lists resident pages, what an entry names is in use, and the guard let every entry pass. -/
structure Stage.Guarded {T : Type} [PageTable T] [LawfulTable T] (stage : Stage (GuardedTable T)) : Prop where
  sound : stage.devices.Sound
  formed : LawfulTable.WellFormed stage.space.table
  queued : ∀ page ∈ stage.space.resident.toList, (PageTable.lookup stage.space.table page).frame? ≠ none
  inUse : ∀ page home, Space.home? (PageTable.lookup stage.space.table page) = some home → stage.devices.InUse home
  accepted : ∀ page, PageTable.lookup stage.space.table page ≠ .zero →
    stage.space.table.refuses page (PageTable.lookup stage.space.table page) = false

namespace Space

open Paging

variable {T : Type} [PageTable T] {before stage : Stage T} {page frame : Nat}

section Writes

/-- A page is written out to a slot in hand, or its entry is as before. -/
theorem ends_writeOut_of_inUse {device slot : Nat} (sound : stage.devices.Sound)
    (held : stage.devices.InUse (.ram, frame)) (kept : stage.devices.InUse (.swap device, slot)) :
    Ends (writeOut page frame device slot)
      (fun _ after =>
        stage.devices.Stores (.swap device, slot) (stage.devices.bytesAt (.ram, frame)) after.devices ∧
        ∃ table, PageTable.markSwapped stage.space.table page device slot = .ok table ∧
          after.space = { stage.space with table })
      (fun _ after =>
        stage.devices.Stores (.swap device, slot) (stage.devices.bytesAt (.ram, frame)) after.devices ∧
        after.space = stage.space) stage := by
  rw [writeOut, ends_bind, ends_onMachine]
  apply (Machine.ends_copyFrame sound held kept).sure
  intro _ machine stores
  simp only [markSwapped, ends_bind, ends_space]
  apply (ends_commit page _).mono
  · rintro _ after ⟨table, written, devices, space⟩
    exact ⟨devices ▸ stores, table, written, space⟩
  · rintro _ after ⟨rfl, -⟩
    exact ⟨stores, rfl⟩

end Writes

/-- A page was written to a slot that is in hand. -/
structure SwappedOut (before : Stage T) (page frame : Nat) (copy : SwapSlot) (after : Stage T) : Prop where
  borrows : before.devices.Borrows (.swap copy.device, copy.slot) after.devices
  copied : after.devices.bytesAt (.swap copy.device, copy.slot) = before.devices.bytesAt (.ram, frame)
  marked : PageTable.markSwapped before.space.table page copy.device copy.slot = .ok after.space.table
  space : after.space = { before.space with table := after.space.table }

/-- A slot is taken and keeps the page, or it is free again. -/
theorem ends_swapOut_of_inUse (page : Nat) (sound : stage.devices.Sound)
    (held : stage.devices.InUse (.ram, frame)) :
    Ends (swapOut page frame) (fun copy after => SwappedOut stage page frame copy after)
      (fun _ after => stage.devices.Restores after.devices ∧ after.space = stage.space) stage := by
  rw [swapOut, ends_bind, ends_onMachine, Machine.ends_activeSwap]
  cases found : stage.devices.get? (.swap stage.devices.active) with
  | none => exact ⟨.refl _, rfl⟩
  | some device =>
    rw [ends_bind, ends_onMachine]
    apply (Machine.ends_acquire sound found).sure
    rintro answer machine (⟨rfl, rfl, -⟩ | ⟨slot, rfl, takes⟩)
    · exact ⟨.refl _, rfl⟩
    · have borrows := takes.borrows
      simp only [ends_bind, ends_attempt]
      apply (ends_writeOut_of_inUse borrows.sound (borrows.inUse_of_inUse held) borrows.held).mono
      · rintro _ after ⟨stores, table, marked, space⟩
        have copied : after.devices.bytesAt (.swap stage.devices.active, slot) =
            stage.devices.bytesAt (.ram, frame) := by
          rw [stores.bytes, if_pos rfl]
          exact borrows.bytes _ held
        constructor
        · exact borrows.stores stores
        · exact copied
        · rw [space]
          exact marked
        · rw [space]
      · rintro reason failed ⟨stores, space⟩
        have kept := borrows.stores stores
        simp only [ends_bind, ends_reporting, ends_onMachine]
        apply (Machine.ends_release kept.sound kept.held).sure
        intro _ last returns
        exact ⟨kept.returns returns, space⟩

/-- The oldest page left its frame for a slot. -/
structure Displaced (before : Stage T) (eviction : Eviction) (after : Stage T) : Prop where
  borrows : before.devices.Borrows (.swap eviction.copy.device, eviction.copy.slot) after.devices
  copied : after.devices.bytesAt (.swap eviction.copy.device, eviction.copy.slot) =
    before.devices.bytesAt (.ram, eviction.frame)
  marked : PageTable.markSwapped before.space.table eviction.victim eviction.copy.device eviction.copy.slot =
    .ok after.space.table
  entry : eviction.entry = PageTable.lookup before.space.table eviction.victim
  frame : eviction.entry.frame? = some eviction.frame
  held : before.devices.InUse (.ram, eviction.frame)
  queue : before.space.resident.toList = eviction.victim :: after.space.resident.toList
  outline : before.space.SameOutline after.space

theorem ends_evictOldest_of_queued (sound : stage.devices.Sound)
    (queued : ∀ page ∈ stage.space.resident.toList, (PageTable.lookup stage.space.table page).frame? ≠ none)
    (inUse : ∀ page home, home? (PageTable.lookup stage.space.table page) = some home → stage.devices.InUse home) :
    Ends evictOldest (fun eviction after => Displaced stage eviction after)
      (fun _ after => stage.Restored after) stage := by
  rw [evictOldest, ends_bind, ends_space]
  cases oldest : stage.space.resident.takeOldest? with
  | none => exact .refl stage
  | some pair =>
    obtain ⟨victim, rest⟩ := pair
    have queue := PageQueue.takeOldest?_eq_some oldest
    simp only [ends_bind, ends_modifySpace, ends_lookup]
    cases held : (PageTable.lookup stage.space.table victim).frame? with
    | none =>
      have listed : victim ∈ stage.space.resident.toList := by
        rw [queue]
        exact List.mem_cons_self
      exact absurd held (queued victim listed)
    | some frame =>
      have named : stage.memory.homeOf victim = some (.ram, frame) := Memory.homeOf_eq_ram_iff.mpr held
      have used := inUse victim _ named
      let taken : Stage T := { stage with space := { stage.space with resident := rest } }
      have swaps := ends_swapOut_of_inUse victim (show taken.devices.Sound from sound) used
      simp only [ends_bind, ends_attempt]
      apply swaps.mono
      · intro copy after swapped
        simp only [ends_bind, ends_emit, ends_pure]
        constructor
        · exact swapped.borrows
        · exact swapped.copied
        · exact swapped.marked
        · rfl
        · exact held
        · exact used
        · rw [queue, swapped.space]
        · rw [swapped.space]
          exact ⟨rfl, rfl, rfl⟩
      · rintro reason failed ⟨devices, space⟩
        simp only [ends_bind, ends_modifySpace, ends_throw]
        constructor
        · exact devices
        · rw [space, PageQueue.toList_putBack, queue]
        · intro page
          rw [space]
        · rw [space]
          exact ⟨rfl, rfl, rfl⟩

/-- A frame is in hand: a free one, or that of the oldest page. -/
inductive FrameClaimed (before : Stage T) : Nat × Option Eviction → Stage T → Prop where
  | spare {frame : Nat} {after : Stage T} (borrows : before.devices.Borrows (.ram, frame) after.devices)
    (space : after.space = before.space) : FrameClaimed before (frame, none) after
  | displaced {eviction : Eviction} {after : Stage T} (displaced : Displaced before eviction after) :
    FrameClaimed before (eviction.frame, some eviction) after

namespace FrameClaimed

variable {claimed : Stage T} {eviction : Option Eviction} (claim : FrameClaimed before (frame, eviction) claimed)
include claim

theorem sound : claimed.devices.Sound := by
  cases claim with
  | spare borrows => exact borrows.sound
  | displaced displaced => exact displaced.borrows.sound

theorem inUse_of_inUse {home : Home} (held : before.devices.InUse home) : claimed.devices.InUse home := by
  cases claim with
  | spare borrows => exact borrows.inUse_of_inUse held
  | displaced displaced => exact displaced.borrows.inUse_of_inUse held

theorem held : claimed.devices.InUse (.ram, frame) := by
  cases claim with
  | spare borrows => exact borrows.held
  | displaced displaced => exact displaced.borrows.inUse_of_inUse displaced.held

end FrameClaimed

theorem ends_claimFrame_of_queued (sound : stage.devices.Sound)
    (queued : ∀ page ∈ stage.space.resident.toList, (PageTable.lookup stage.space.table page).frame? ≠ none)
    (inUse : ∀ page home, home? (PageTable.lookup stage.space.table page) = some home → stage.devices.InUse home) :
    Ends claimFrame (fun claim after => FrameClaimed stage claim after) (fun _ after => stage.Restored after)
      stage := by
  rw [claimFrame, ends_bind, ends_onMachine]
  apply (Machine.ends_acquire sound (show stage.devices.get? .ram = some _ from rfl)).sure
  rintro answer machine (⟨rfl, rfl, -⟩ | ⟨frame, rfl, takes⟩)
  · rw [ends_bind]
    apply (ends_evictOldest_of_queued sound queued inUse).answers
    intro eviction after displaced
    exact .displaced displaced
  · exact .spare takes.borrows rfl

omit [PageTable T] in
/-- The end of a fault cannot fail. -/
theorem ends_enlist_anyhow (page frame : Nat) (source : Option SwapSlot) (stage : Stage T) :
    Ends (enlist page frame source) (fun _ _ => True) (fun _ _ => False) stage := by
  cases source with
  | none => trivial
  | some copy =>
    simp only [enlist, ends_bind, ends_reporting, ends_emit, ends_modifySpace]
    exact Ends.anyhow

/-- The bytes of a page that comes in. -/
def SwapSlot.bytesOf (source : Option SwapSlot) (devices : DeviceSet) : FrameBytes :=
  match source with
  | none => ∅
  | some copy => devices.bytesAt (.swap copy.device, copy.slot)

/-- A frame has the bytes of a new page, whether or not it can be installed. -/
theorem ends_furnish_of_inUse {source : Option SwapSlot} (sound : stage.devices.Sound)
    (held : stage.devices.InUse (.ram, frame))
    (kept : ∀ copy, source = some copy → stage.devices.InUse (.swap copy.device, copy.slot)) :
    Ends (do fill source frame; install page frame)
      (fun _ after =>
        stage.devices.Stores (.ram, frame) (SwapSlot.bytesOf source stage.devices) after.devices ∧
        ∃ table, PageTable.install stage.space.table page frame = .ok table ∧
          after.space = { stage.space with table })
      (fun _ after =>
        stage.devices.Stores (.ram, frame) (SwapSlot.bytesOf source stage.devices) after.devices ∧
        after.space = stage.space) stage := by
  have filled : Ends (fill source frame)
      (fun _ after => stage.devices.Stores (.ram, frame) (SwapSlot.bytesOf source stage.devices) after.devices ∧
        after.space = stage.space) (fun _ _ => False) stage := by
    cases source with
    | none =>
      rw [fill, ends_onMachine]
      apply (Machine.ends_writeFrame sound held ∅).sure
      intro _ machine stores
      exact ⟨stores, rfl⟩
    | some copy =>
      rw [fill, ends_onMachine]
      apply (Machine.ends_copyFrame sound (kept copy rfl) held).sure
      intro _ machine stores
      exact ⟨stores, rfl⟩
  rw [ends_bind]
  apply filled.sure
  rintro _ middle ⟨stores, space⟩
  simp only [install, ends_bind, ends_space]
  rw [space]
  apply (ends_commit page _).mono
  · rintro _ after ⟨table, written, devices, installed⟩
    rw [space] at installed
    exact ⟨devices ▸ stores, table, written, installed⟩
  · rintro _ _ ⟨rfl, -⟩
    exact ⟨stores, space⟩

section Undoing

variable [TotalTable T] {origin claimed stage : Stage (GuardedTable T)} {eviction : Eviction} {bytes : FrameBytes}

/-- The guard let the victim's entry pass before, so it does again. -/
theorem Displaced.write_entry (guarded : origin.Guarded) (displaced : Displaced origin eviction claimed) :
    ∃ table, PageTable.write claimed.space.table eviction.victim eviction.entry = .ok table := by
  have marked := displaced.marked
  apply GuardedTable.write_of_accepted
  · rw [LawfulTable.capacity_write marked]
    exact LawfulTable.lt_capacity_of_write marked
  · rw [GuardedTable.refuses_write marked, displaced.entry]
    apply guarded.accepted
    exact Entry.ne_zero_of_frame? (displaced.entry ▸ displaced.frame)

theorem Displaced.lookup_of_write (displaced : Displaced origin eviction claimed) {table : GuardedTable T}
    (written : PageTable.write claimed.space.table eviction.victim eviction.entry = .ok table) (page : Nat) :
    PageTable.lookup table page = PageTable.lookup origin.space.table page := by
  rw [LawfulTable.lookup_write written, LawfulTable.lookup_write displaced.marked]
  split
  · next same => rw [same, displaced.entry]
  · rfl

/-- The victim gets its bytes back, then its entry, and then its place in the queue. -/
theorem ends_restoreVictim (guarded : origin.Guarded) (displaced : Displaced origin eviction claimed)
    (spoils : claimed.devices.Stores (.ram, eviction.frame) bytes stage.devices)
    (space : stage.space = claimed.space) :
    Ends (restoreVictim eviction) (fun _ after => origin.Restored after) (fun _ _ => False) stage := by
  have borrows := displaced.borrows
  have framed := (spoils.inUse _).mpr (borrows.inUse_of_inUse displaced.held)
  have kept := (spoils.inUse _).mpr borrows.held
  have copied : stage.devices.bytesAt (.swap eviction.copy.device, eviction.copy.slot) =
      origin.devices.bytesAt (.ram, eviction.frame) := by
    rw [spoils.bytes, if_neg nofun]
    exact displaced.copied
  simp only [restoreVictim, ends_bind, ends_attempt]
  rw [ends_onMachine]
  apply (Machine.ends_copyFrame spoils.sound kept framed).sure
  intro _ machine mends
  rw [copied] at mends
  have mended := borrows.mends spoils mends
  simp only [ends_bind, ends_reporting, write, ends_space, space]
  obtain ⟨table, written⟩ := displaced.write_entry guarded
  apply (ends_commit eviction.victim _).mono
  · rintro _ entered ⟨_, same, devices, space_now⟩
    obtain rfl := Except.ok.inj (written.symm.trans same)
    simp only [ends_onMachine]
    apply (Machine.ends_release (devices ▸ mended.sound) (devices ▸ mended.held)).sure
    intro _ last returns
    rw [ends_modifySpace]
    constructor
    · exact mended.returns (devices ▸ returns)
    · rw [space_now, PageQueue.toList_putBack, displaced.queue]
    · rw [space_now]
      exact displaced.lookup_of_write written
    · rw [space_now]
      exact ⟨displaced.outline.populate, displaced.outline.areas, displaced.outline.regions⟩
  · rintro _ _ ⟨-, refused⟩
    exact absurd written (refused table)

theorem ends_undoFault (guarded : origin.Guarded) {frame : Nat} {eviction : Option Eviction}
    (claim : FrameClaimed origin (frame, eviction) claimed)
    (spoils : claimed.devices.Stores (.ram, frame) bytes stage.devices) (space : stage.space = claimed.space) :
    Ends (undoFault frame eviction) (fun _ after => origin.Restored after) (fun _ _ => False) stage := by
  cases claim with
  | displaced displaced => exact ends_restoreVictim guarded displaced spoils space
  | spare borrows unchanged =>
    have kept := borrows.stores spoils
    rw [undoFault, ends_reporting, ends_onMachine]
    apply (Machine.ends_release kept.sound kept.held).sure
    intro _ last returns
    have same : stage.space = origin.space := space.trans unchanged
    constructor
    · exact kept.returns returns
    · rw [same]
    · intro page
      rw [same]
    · rw [same]
      exact .refl _

/-- A page that is not resident comes in, or nothing has changed. -/
theorem ends_faultIn_of_guarded (guarded : stage.Guarded) {source : Option SwapSlot}
    (kept : ∀ copy, source = some copy → stage.devices.InUse (.swap copy.device, copy.slot)) :
    Ends (faultIn page source) (fun _ _ => True) (fun _ after => stage.Restored after) stage := by
  simp only [faultIn, ends_bind, ends_space, ends_ite, ends_throw]
  constructor
  · intro _
    exact .refl stage
  · intro _
    apply (ends_claimFrame_of_queued guarded.sound guarded.queued guarded.inUse).answers
    rintro ⟨frame, eviction⟩ claimed claim
    rw [ends_bind, ends_attempt]
    apply (ends_furnish_of_inUse claim.sound claim.held fun copy same => claim.inUse_of_inUse (kept copy same)).mono
    · intro _ furnished _
      rw [ends_bind]
      exact (ends_enlist_anyhow page frame source furnished).sure fun _ _ _ => trivial
    · rintro reason failed ⟨spoils, space⟩
      let logged : Stage (GuardedTable T) := { failed with log := .faultFailed page reason :: failed.log }
      rw [ends_bind, ends_emit, ends_bind]
      apply (ends_undoFault guarded claim (show claimed.devices.Stores _ _ logged.devices from spoils) space).sure
      intro _ _ restored
      exact restored

theorem ends_resolve_of_guarded (guarded : stage.Guarded) (page : Nat) :
    Ends (resolve page) (fun _ _ => True) (fun _ after => stage.Restored after) stage := by
  simp only [resolve, ends_bind, ends_lookup]
  cases state : (PageTable.lookup stage.space.table page).state with
  | present frame dirty => trivial
  | absent =>
    apply ends_faultIn_of_guarded guarded
    intro copy same
    contradiction
  | swapped device slot =>
    apply ends_faultIn_of_guarded guarded
    rintro _ ⟨⟩
    have named : stage.memory.homeOf page = some (.swap device, slot) := Memory.homeOf_eq_swap_iff.mpr state
    exact guarded.inUse page _ named

/-- A fault over a guarded table that fails leaves everything as it was. -/
theorem restored_of_resolve_error (guarded : stage.Guarded) {reason : MemoryError} {after : Stage (GuardedTable T)}
    (failed : resolve page stage = .error reason after) : stage.Restored after :=
  (ends_resolve_of_guarded guarded page).of_error failed

/-- The one frame of RAM keeps a written page, and page 5 cannot be mapped to a frame. -/
def unmappable : Stage (GuardedTable FlatTable) where
  devices := {
    geometry := .standard
    ram := {
      kind := .ram
      geometry := .standard
      size := 256
      pool := { fresh := 1, inUse := Std.ExtTreeSet.empty.insert 0 }
      contents := Std.ExtTreeMap.empty.insert 0 (Std.ExtTreeMap.empty.insert 9 0xAB) }
    swaps := [{ kind := .swap, geometry := .standard, size := 1024 }] }
  space := {
    ofTable .onDemand {
      inner := { pages := 8, written := Std.ExtTreeMap.empty.insert 0 (Entry.ofFrame 0).markDirty }
      refuses := Refusal.anyOf [⟨5, .present⟩] } with
    resident := { older := [0] } }

theorem lookup_unmappable (page : Nat) : PageTable.lookup unmappable.space.table page =
    if page = 0 then (Entry.ofFrame 0).markDirty else Entry.zero := by
  show (Std.ExtTreeMap.empty.insert 0 (Entry.ofFrame 0).markDirty)[page]?.getD Entry.zero = _
  simp only [Std.ExtTreeMap.getElem?_insert, Std.compare_eq_iff_eq, eq_comm (a := 0)]
  split <;> rfl

theorem mem_devices_unmappable {id : DeviceId} {device : Device} (found : unmappable.devices.get? id = some device) :
    device = unmappable.devices.ram ∨ device = { kind := .swap, geometry := .standard, size := 1024 } := by
  cases id with
  | ram => exact .inl (Option.some.inj found).symm
  | swap index => exact .inr (List.mem_singleton.mp (List.mem_of_getElem? found))

theorem sound_unmappable : unmappable.devices.Sound where
  pools id device found := by
    rcases mem_devices_unmappable found with rfl | rfl
    · have used (frame : Nat) : frame ∈ unmappable.devices.ram.pool.inUse ↔ frame = 0 := by
        simp [unmappable, eq_comm (a := 0)]
      have free : unmappable.devices.ram.pool.free = [] := rfl
      have frames : unmappable.devices.ram.size >>> unmappable.devices.ram.geometry.shift = 1 := rfl
      constructor
      · rw [free]
        exact List.nodup_nil
      · intro frame
        rw [free, used, frames]
        simp
      · intro frame held
        rw [used] at held
        omega
    · exact FramePool.sound_default
  uniform id device found := by
    rcases mem_devices_unmappable found with rfl | rfl <;> rfl
  numbered id device found := by
    rcases mem_devices_unmappable found with rfl | rfl <;> decide
  addressed := by decide
  few := by decide

theorem guarded_unmappable : unmappable.Guarded where
  sound := sound_unmappable
  formed page entry written := by
    change (Std.ExtTreeMap.empty.insert 0 (Entry.ofFrame 0).markDirty)[page]? = some entry at written
    simp only [Std.ExtTreeMap.getElem?_insert, Std.compare_eq_iff_eq] at written
    split at written
    · next same =>
      subst same
      decide
    · contradiction
  queued page member := by
    obtain rfl := List.mem_singleton.mp member
    decide +kernel
  inUse page home named := by
    rw [lookup_unmappable] at named
    split at named
    · cases named
      exact ⟨_, rfl, Std.ExtTreeSet.mem_insert_self⟩
    · contradiction
  accepted page written := by
    rw [lookup_unmappable] at written ⊢
    split at written
    · next same =>
      subst same
      decide +kernel
    · exact absurd rfl written

theorem restored_of_resolve_error_of_unmappable : ∃ reason after,
    resolve 5 unmappable = .error reason after ∧ unmappable.Restored after := by
  cases ran : resolve 5 unmappable with
  | error reason after => exact ⟨reason, after, rfl, restored_of_resolve_error guarded_unmappable ran⟩
  | ok frame after =>
    have failed : (match resolve 5 unmappable with | .ok _ _ => true | .error _ _ => false) = false := by decide +kernel
    rw [ran] at failed
    contradiction

end Undoing

end Space

end DemandPaging
