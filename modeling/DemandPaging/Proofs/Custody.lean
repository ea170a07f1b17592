import DemandPaging.Proofs.Accounts
import DemandPaging.Proofs.MachineActions
import DemandPaging.Proofs.TableLaws
import DemandPaging.Space.Teardown

/-! # The memory behind a space

The memory behind a space is the device set with the page table of the space; its queue, areas and
regions are not part of it. Each page has a home or none, and a content: the bytes of its home, or
zeros. Memory is in custody when the devices are sound, the table is well formed, and the accounts
of the homes in use are right with some homes reserved: those of other spaces, those that an operation
has in hand, and those that were forgotten. What an operation keeps is the layout of the devices, the
bytes of every reserved home, and the content of every page that it does not touch.
-/

namespace DemandPaging

/-- The devices and the page table of one space. -/
structure Memory (T : Type) where
  devices : DeviceSet
  table : T

def Stage.memory {T : Type} (stage : Stage T) : Memory T := ⟨stage.devices, stage.space.table⟩

/-- What a space has besides its table and its queue. -/
structure Space.SameOutline {T : Type} (before after : Space T) : Prop where
  populate : after.populate = before.populate
  areas : after.areas = before.areas
  regions : after.regions = before.regions

theorem Space.SameOutline.refl {T : Type} (space : Space T) : space.SameOutline space := ⟨rfl, rfl, rfl⟩

theorem Space.SameOutline.trans {T : Type} {first second third : Space T}
    (one : first.SameOutline second) (two : second.SameOutline third) : first.SameOutline third :=
  ⟨two.populate.trans one.populate, two.areas.trans one.areas, two.regions.trans one.regions⟩

namespace Memory

variable {T : Type} [PageTable T]

def lookup (memory : Memory T) (page : Nat) : Entry := PageTable.lookup memory.table page

def capacity (memory : Memory T) : Nat := PageTable.capacity memory.table

/-- Where the bytes of a page are kept, if they are kept anywhere. -/
def homeOf (memory : Memory T) (page : Nat) : Option Home := Space.home? (memory.lookup page)

/-- The bytes of a page. -/
def content (memory : Memory T) (page : Nat) : FrameBytes :=
  match memory.homeOf page with
  | some home => memory.devices.bytesAt home
  | none => ∅

/-- The entry of one page is replaced, and nothing else. -/
structure Writes [LawfulTable T] (before : Memory T) (page : Nat) (entry : Entry) (after : Memory T) :
    Prop where
  devices : after.devices = before.devices
  formed : LawfulTable.WellFormed before.table → LawfulTable.WellFormed after.table
  capacity : after.capacity = before.capacity
  lookup : ∀ other, after.lookup other = if other = page then entry else before.lookup other

/-- What is the same after an operation that touches the content of some pages. -/
structure Keeps (before : Memory T) (reserved : Set Home) (touched : Set Nat) (after : Memory T) : Prop where
  layout : after.devices.layout = before.devices.layout
  capacity : after.capacity = before.capacity
  reserved : ∀ home ∈ reserved, after.devices.bytesAt home = before.devices.bytesAt home
  content : ∀ page, page ∉ touched → after.content page = before.content page

structure Custody [LawfulTable T] (memory : Memory T) (reserved : Set Home) : Prop where
  sound : memory.devices.Sound
  formed : LawfulTable.WellFormed memory.table
  accounts : Accounts reserved memory.devices memory.homeOf

theorem homeOf_eq_ram_iff {memory : Memory T} {page frame : Nat} :
    memory.homeOf page = some (.ram, frame) ↔ (memory.lookup page).frame? = some frame := by
  unfold homeOf Space.home? Entry.frame?
  cases (memory.lookup page).state <;> simp

theorem homeOf_eq_swap_iff {memory : Memory T} {page device slot : Nat} :
    memory.homeOf page = some (.swap device, slot) ↔ (memory.lookup page).state = .swapped device slot := by
  unfold homeOf Space.home?
  cases (memory.lookup page).state <;> simp

theorem homeOf_eq_none_iff {memory : Memory T} {page : Nat} :
    memory.homeOf page = none ↔ (memory.lookup page).state = .absent := by
  unfold homeOf Space.home?
  cases (memory.lookup page).state <;> simp

theorem content_eq_bytesAt {memory : Memory T} {page : Nat} {home : Home}
    (named : memory.homeOf page = some home) : memory.content page = memory.devices.bytesAt home := by
  simp only [content, named]

theorem content_eq_empty {memory : Memory T} {page : Nat} (absent : memory.homeOf page = none) :
    memory.content page = ∅ := by
  simp only [content, absent]

end Memory

/-- Marking a page written does not move it. -/
theorem Space.home?_markDirty (entry : Entry) : Space.home? entry.markDirty = Space.home? entry := by
  obtain ⟨frameOrSlot, device, spare, dirty, swapped, present⟩ := entry
  cases swapped <;> cases present <;> rfl

namespace DeviceSet.Sound

variable {devices : DeviceSet}

theorem frame_le (sound : devices.Sound) {id : DeviceId} {frame : Nat}
    (held : devices.InUse (id, frame)) : frame ≤ Entry.maxFrame := by
  obtain ⟨device, found, fits⟩ := sound.lt_frames held
  have bound := sound.numbered id device found
  omega

theorem device_le (sound : devices.Sound) {device slot : Nat}
    (held : devices.InUse (.swap device, slot)) : device ≤ Entry.maxDevice := by
  obtain ⟨_, found, -⟩ := held
  have configured := (List.getElem?_eq_some_iff.mp found).1
  have few := sound.few
  have room : Parameters.swapDeviceCapacity ≤ Entry.maxDevice := by decide
  omega

theorem state_ofFrame (sound : devices.Sound) {frame : Nat} (held : devices.InUse (.ram, frame)) :
    (Entry.ofFrame frame).state = .present frame false :=
  Entry.state_ofFrame (sound.frame_le held)

theorem state_ofSlot (sound : devices.Sound) {device slot : Nat}
    (held : devices.InUse (.swap device, slot)) : (Entry.ofSlot device slot).state = .swapped device slot :=
  Entry.state_ofSlot (sound.device_le held) (sound.frame_le held)

theorem home?_ofFrame (sound : devices.Sound) {frame : Nat} (held : devices.InUse (.ram, frame)) :
    Space.home? (.ofFrame frame) = some (.ram, frame) := by
  simp only [Space.home?, sound.state_ofFrame held]

theorem home?_ofSlot (sound : devices.Sound) {device slot : Nat}
    (held : devices.InUse (.swap device, slot)) :
    Space.home? (.ofSlot device slot) = some (.swap device, slot) := by
  simp only [Space.home?, sound.state_ofSlot held]

end DeviceSet.Sound

namespace Memory

variable {T : Type} [PageTable T] {reserved : Set Home} {touched : Set Nat}
  {before after first second third memory : Memory T} {home : Home} {page : Nat} {entry : Entry}

namespace Writes

variable [LawfulTable T]

theorem homeOf (writes : before.Writes page entry after) (other : Nat) :
    after.homeOf other = if other = page then Space.home? entry else before.homeOf other := by
  rw [Memory.homeOf, writes.lookup]
  split <;> rfl

theorem content_other (writes : before.Writes page entry after) {other : Nat} (away : other ≠ page) :
    after.content other = before.content other := by
  have kept : after.homeOf other = before.homeOf other := by rw [writes.homeOf, if_neg away]
  simp only [content, kept, writes.devices]

/-- A write keeps everything but the content of its page. -/
theorem touches (writes : before.Writes page entry after) : before.Keeps reserved {page} after where
  layout := by rw [writes.devices]
  capacity := writes.capacity
  reserved home _ := by rw [writes.devices]
  content _ away := writes.content_other away

/-- A page that is entered with a home of the same bytes keeps its content. -/
theorem keeps (writes : before.Writes page entry after)
    (same : ∀ home, Space.home? entry = some home → before.devices.bytesAt home = before.content page)
    (blank : Space.home? entry = none → before.homeOf page = none) :
    before.Keeps reserved touched after where
  layout := by rw [writes.devices]
  capacity := writes.capacity
  reserved home _ := by rw [writes.devices]
  content other _ := by
    by_cases moved : other = page
    · subst moved
      have now : after.homeOf other = Space.home? entry := by rw [writes.homeOf, if_pos rfl]
      cases named : Space.home? entry with
      | some home => rw [content_eq_bytesAt (now.trans named), writes.devices, same home named]
      | none => rw [content_eq_empty (now.trans named), content_eq_empty (blank named)]
    · exact writes.content_other moved

/-- A page that is entered with the home that it has keeps its content. -/
theorem keeps_of_home (writes : before.Writes page entry after)
    (same : Space.home? entry = before.homeOf page) : before.Keeps reserved touched after :=
  writes.keeps (fun _ named => (content_eq_bytesAt (same.symm.trans named)).symm) same.symm.trans

end Writes

namespace Keeps

theorem refl (memory : Memory T) : memory.Keeps reserved touched memory :=
  ⟨rfl, rfl, fun _ _ => rfl, fun _ _ => rfl⟩

theorem trans (one : first.Keeps reserved touched second) (two : second.Keeps reserved touched third) :
    first.Keeps reserved touched third where
  layout := two.layout.trans one.layout
  capacity := two.capacity.trans one.capacity
  reserved home member := (two.reserved home member).trans (one.reserved home member)
  content page apart := (two.content page apart).trans (one.content page apart)

theorem mono {fewer : Set Home} {more : Set Nat} (keeps : before.Keeps reserved touched after)
    (subset : fewer ⊆ reserved) (superset : touched ⊆ more) : before.Keeps fewer more after where
  layout := keeps.layout
  capacity := keeps.capacity
  reserved home member := keeps.reserved home (subset member)
  content page apart := keeps.content page fun member => apart (superset member)

/-- Devices that have the same bytes everywhere. -/
theorem of_bytes (table : after.table = before.table)
    (layout : after.devices.layout = before.devices.layout)
    (bytes : ∀ home, after.devices.bytesAt home = before.devices.bytesAt home) :
    before.Keeps reserved touched after where
  layout := layout
  capacity := by rw [Memory.capacity, Memory.capacity, table]
  reserved home _ := bytes home
  content page _ := by simp only [Memory.content, homeOf, lookup, table, bytes]

end Keeps

namespace Custody

variable [LawfulTable T]

theorem inUse (custody : memory.Custody reserved) (named : memory.homeOf page = some home) :
    memory.devices.InUse home := custody.accounts.inUse named

theorem lt_capacity (custody : memory.Custody reserved) (named : memory.homeOf page = some home) :
    page < memory.capacity := by
  refine LawfulTable.lt_capacity_of_lookup custody.formed fun zero => ?_
  rw [homeOf, lookup, zero] at named
  contradiction

/-- Custody passes to other devices with the accounts that they have. -/
theorem of_accounts {others : Set Home} (custody : memory.Custody reserved) (sound : after.devices.Sound)
    (table : after.table = memory.table)
    (accounts : Accounts others after.devices memory.homeOf) : after.Custody others := by
  refine ⟨sound, by rw [table]; exact custody.formed, ?_⟩
  have same : after.homeOf = memory.homeOf := by
    funext page
    simp only [homeOf, lookup, table]
  rwa [same]

end Custody

end Memory

end DemandPaging
