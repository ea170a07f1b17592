import DemandPaging.Proofs.Custody

/-! # The moves of an operation

An operation on a space is put together from a few moves: it takes a frame or slot in hand, fills what
it has in hand, enters it into the table, and returns it. Every move keeps the memory in custody, with
what is in hand among the reserved homes, and none of them can be seen from outside. On a total table
only taking can fail, and it does so for want of free frames alone.
-/

namespace DemandPaging

/-- What is the same after an operation on a space, its queue and the entries of its table apart. -/
structure Stage.Keeps {T : Type} [PageTable T] (before : Stage T) (reserved : Set Home)
    (touched : Set Nat) (after : Stage T) : Prop where
  memory : before.memory.Keeps reserved touched after.memory
  outline : before.space.SameOutline after.space

namespace Stage.Keeps

variable {T : Type} [PageTable T] {reserved : Set Home} {touched : Set Nat}
  {first second third before after : Stage T}

theorem refl (stage : Stage T) : stage.Keeps reserved touched stage := ⟨.refl _, .refl _⟩

theorem trans (one : first.Keeps reserved touched second) (two : second.Keeps reserved touched third) :
    first.Keeps reserved touched third :=
  ⟨one.memory.trans two.memory, one.outline.trans two.outline⟩

theorem mono {fewer : Set Home} {more : Set Nat} (keeps : before.Keeps reserved touched after)
    (subset : fewer ⊆ reserved) (superset : touched ⊆ more) : before.Keeps fewer more after :=
  ⟨keeps.memory.mono subset superset, keeps.outline⟩

end Stage.Keeps

namespace Paging

variable {T : Type} [PageTable T]

/-- An action on the devices alone. -/
structure DeviceMove (before : Stage T) (reserved : Set Home) (after : Stage T) : Prop where
  space : after.space = before.space
  keeps : before.Keeps reserved ∅ after

/-- A frame or slot was taken in hand. -/
structure Taken [LawfulTable T] (before : Stage T) (reserved : Set Home) (id : DeviceId)
    (frames : List Nat) (after : Stage T) : Prop extends DeviceMove before reserved after where
  custody : after.memory.Custody (homesOn id frames ∪ reserved)
  takes : before.devices.Takes id frames after.devices
  apart : ∀ frame ∈ frames, (id, frame) ∉ reserved

/-- What was in hand has new bytes. -/
structure Filled [LawfulTable T] (before : Stage T) (reserved : Set Home) (home : Home)
    (bytes : FrameBytes) (after : Stage T) : Prop extends DeviceMove before reserved after where
  custody : after.memory.Custody (insert home reserved)
  bytes : after.devices.bytesAt home = bytes
  free : ∀ id, after.devices.freeOf id = before.devices.freeOf id

/-- What was in hand is free again. -/
structure Returned [LawfulTable T] (before : Stage T) (reserved : Set Home) (home : Home)
    (after : Stage T) : Prop extends DeviceMove before reserved after where
  custody : after.memory.Custody reserved
  returns : before.devices.Returns home after.devices

namespace DeviceMove

variable {before after : Stage T} {reserved : Set Home} (move : DeviceMove before reserved after)
include move

theorem table : after.memory.table = before.memory.table := by
  rw [Stage.memory, Stage.memory, move.space]

theorem lookup (page : Nat) : after.memory.lookup page = before.memory.lookup page := by
  rw [Memory.lookup, Memory.lookup, move.table]

theorem homeOf (page : Nat) : after.memory.homeOf page = before.memory.homeOf page := by
  rw [Memory.homeOf, Memory.homeOf, move.lookup]

end DeviceMove

variable [LawfulTable T] {stage : Stage T} {reserved : Set Home} {id : DeviceId} {home : Home}

theorem Taken.custody_insert {before after : Stage T} {frame : Nat}
    (taken : Taken before reserved id [frame] after) : after.memory.Custody (insert (id, frame) reserved) := by
  have custody := taken.custody
  rwa [homesOn_singleton, Set.singleton_union] at custody

omit [LawfulTable T] in
private theorem move_of_bytes {machine : Machine} (layout : machine.devices.layout = stage.devices.layout)
    (bytes : ∀ home, machine.devices.bytesAt home = stage.devices.bytesAt home) :
    DeviceMove stage reserved { stage with toMachine := machine } :=
  ⟨rfl, .of_bytes rfl layout bytes, .refl _⟩

private theorem taken_of_takes (custody : stage.memory.Custody reserved) {frames : List Nat}
    {machine : Machine} (takes : stage.devices.Takes id frames machine.devices) :
    Taken stage reserved id frames { stage with toMachine := machine } where
  toDeviceMove := move_of_bytes takes.layout takes.bytes
  custody := custody.of_accounts takes.sound rfl (custody.accounts.takes takes)
  takes := takes
  apart frame member reserved := takes.fresh frame member (custody.accounts.inUse_of_mem reserved)

private theorem filled_of_stores (custody : stage.memory.Custody (insert home reserved))
    (apart : home ∉ reserved) {bytes : FrameBytes} {machine : Machine}
    (stores : stage.devices.Stores home bytes machine.devices) :
    Filled stage reserved home bytes { stage with toMachine := machine } where
  space := rfl
  keeps := by
    refine ⟨⟨stores.layout, rfl, fun other member => ?_, fun page _ => ?_⟩, .refl _⟩
    · have elsewhere : other ≠ home := fun same => apart (same ▸ member)
      exact (stores.bytes other).trans (if_neg elsewhere)
    · have same : ({ stage with toMachine := machine } : Stage T).memory.homeOf page =
        stage.memory.homeOf page := rfl
      cases named : stage.memory.homeOf page with
      | none => exact (Memory.content_eq_empty (same.trans named)).trans (Memory.content_eq_empty named).symm
      | some other =>
        have elsewhere : other ≠ home := fun same =>
          custody.accounts.apart page other named (same ▸ Set.mem_insert home reserved)
        calc
          _ = machine.devices.bytesAt other := Memory.content_eq_bytesAt (same.trans named)
          _ = stage.devices.bytesAt other := (stores.bytes other).trans (if_neg elsewhere)
          _ = _ := (Memory.content_eq_bytesAt named).symm
  custody := custody.of_accounts stores.sound rfl (custody.accounts.stores stores)
  bytes := by rw [stores.bytes, if_pos rfl]
  free := stores.free

theorem ends_acquire (custody : stage.memory.Custody reserved) {device : Device}
    (found : stage.devices.get? id = some device) :
    Ends (onMachine (Machine.acquire id))
      (fun answer after =>
        (answer = none ∧ after = stage ∧ stage.devices.freeOf id = []) ∨
          ∃ frame, answer = some frame ∧ Taken stage reserved id [frame] after)
      (fun _ _ => False) stage := by
  rw [ends_onMachine]
  apply (Machine.ends_acquire custody.sound found).sure
  rintro answer machine (⟨none, rfl, free⟩ | ⟨frame, answered, takes⟩)
  · exact .inl ⟨none, rfl, free⟩
  · exact .inr ⟨frame, answered, taken_of_takes custody takes⟩

theorem ends_acquireMany (custody : stage.memory.Custody reserved) {device : Device}
    (found : stage.devices.get? id = some device) (count : Nat) :
    Ends (onMachine (Machine.acquireMany id count))
      (fun answer after =>
        (answer = .error (.insufficient count (stage.devices.freeOf id).length) ∧ after = stage ∧
            (stage.devices.freeOf id).length < count) ∨
          ∃ frames, answer = .ok frames ∧ frames.length = count ∧ Taken stage reserved id frames after)
      (fun _ _ => False) stage := by
  rw [ends_onMachine]
  apply (Machine.ends_acquireMany custody.sound found count).sure
  rintro answer machine (⟨answered, rfl, short⟩ | ⟨frames, answered, length, takes⟩)
  · exact .inl ⟨answered, rfl, short⟩
  · exact .inr ⟨frames, answered, length, taken_of_takes custody takes⟩

theorem ends_zeroFrame {frame : Nat} (custody : stage.memory.Custody (insert (.ram, frame) reserved))
    (apart : (.ram, frame) ∉ reserved) :
    Ends (onMachine (Machine.zeroFrame frame)) (fun _ after => Filled stage reserved (.ram, frame) ∅ after)
      (fun _ _ => False) stage := by
  have held := custody.accounts.inUse_of_mem (Set.mem_insert _ reserved)
  rw [ends_onMachine]
  exact (Machine.ends_writeFrame custody.sound held ∅).sure
    fun _ _ stores => filled_of_stores custody apart stores

theorem ends_copyFrame {source target : DeviceId} {frame slot : Nat}
    (custody : stage.memory.Custody (insert (target, slot) reserved)) (apart : (target, slot) ∉ reserved)
    (held : stage.devices.InUse (source, frame)) :
    Ends (onMachine (Machine.copyFrame source frame target slot))
      (fun _ after =>
        Filled stage reserved (target, slot) (stage.devices.bytesAt (source, frame)) after)
      (fun _ _ => False) stage := by
  have kept := custody.accounts.inUse_of_mem (Set.mem_insert _ reserved)
  rw [ends_onMachine]
  exact (Machine.ends_copyFrame custody.sound held kept).sure
    fun _ _ stores => filled_of_stores custody apart stores

theorem ends_release {frame : Nat} (custody : stage.memory.Custody (insert (id, frame) reserved))
    (apart : (id, frame) ∉ reserved) :
    Ends (onMachine (Machine.release id frame)) (fun _ after => Returned stage reserved (id, frame) after)
      (fun _ _ => False) stage := by
  have held := custody.accounts.inUse_of_mem (Set.mem_insert _ reserved)
  rw [ends_onMachine]
  apply (Machine.ends_release custody.sound held).sure
  intro _ machine returns
  refine ⟨move_of_bytes returns.layout returns.bytes, ?_, returns⟩
  exact custody.of_accounts returns.sound rfl (custody.accounts.returns apart returns)

/-- A table entry was replaced. -/
structure Entered (before : Stage T) (page : Nat) (entry : Entry) (after : Stage T) : Prop where
  writes : before.memory.Writes page entry after.memory
  outline : before.space.SameOutline after.space
  resident : after.space.resident = before.space.resident

/-- A write either replaces one entry or is refused by the table, and then nothing changed. -/
theorem ends_write (page : Nat) (entry : Entry) :
    Ends (write page entry) (fun _ after => Entered stage page entry after)
      (fun reason after => after = stage ∧ ∃ refusal, reason = .table refusal ∧
        PageTable.write stage.space.table page entry = .error refusal) stage := by
  simp only [write, ends_bind, ends_space]
  cases written : PageTable.write stage.space.table page entry with
  | error refusal => exact ⟨rfl, refusal, rfl, rfl⟩
  | ok table =>
    have entered (log : List Event) :
        Entered stage page entry ⟨{ stage.toMachine with log }, { stage.space with table }⟩ :=
      ⟨⟨rfl, fun formed => LawfulTable.wellFormed_write formed written, LawfulTable.capacity_write written,
        LawfulTable.lookup_write written⟩, ⟨rfl, rfl, rfl⟩, rfl⟩
    simp only [commit, ends_bind, ends_space, ends_modifySpace]
    cases PageTable.growth? stage.space.table table page with
    | none => exact entered stage.log
    | some event => exact entered (event :: stage.log)

theorem ends_write_of_lt {T : Type} [PageTable T] [TotalTable T] {stage : Stage T} {page : Nat}
    (fits : page < stage.memory.capacity) (entry : Entry) :
    Ends (write page entry) (fun _ after => Entered stage page entry after) (fun _ _ => False) stage := by
  refine (ends_write page entry).mono (fun _ _ entered => entered) ?_
  rintro _ _ ⟨-, refusal, -, refused⟩
  obtain ⟨next, written⟩ := TotalTable.write_of_lt stage.space.table entry fits
  rw [written] at refused
  contradiction

end Paging

namespace Memory.Custody

variable {T : Type} [PageTable T] [LawfulTable T] {before after : Stage T} {reserved : Set Home}
  {home : Home} {page : Nat} {entry : Entry}

/-- What was in hand is entered for a page, and the page's old home comes into the hand. -/
theorem enters (custody : before.memory.Custody (insert home reserved)) (apart : home ∉ reserved)
    (entered : Paging.Entered before page entry after) (named : Space.home? entry = some home) :
    after.memory.Custody ({old | before.memory.homeOf page = some old} ∪ reserved) where
  sound := by
    rw [entered.writes.devices]
    exact custody.sound
  formed := entered.writes.formed custody.formed
  accounts := by
    rw [entered.writes.devices]
    exact custody.accounts.enters apart fun other => by rw [entered.writes.homeOf, named]

theorem enters_of_some {old : Home} (custody : before.memory.Custody (insert home reserved))
    (apart : home ∉ reserved) (entered : Paging.Entered before page entry after)
    (named : Space.home? entry = some home) (kept : before.memory.homeOf page = some old) :
    after.memory.Custody (insert old reserved) := by
  have moved := custody.enters apart entered named
  simpa only [kept, Option.some.injEq, Set.ofPred_eq_eq_singleton', Set.singleton_union] using moved

/-- An entry is replaced by one with the same home. -/
theorem rewrites (custody : before.memory.Custody reserved) (entered : Paging.Entered before page entry after)
    (same : Space.home? entry = before.memory.homeOf page) : after.memory.Custody reserved where
  sound := by
    rw [entered.writes.devices]
    exact custody.sound
  formed := entered.writes.formed custody.formed
  accounts := by
    have kept : after.memory.homeOf = before.memory.homeOf := by
      funext other
      rw [entered.writes.homeOf, same]
      split
      · next at_page => rw [at_page]
      · rfl
    rw [entered.writes.devices, kept]
    exact custody.accounts

end Memory.Custody

end DemandPaging
