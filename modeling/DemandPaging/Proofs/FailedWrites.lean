import DemandPaging.Proofs.RangeEviction
import DemandPaging.Proofs.Unguarded

/-! # What a failed write leaves behind

A write brings in the page of its byte, stores the byte in the frame and then marks the page dirty. If the page
cannot come in, nothing has changed. But the mark comes after the store, and nothing takes the store back: when
the guard refuses the mark, the write fails and its byte is written all the same. No other byte has changed in
either case.
-/

namespace DemandPaging

variable {T : Type} [PageTable T]

/-- The homes that are in use, but by no page of a space. -/
def Memory.elsewhere (memory : Memory T) : Set Home :=
  {home | memory.devices.InUse home ∧ ∀ page, memory.homeOf page ≠ some home}

/-- Pages that share no home are in the custody of their space, whoever has the other homes. -/
theorem Stage.Guarded.custody [LawfulTable T] {stage : Stage (GuardedTable T)} (guarded : stage.Guarded)
    (unshared : ∀ page other home, Space.home? (PageTable.lookup stage.space.table page) = some home →
      Space.home? (PageTable.lookup stage.space.table other) = some home → page = other) :
    stage.unguarded.memory.Custody stage.unguarded.memory.elsewhere where
  sound := guarded.sound
  formed := guarded.formed
  accounts := {
    inUse_iff home := by
      constructor
      · intro used
        by_cases named : ∃ page, stage.unguarded.memory.homeOf page = some home
        · exact .inr named
        · exact .inl ⟨used, not_exists.mp named⟩
      · rintro (⟨used, -⟩ | ⟨page, named⟩)
        · exact used
        · exact guarded.inUse page home named
    apart page home named away := away.2 page named
    unshared := unshared }

/-- What is as before has the bytes it had. -/
theorem Stage.Restored.byteAt {before after : Stage T} (restored : before.Restored after)
    (inUse : ∀ page home, Space.home? (PageTable.lookup before.space.table page) = some home →
      before.devices.InUse home) (address : Nat) : after.memory.byteAt address = before.memory.byteAt address := by
  have geometry : after.memory.devices.geometry = before.memory.devices.geometry :=
    congrArg DeviceSet.Layout.geometry restored.devices.layout
  have content (page : Nat) : after.memory.content page = before.memory.content page := by
    have same : after.memory.homeOf page = before.memory.homeOf page := congrArg Space.home? (restored.lookup page)
    cases named : before.memory.homeOf page with
    | none => rw [Memory.content_eq_empty named, Memory.content_eq_empty (same.trans named)]
    | some home =>
      rw [Memory.content_eq_bytesAt named, Memory.content_eq_bytesAt (same.trans named)]
      exact restored.devices.bytes home (inUse page home named)
  rw [Memory.byteAt, Memory.byteAt, geometry, content]

namespace Space

open Paging

/-- The byte at an address was replaced, but the guard refused to mark its page dirty. -/
structure Unmarked (before : Stage (GuardedTable T)) (address : Nat) (value : UInt8) (reason : MemoryError)
    (after : Stage (GuardedTable T)) : Prop where
  resident : (PageTable.lookup after.space.table (before.devices.geometry.pageOf address)).frame? ≠ none
  refused : before.space.table.refuses (before.devices.geometry.pageOf address)
    (PageTable.lookup after.space.table (before.devices.geometry.pageOf address)).markDirty = true
  reason : reason = .table (.outOfRange (before.devices.geometry.pageOf address)
    (before.devices.geometry.pageOf address))
  outline : before.space.SameOutline after.space
  byteAt : ∀ other, after.memory.byteAt other = if other = address then value else before.memory.byteAt other

variable [TotalTable T] {stage : Stage (GuardedTable T)} {reserved : Set Home} {id offset : Nat}

/-- A page in a frame can be marked dirty unless the guard refuses it. -/
theorem ends_markDirty_of_guard {page frame : Nat}
    (framed : (PageTable.lookup stage.space.table page).frame? = some frame)
    (fits : page < PageTable.capacity stage.space.table) :
    Ends (markDirty page) (fun _ _ => True)
      (fun reason after =>
        stage.space.table.refuses page (PageTable.lookup stage.space.table page).markDirty = true ∧
        reason = .table (.outOfRange page page) ∧ after = stage) stage := by
  unfold Ends
  rw [markDirty_of_frame framed]
  apply (ends_write_of_guard page _).mono
  · exact fun _ _ _ => trivial
  · rintro _ _ ⟨rfl, refused⟩
    obtain ⟨refused, reason⟩ := refused.resolve_right (Nat.not_le.mpr fits)
    exact ⟨refused, reason, rfl⟩

theorem ends_locate_of_guarded (guarded : stage.Guarded) (custody : stage.unguarded.memory.Custody reserved)
    (id offset : Nat) :
    Ends (locate id offset)
      (fun place after => ∃ address frame, stage.space.address? id offset = some address ∧
        place = (stage.devices.geometry.pageOf address,
          stage.devices.geometry.physical frame (stage.devices.geometry.offsetOf address)) ∧
        Resolved stage.unguarded reserved (stage.devices.geometry.pageOf address) frame after.unguarded ∧
        after.space.table.refuses = stage.space.table.refuses)
      (fun _ after => stage.Restored after) stage := by
  have restores : Ends (locate id offset) (fun _ _ => True) (fun _ after => stage.Restored after) stage := by
    simp only [locate, ends_bind, ends_space, ends_settle]
    refine ⟨fun region found => ?_, fun _ _ => .refl stage⟩
    simp only [ends_bind, ends_ite, ends_throw, ends_geometry]
    exact ⟨fun _ => .refl stage, fun _ => ends_resolve_of_guarded guarded _⟩
  apply ((unguards_locate id offset stage stage.unguarded ⟨rfl, rfl⟩).and restores).mono
  · rintro _ after ⟨⟨-, _, ran, rfl, guard⟩, -⟩
    obtain ⟨address, frame, named, rfl, resolved⟩ := (ends_locate custody id offset).of_ok ran
    exact ⟨address, frame, named, rfl, resolved, guard⟩
  · exact fun _ _ failed => failed.2

theorem ends_writeByte_of_guarded (guarded : stage.Guarded) (custody : stage.unguarded.memory.Custody reserved)
    (id offset : Nat) (value : UInt8) :
    Ends (writeByte id offset value) (fun _ _ => True)
      (fun reason after => stage.Restored after ∨ ∃ address, stage.space.address? id offset = some address ∧
        Unmarked stage address value reason after) stage := by
  rw [writeByte, ends_bind]
  apply (ends_locate_of_guarded guarded custody id offset).mono
  · rintro _ middle ⟨address, frame, named, rfl, resolved, guard⟩
    simp only [ends_bind, ends_onMachine]
    apply (ends_store_of_resolved resolved value).sure
    intro _ machine stored
    let storing : Stage (GuardedTable T) := { middle with toMachine := machine }
    have framed : (PageTable.lookup storing.space.table (stage.devices.geometry.pageOf address)).frame? = some frame :=
      Memory.homeOf_eq_ram_iff.mp resolved.homeOf
    have fits : _ < PageTable.capacity storing.space.table := resolved.custody.lt_capacity resolved.homeOf
    apply (ends_markDirty_of_guard framed fits).mono
    · exact fun _ _ _ => trivial
    · rintro _ _ ⟨refused, rfl, rfl⟩
      refine .inr ⟨address, named, ?_⟩
      constructor
      · rw [framed]
        exact Option.some_ne_none frame
      · exact guard ▸ refused
      · rfl
      · have outline := resolved.keeps.outline
        exact ⟨outline.populate, outline.areas, outline.regions⟩
      · exact stored.byteAt
  · exact fun _ _ restored => .inl restored

/-- A byte that can be read is the byte at the address that it has. -/
theorem byteAt_of_readByte (custody : stage.unguarded.memory.Custody reserved) {byte : UInt8}
    {after : Stage (GuardedTable T)} (read : readByte id offset stage = .ok byte after) :
    ∃ address, stage.space.address? id offset = some address ∧ stage.memory.byteAt address = byte := by
  obtain ⟨-, _, ran, -⟩ := (unguards_readByte id offset stage stage.unguarded ⟨rfl, rfl⟩).of_ok read
  obtain ⟨address, -, named, rfl, -⟩ := (ends_readByte custody id offset).of_ok ran
  exact ⟨address, named, rfl⟩

/-- After a write that failed everything is as before, or its byte was written and could not be marked dirty. So every
byte that could be read is as it was, except that the byte of the write may have its value. -/
theorem writeByte_stopped (guarded : stage.Guarded)
    (unshared : ∀ page other home, home? (PageTable.lookup stage.space.table page) = some home →
      home? (PageTable.lookup stage.space.table other) = some home → page = other)
    {value : UInt8} {reason : MemoryError} {after : Stage (GuardedTable T)}
    (failed : writeByte id offset value stage = .error reason after) :
    (stage.Restored after ∨ ∃ address, stage.space.address? id offset = some address ∧
      Unmarked stage address value reason after) ∧
    ∀ region place byte next, readByte region place stage = .ok byte next →
      ∃ address, stage.space.address? region place = some address ∧
        (after.memory.byteAt address = byte ∨
          stage.space.address? id offset = some address ∧ after.memory.byteAt address = value) := by
  have custody := guarded.custody unshared
  have left := (ends_writeByte_of_guarded guarded custody id offset value).of_error failed
  refine ⟨left, fun region place byte next read => ?_⟩
  obtain ⟨address, named, rfl⟩ := byteAt_of_readByte custody read
  refine ⟨address, named, ?_⟩
  rcases left with restored | ⟨written, target, unmarked⟩
  · exact .inl (restored.byteAt guarded.inUse address)
  · rw [unmarked.byteAt]
    split
    · next same => exact .inr ⟨same ▸ target, rfl⟩
    · exact .inl rfl

open Host in
private theorem writes_behind_guard :
    ∃ machine stored read, MemoryConfig.twofold.build = .ok machine ∧
      stored = (onStage (allocate 0 0 256) (behindGuard machine [⟨0, .dirty⟩])).2 ∧
      read = (onStage (readByte 0 0) stored).2 ∧
      (onStage (allocate 0 0 256) (behindGuard machine [⟨0, .dirty⟩])).1 = .ok 0 ∧
      stored.devices = machine.devices ∧ stored.space.table.inner = .ofPages 4 ∧ stored.space.resident.toList = [] ∧
      (onStage (readByte 0 0) stored).1 = .ok 0 ∧
      (onStage (writeByte 0 0 7) stored).1 = .error (.table (.outOfRange 0 0)) ∧
      (onStage (writeByte 0 0 7) read).1 = .error (.table (.outOfRange 0 0)) ∧
      (onStage (readByte 0 0) (onStage (writeByte 0 0 7) read).2).1 = .ok 7 :=
  ⟨_, _, _, rfl, rfl, rfl, by decide +kernel, rfl, rfl, rfl, by decide +kernel, by decide +kernel, by decide +kernel,
    by decide +kernel⟩

open Host in
/-- The page of the byte comes in and cannot be marked dirty. -/
theorem writeByte_stopped_of_guard :
    ∃ machine stored reason after, MemoryConfig.twofold.build = .ok machine ∧
      allocate 0 0 256 (behindGuard machine [⟨0, .dirty⟩]) = .ok 0 stored ∧
      writeByte 0 0 7 stored = .error reason after ∧
      (stored.Restored after ∨ ∃ address, stored.space.address? 0 0 = some address ∧
        Unmarked stored address 7 reason after) := by
  obtain ⟨machine, stored, read, built, rfl, -, answered, devices, table, empty, -, failed, -⟩ := writes_behind_guard
  have ran := ran_of_onStage_error failed
  refine ⟨machine, _, _, _, built, ran_of_onStage_ok answered, ran, ?_⟩
  generalize (onStage (allocate 0 0 256) (behindGuard machine [⟨0, .dirty⟩])).2 = stored at *
  have blank (page : Nat) : PageTable.lookup stored.space.table page = .zero := by
    show PageTable.lookup stored.space.table.inner page = _
    rw [table]
    exact FlatTable.lookup_ofPages 4 page
  have homeless (page home) : home? (PageTable.lookup stored.space.table page) ≠ some home := by
    rw [blank]
    nofun
  have guarded : stored.Guarded := by
    constructor
    · exact devices ▸ (custody_after built (by decide) []).sound
    · show LawfulTable.WellFormed stored.space.table.inner
      rw [table]
      exact FlatTable.wellFormed_ofPages 4
    · simp only [empty, List.not_mem_nil, false_implies, implies_true]
    · exact fun page home named => absurd named (homeless page home)
    · exact fun page written => absurd (blank page) written
  exact (writeByte_stopped guarded (fun page _ home named => absurd named (homeless page home)) ran).1

open Host in
/-- A write failed, and the byte that was read before it has changed. -/
theorem byte_changed_by_failed_write :
    ∃ machine stored read reason after last, MemoryConfig.twofold.build = .ok machine ∧
      allocate 0 0 256 (behindGuard machine [⟨0, .dirty⟩]) = .ok 0 stored ∧
      readByte 0 0 stored = .ok 0 read ∧ writeByte 0 0 7 read = .error reason after ∧
      readByte 0 0 after = .ok 7 last := by
  obtain ⟨machine, stored, read, built, rfl, rfl, answered, -, -, -, first, -, failed, second⟩ := writes_behind_guard
  exact ⟨machine, _, _, _, _, _, built, ran_of_onStage_ok answered, ran_of_onStage_ok first,
    ran_of_onStage_error failed, ran_of_onStage_ok second⟩

end Space

end DemandPaging
