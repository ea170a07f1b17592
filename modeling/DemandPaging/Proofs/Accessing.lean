import DemandPaging.Proofs.Faulting
import DemandPaging.Space.Access

/-! # Bytes of a space

A space has a byte at every virtual address, which is zero where nothing is mapped. Reading through a
live region answers the byte at the address that the region and the offset name, and writing replaces
that byte and no other. Both fail only if they name no address or if the fault on its page fails.
Stamping a pattern changes no byte, no home and not the queue.
-/

namespace DemandPaging

variable {T : Type} [PageTable T]

/-- The byte at a virtual address. -/
def Memory.byteAt (memory : Memory T) (address : Nat) : UInt8 :=
  let geometry := memory.devices.geometry
  (memory.content (geometry.pageOf address))[geometry.offsetOf address]?.getD 0

theorem Memory.Keeps.geometry {before after : Memory T} {reserved : Set Home} {touched : Set Nat}
    (keeps : before.Keeps reserved touched after) : after.devices.geometry = before.devices.geometry :=
  congrArg DeviceSet.Layout.geometry keeps.layout

theorem Memory.Keeps.byteAt {before after : Memory T} {reserved : Set Home} {touched : Set Nat}
    (keeps : before.Keeps reserved touched after) {address : Nat}
    (apart : before.devices.geometry.pageOf address ∉ touched) : after.byteAt address = before.byteAt address := by
  rw [Memory.byteAt, Memory.byteAt, keeps.geometry, keeps.content _ apart]

theorem Memory.byteAt_of_empty {memory : Memory T} {address : Nat}
    (empty : memory.content (memory.devices.geometry.pageOf address) = ∅) : memory.byteAt address = 0 := by
  rw [byteAt, empty]
  rfl

/-- A byte is replaced among those of its page. -/
theorem Memory.byteAt_of_insert {before after : Memory T} {address : Nat} {value : UInt8}
    (keeps : before.Keeps ∅ {before.devices.geometry.pageOf address} after)
    (content : after.content (before.devices.geometry.pageOf address) =
      (before.content (before.devices.geometry.pageOf address)).insert
        (before.devices.geometry.offsetOf address) value) (other : Nat) :
    after.byteAt other = if other = address then value else before.byteAt other := by
  by_cases same : before.devices.geometry.pageOf other = before.devices.geometry.pageOf address
  · rw [byteAt, byteAt, keeps.geometry, same, content]
    simp only [Std.ExtTreeMap.getElem?_insert, Std.compare_eq_iff_eq]
    have whole := before.devices.geometry.page_add_offset
    by_cases offset : before.devices.geometry.offsetOf address = before.devices.geometry.offsetOf other
    · have equal : other = address := by rw [← whole other, same, ← offset, whole]
      rw [if_pos offset, if_pos equal]
      rfl
    · have distinct : other ≠ address := fun equal => offset (equal ▸ rfl)
      rw [if_neg offset, if_neg distinct]
  · have distinct : other ≠ address := fun equal => same (equal ▸ rfl)
    rw [keeps.byteAt same, if_neg distinct]

/-- The bytes of one page are stored. -/
theorem Memory.Custody.stores [LawfulTable T] {memory : Memory T} {reserved : Set Home} {page : Nat}
    {home : Home} {bytes : FrameBytes} (custody : memory.Custody reserved) (after : Memory T)
    (named : memory.homeOf page = some home) (stores : memory.devices.Stores home bytes after.devices)
    (table : after.table = memory.table) :
    after.Custody reserved ∧ memory.Keeps reserved {page} after ∧ after.content page = bytes := by
  have same (other : Nat) : after.homeOf other = memory.homeOf other := by
    rw [homeOf, homeOf, lookup, lookup, table]
  refine ⟨custody.of_accounts stores.sound table (custody.accounts.stores stores), ?_, ?_⟩
  · refine ⟨stores.layout, by rw [capacity, capacity, table], fun other member => ?_, fun other apart => ?_⟩
    · rw [stores.bytes, if_neg]
      rintro rfl
      exact custody.accounts.apart page _ named member
    · cases held : memory.homeOf other with
      | none => rw [content_eq_empty held, content_eq_empty ((same other).trans held)]
      | some place =>
        rw [content_eq_bytesAt held, content_eq_bytesAt ((same other).trans held), stores.bytes, if_neg]
        rintro rfl
        exact apart (custody.accounts.unshared other page _ held named)
  · rw [content_eq_bytesAt ((same page).trans named), stores.bytes, if_pos rfl]

/-- The byte at an address is replaced, and no other byte of the space or of a reserved home. -/
structure Memory.Overwrites [LawfulTable T] (before : Memory T) (reserved : Set Home) (address : Nat) (value : UInt8)
    (after : Memory T) : Prop where
  custody : after.Custody reserved
  keeps : before.Keeps reserved {before.devices.geometry.pageOf address} after
  byteAt : ∀ other, after.byteAt other = if other = address then value else before.byteAt other

namespace Space

open Paging

omit [PageTable T] in
/-- The virtual address of a byte of a live region. -/
def address? (space : Space T) (id offset : Nat) : Option Nat :=
  match space.region? id with
  | .ok region => if offset < region.size then some (region.start + offset) else none
  | .error _ => none

omit [PageTable T] in
/-- Addresses depend on the regions alone. -/
theorem address?_congr {before after : Space T} (regions : after.regions = before.regions) (id offset : Nat) :
    after.address? id offset = before.address? id offset := by
  simp only [address?, region?, live?, slot?, regions]

variable [TotalTable T] {stage : Stage T} {reserved : Set Home}

/-- An access that names no address changes nothing; else its fault failed. -/
inductive Missed (before : Stage T) (id offset : Nat) : MemoryError → Stage T → Prop where
  | unnamed {reason : MemoryError} (unnamed : before.space.address? id offset = none)
    (notStale : reason.isStale = false) : Missed before id offset reason before
  | declined {address : Nat} {reason : MemoryError} {after : Stage T}
    (named : before.space.address? id offset = some address)
    (declined : Declined before (before.devices.geometry.pageOf address) reason after) :
    Missed before id offset reason after

theorem ends_locate (custody : stage.memory.Custody reserved) (id offset : Nat) :
    Ends (locate id offset)
      (fun place after => ∃ address frame, stage.space.address? id offset = some address ∧
        place = (stage.devices.geometry.pageOf address,
          stage.devices.geometry.physical frame (stage.devices.geometry.offsetOf address)) ∧
        Resolved stage reserved (stage.devices.geometry.pageOf address) frame after)
      (fun reason after => Missed stage id offset reason after) stage := by
  simp only [locate, ends_bind, ends_space, ends_settle]
  refine ⟨fun region found => ?_, fun reason none => .unnamed (by rw [address?, none]) (region?_notStale none)⟩
  simp only [ends_bind, ends_ite, ends_throw, ends_geometry]
  refine ⟨fun beyond => .unnamed ?_ rfl, fun within => ?_⟩
  · simp only [address?, found, Nat.not_lt.mpr beyond, if_false]
  · have named : stage.space.address? id offset = some (region.start + offset) := by
      simp only [address?, found, Nat.lt_of_not_le within, if_true]
    refine (ends_resolve custody _).mono (fun frame after resolved => ?_) fun _ _ declined => .declined named declined
    exact ⟨_, frame, named, rfl, resolved⟩

/-- What is written to the log does not matter. -/
theorem Resolved.logged {before after : Stage T} {page frame : Nat}
    (resolved : Resolved before reserved page frame after) (log : List Event) :
    Resolved before reserved page frame { after with log } := by
  refine ⟨resolved.custody, ⟨resolved.keeps.memory, resolved.keeps.outline⟩, resolved.homeOf, ?_⟩
  rcases resolved.change with unmoved | ⟨victim, paged⟩
  · exact .inl ⟨unmoved.memory, unmoved.outline, unmoved.resident⟩
  · exact .inr ⟨victim, paged.away, paged.entry, paged.resident, paged.spare, paged.held, paged.room,
      paged.swapped, paged.others⟩

theorem ends_readByte (custody : stage.memory.Custody reserved) (id offset : Nat) :
    Ends (readByte id offset)
      (fun value after => ∃ address frame, stage.space.address? id offset = some address ∧
        value = stage.memory.byteAt address ∧
        Resolved stage reserved (stage.devices.geometry.pageOf address) frame after)
      (fun reason after => Missed stage id offset reason after) stage := by
  rw [readByte, ends_bind]
  apply (ends_locate custody id offset).answers
  rintro _ middle ⟨address, frame, named, rfl, resolved⟩
  have geometry : middle.devices.geometry = stage.devices.geometry := resolved.keeps.memory.geometry
  have held := resolved.custody.inUse resolved.homeOf
  have within := geometry.symm ▸ stage.devices.geometry.offsetOf_lt address
  have read := Machine.ends_read resolved.custody.sound held within
  rw [geometry] at read
  simp only [ends_bind, ends_onMachine, ends_emit, ends_pure]
  apply read.sure
  rintro value _ ⟨rfl, answer⟩
  refine ⟨address, frame, named, ?_, resolved.logged _⟩
  have content := resolved.keeps.memory.content _ (Set.notMem_empty (stage.devices.geometry.pageOf address))
  rw [Memory.content_eq_bytesAt resolved.homeOf] at content
  rw [answer]
  exact congrArg (fun bytes : FrameBytes => bytes[stage.devices.geometry.offsetOf address]?.getD 0) content

/-- The byte at an address was replaced, after the fault on its page if there was one. -/
structure Written (before : Stage T) (reserved : Set Home) (address : Nat) (value : UInt8)
    (after : Stage T) : Prop where
  custody : after.memory.Custody reserved
  memory : before.memory.Keeps reserved {before.devices.geometry.pageOf address} after.memory
  outline : before.space.SameOutline after.space
  byteAt : ∀ other, after.memory.byteAt other = if other = address then value else before.memory.byteAt other
  marked : ∃ frame middle, Resolved before reserved (before.devices.geometry.pageOf address) frame middle ∧
    (∀ other, after.memory.lookup other =
      if other = before.devices.geometry.pageOf address then (middle.memory.lookup other).markDirty
      else middle.memory.lookup other) ∧ after.space.resident = middle.space.resident

/-- A mark moves no page. -/
theorem Written.resolved {before after : Stage T} {address : Nat} {value : UInt8}
    (written : Written before reserved address value after) :
    ∃ frame middle, Resolved before reserved (before.devices.geometry.pageOf address) frame middle ∧
      (∀ other, after.memory.homeOf other = middle.memory.homeOf other) ∧
      after.space.resident = middle.space.resident := by
  obtain ⟨frame, middle, resolved, lookup, resident⟩ := written.marked
  refine ⟨frame, middle, resolved, fun other => ?_, resident⟩
  rw [Memory.homeOf, lookup]
  split
  · exact home?_markDirty _
  · rfl

theorem ends_markDirty {page frame : Nat} (custody : stage.memory.Custody reserved)
    (named : stage.memory.homeOf page = some (.ram, frame)) :
    Ends (markDirty page) (fun _ after => Entered stage page (stage.memory.lookup page).markDirty after)
      (fun _ _ => False) stage := by
  have held : (PageTable.lookup stage.space.table page).frame? = some frame := Memory.homeOf_eq_ram_iff.mp named
  have written : PageTable.markDirty stage.space.table page =
      PageTable.write stage.space.table page (stage.memory.lookup page).markDirty := by
    simp only [PageTable.markDirty, held]
    rfl
  rw [markDirty, ends_bind, ends_space, written]
  exact ends_write_of_lt (custody.lt_capacity named) _

/-- The byte at an address is replaced in the frame that its page came in to. -/
theorem ends_store_of_resolved {middle : Stage T} {address frame : Nat}
    (resolved : Resolved stage reserved (stage.devices.geometry.pageOf address) frame middle) (value : UInt8) :
    Ends (Machine.write .ram (stage.devices.geometry.physical frame (stage.devices.geometry.offsetOf address)) value)
      (fun _ machine => stage.memory.Overwrites reserved address value
        ({ middle with toMachine := machine } : Stage T).memory)
      (fun _ _ => False) middle.toMachine := by
  have geometry : middle.devices.geometry = stage.devices.geometry := resolved.keeps.memory.geometry
  have held := resolved.custody.inUse resolved.homeOf
  have within := geometry.symm ▸ stage.devices.geometry.offsetOf_lt address
  have write := Machine.ends_write resolved.custody.sound held within value
  rw [geometry] at write
  apply write.sure
  intro _ machine stores
  let storing : Stage T := { middle with toMachine := machine }
  obtain ⟨custody, keeps, content⟩ := resolved.custody.stores storing.memory resolved.homeOf stores rfl
  have all := (resolved.keeps.memory.mono subset_rfl (Set.empty_subset _)).trans keeps
  refine ⟨custody, all, Memory.byteAt_of_insert (all.mono (Set.empty_subset _) subset_rfl) ?_⟩
  have before := resolved.keeps.memory.content _ (Set.notMem_empty (stage.devices.geometry.pageOf address))
  rw [Memory.content_eq_bytesAt resolved.homeOf] at before
  exact content.trans (congrArg (fun bytes : FrameBytes => bytes.insert _ value) before)

theorem ends_writeByte (custody : stage.memory.Custody reserved) (id offset : Nat) (value : UInt8) :
    Ends (writeByte id offset value)
      (fun _ after => ∃ address, stage.space.address? id offset = some address ∧
        Written stage reserved address value after)
      (fun reason after => Missed stage id offset reason after) stage := by
  rw [writeByte, ends_bind]
  apply (ends_locate custody id offset).answers
  rintro _ middle ⟨address, frame, named, rfl, resolved⟩
  simp only [ends_bind, ends_onMachine]
  apply (ends_store_of_resolved resolved value).sure
  intro _ machine stored
  apply (ends_markDirty stored.custody resolved.homeOf).sure
  intro _ after entered
  have custody_then := stored.custody.rewrites entered (home?_markDirty _)
  have marked : Memory.Keeps _ reserved ∅ after.memory := entered.writes.keeps_of_home (home?_markDirty _)
  simp only [ends_emit]
  refine ⟨address, named, custody_then, ?_, ?_, ?_, frame, middle, resolved, ?_, entered.resident⟩
  · exact stored.keeps.trans (marked.mono subset_rfl (Set.empty_subset _))
  · exact resolved.keeps.outline.trans entered.outline
  · exact fun other => (marked.byteAt (Set.notMem_empty _)).trans (stored.byteAt other)
  · intro other
    refine (entered.writes.lookup other).trans ?_
    split
    · next at_page => rw [at_page]; rfl
    · rfl

omit [TotalTable T] in
theorem Missed.declined_of_named {id offset address : Nat} {reason : MemoryError} {after : Stage T}
    (missed : Missed stage id offset reason after) (named : stage.space.address? id offset = some address) :
    Declined stage (stage.devices.geometry.pageOf address) reason after := by
  cases missed with
  | unnamed none _ =>
    rw [none] at named
    contradiction
  | declined found declined =>
    obtain rfl := Option.some.inj (found.symm.trans named)
    exact declined

theorem ends_readByte_of_named (custody : stage.memory.Custody reserved) {id offset address : Nat}
    (named : stage.space.address? id offset = some address) : Ends (readByte id offset)
      (fun value after => value = stage.memory.byteAt address ∧
        ∃ frame, Resolved stage reserved (stage.devices.geometry.pageOf address) frame after)
      (fun reason after => Declined stage (stage.devices.geometry.pageOf address) reason after) stage := by
  refine (ends_readByte custody id offset).mono ?_ fun _ _ missed => missed.declined_of_named named
  rintro _ after ⟨_, frame, found, rfl, resolved⟩
  obtain rfl := Option.some.inj (named.symm.trans found)
  exact ⟨rfl, frame, resolved⟩

theorem ends_writeByte_of_named (custody : stage.memory.Custody reserved) {id offset address : Nat}
    (named : stage.space.address? id offset = some address) (value : UInt8) : Ends (writeByte id offset value)
      (fun _ after => Written stage reserved address value after)
      (fun reason after => Declined stage (stage.devices.geometry.pageOf address) reason after) stage := by
  refine (ends_writeByte custody id offset value).mono ?_ fun _ _ missed => missed.declined_of_named named
  rintro _ after ⟨_, found, written⟩
  obtain rfl := Option.some.inj (named.symm.trans found)
  exact written

/-- Only stamps over absent entries were made. -/
structure Stamped (before : Stage T) (reserved : Set Home) (after : Stage T) : Prop where
  custody : after.memory.Custody reserved
  keeps : before.Keeps reserved ∅ after
  homeOf : ∀ page, after.memory.homeOf page = before.memory.homeOf page
  homed : ∀ page, before.memory.homeOf page ≠ none → after.memory.lookup page = before.memory.lookup page
  resident : after.space.resident = before.space.resident

theorem Stamped.trans {first second third : Stage T} (one : Stamped first reserved second)
    (two : Stamped second reserved third) : Stamped first reserved third where
  custody := two.custody
  keeps := one.keeps.trans two.keeps
  homeOf page := (two.homeOf page).trans (one.homeOf page)
  homed page home := (two.homed page (one.homeOf page ▸ home)).trans (one.homed page home)
  resident := two.resident.trans one.resident

/-- An absent entry is stamped and counted; a page of the table is never refused. -/
theorem ends_stamp (custody : stage.memory.Custody reserved) (count page : Nat) :
    Ends (stamp count page)
      (fun answer after => Stamped stage reserved after ∧
        answer = if stage.memory.homeOf page = none then count + 1 else count)
      (fun reason after => Stamped stage reserved after ∧ reason.isStale = false ∧ stage.memory.capacity ≤ page)
      stage := by
  have still : Stamped stage reserved stage := ⟨custody, .refl _, fun _ => rfl, fun _ _ => rfl, rfl⟩
  simp only [stamp, ends_bind, ends_lookup, Memory.homeOf_eq_none_iff]
  cases state : (PageTable.lookup stage.space.table page).state with
  | present frame dirty => exact ⟨still, (if_neg (by simp [Memory.lookup, Stage.memory, state])).symm⟩
  | swapped device slot => exact ⟨still, (if_neg (by simp [Memory.lookup, Stage.memory, state])).symm⟩
  | absent =>
    have absent : stage.memory.homeOf page = none := Memory.homeOf_eq_none_iff.mpr state
    have same : home? .poison = stage.memory.homeOf page := by
      rw [absent]
      rfl
    rw [ends_bind]
    refine (ends_write page .poison).mono (fun _ after entered => ⟨?_, (if_pos state).symm⟩) ?_
    · have keeps : stage.Keeps reserved ∅ after := ⟨entered.writes.keeps_of_home same, entered.outline⟩
      refine ⟨custody.rewrites entered same, keeps, fun other => ?_, fun other home => ?_, entered.resident⟩
      · rw [entered.writes.homeOf, same]
        split
        · next at_page => rw [at_page]
        · rfl
      · rw [entered.writes.lookup, if_neg]
        rintro rfl
        exact home absent
    · rintro _ stage ⟨rfl, _, rfl, refused⟩
      refine ⟨still, rfl, Nat.le_of_not_lt fun fits => ?_⟩
      obtain ⟨next, written⟩ := TotalTable.write_of_lt stage.space.table .poison fits
      rw [written] at refused
      contradiction

omit [TotalTable T] in
/-- A range that is no range of an area stops an install before it changes anything. -/
theorem ends_installPattern_of_refused {start pages : Nat} {reason : MemoryError}
    (refused : stage.space.pageRange stage.devices.geometry start pages = .error reason) :
    Ends (installPattern start pages) (fun _ _ => False) (fun failure after => failure = reason ∧ after = stage)
      stage := by
  simp only [installPattern, ends_bind, ends_space, ends_geometry, refused, ends_settle_error, and_self]

/-- Past the check of its range, an install fails only for a page that the table does not have. -/
theorem ends_installPattern_of_pageRange (custody : stage.memory.Custody reserved) {start pages first : Nat}
    (range : stage.space.pageRange stage.devices.geometry start pages = .ok first) :
    Ends (installPattern start pages) (fun _ after => Stamped stage reserved after)
      (fun reason after => Stamped stage reserved after ∧ reason.isStale = false ∧
        ∃ page ∈ List.range' first pages, stage.memory.capacity ≤ page) stage := by
  have still : Stamped stage reserved stage := ⟨custody, .refl _, fun _ => rfl, fun _ _ => rfl, rfl⟩
  simp only [installPattern, ends_bind, ends_space, ends_geometry, range, ends_settle_ok]
  refine (ends_foldlM (fun page inside count middle stamped => ?_) still).answers fun count after stamped => ?_
  · refine (ends_stamp stamped.custody count page).mono (fun _ _ next => stamped.trans next.1) ?_
    rintro _ _ ⟨next, notStale, beyond⟩
    exact ⟨stamped.trans next, notStale, page, inside, stamped.keeps.memory.capacity ▸ beyond⟩
  · simp only [ends_bind, ends_emit, ends_pure]
    exact ⟨stamped.custody, ⟨stamped.keeps.memory, stamped.keeps.outline⟩, stamped.homeOf, stamped.homed,
      stamped.resident⟩

theorem ends_installPattern (custody : stage.memory.Custody reserved) (start pages : Nat) :
    Ends (installPattern start pages) (fun _ after => Stamped stage reserved after)
      (fun reason after => Stamped stage reserved after ∧ reason.isStale = false) stage := by
  cases range : stage.space.pageRange stage.devices.geometry start pages with
  | ok first =>
    exact (ends_installPattern_of_pageRange custody range).mono (fun _ _ stamped => stamped)
      fun _ _ failed => ⟨failed.1, failed.2.1⟩
  | error reason =>
    refine (ends_installPattern_of_refused range).mono (fun _ _ never => never.elim) ?_
    rintro _ _ ⟨rfl, rfl⟩
    exact ⟨⟨custody, .refl _, fun _ => rfl, fun _ _ => rfl, rfl⟩, pageRange_notStale range⟩

end Space

end DemandPaging
