import DemandPaging.Proofs.InBulk
import DemandPaging.Proofs.Starts

/-! # Ranges are evicted together or not at all

A range eviction takes a slot for each of its resident pages before it writes the first of them. A guard
may refuse any of the writes. The pages that were written by then get back their old entries, which the
guard let pass before, and every slot is free again; no frame of RAM was touched. If no write is refused,
each page has moved to the slot it was paired with, its frame is free, and nothing else has changed.
-/

namespace DemandPaging

/-- No page was evicted, and all that may differ is the order of the free slots of the active swap device. -/
structure Stage.Spared {T : Type} [PageTable T] (before after : Stage T) : Prop where
  devices : before.devices.Reorders (.swap before.devices.active) after.devices
  resident : after.space.resident.toList = before.space.resident.toList
  lookup : ∀ page, PageTable.lookup after.space.table page = PageTable.lookup before.space.table page
  outline : before.space.SameOutline after.space

theorem Stage.Spared.refl {T : Type} [PageTable T] (stage : Stage T) : stage.Spared stage :=
  ⟨.refl _ _, rfl, fun _ => rfl, .refl _⟩

/-- A stage whose table is put behind a guard. -/
def Stage.guardedBy {T : Type} (stage : Stage T) (refuses : Nat → Entry → Bool) : Stage (GuardedTable T) where
  toMachine := stage.toMachine
  space := {
    populate := stage.space.populate
    areas := stage.space.areas
    regions := stage.space.regions
    resident := stage.space.resident
    table := ⟨stage.space.table, refuses⟩ }

/-- A new space over a guarded table of 4 pages. -/
def Space.behindGuard (machine : Machine) (rules : List Refusal) : Stage (GuardedTable FlatTable) :=
  { machine with space := Space.ofTable .onDemand ⟨.ofPages 4, Refusal.anyOf rules⟩ }

namespace Space

open Paging

/-- Pages moved from their frames to slots of the active swap device that were free. -/
structure MovedOut {T : Type} [PageTable T] (before : Stage T) (held : List ResidentPage) (slots : List Nat)
    (after : Stage T) : Prop where
  length : slots.length = held.length
  distinct : slots.Nodup
  free : before.devices.freeOf (.swap before.devices.active) =
    slots ++ after.devices.freeOf (.swap before.devices.active)
  /-- The frames are free now, the last one first. -/
  retired : after.devices.freeOf .ram = (held.map ResidentPage.frame).reverse ++ before.devices.freeOf .ram
  free_other : ∀ device, device ≠ before.devices.active →
    after.devices.freeOf (.swap device) = before.devices.freeOf (.swap device)
  inUse : ∀ home, after.devices.InUse home ↔ ¬ (home.1 = .ram ∧ home.2 ∈ held.map ResidentPage.frame) ∧
    ((home.1 = .swap before.devices.active ∧ home.2 ∈ slots) ∨ before.devices.InUse home)
  swapped : ∀ pair ∈ held.zip slots, (PageTable.lookup after.space.table pair.1.page).state =
    .swapped before.devices.active pair.2
  copied : ∀ pair ∈ held.zip slots, after.devices.bytesAt (.swap before.devices.active, pair.2) =
    before.devices.bytesAt (.ram, pair.1.frame)
  bytes : ∀ home, before.devices.InUse home → after.devices.bytesAt home = before.devices.bytesAt home
  others : ∀ page, page ∉ held.map ResidentPage.page →
    PageTable.lookup after.space.table page = PageTable.lookup before.space.table page
  resident : after.space.resident.toList =
    before.space.resident.toList.filter fun page => page ∉ held.map ResidentPage.page
  layout : after.devices.layout = before.devices.layout
  outline : before.space.SameOutline after.space

section Writing

variable {T : Type} [PageTable T] [TotalTable T] {stage middle : Stage (GuardedTable T)} {device : Nat}
  {pairs done : List (ResidentPage × Nat)}

/-- Resident pages, each with a slot in hand; the guard lets their entries pass. -/
structure Assigned (stage : Stage (GuardedTable T)) (device : Nat) (pairs : List (ResidentPage × Nat)) : Prop where
  entry : ∀ pair ∈ pairs, pair.1.entry = PageTable.lookup stage.space.table pair.1.page
  framed : ∀ pair ∈ pairs, stage.devices.InUse (.ram, pair.1.frame)
  slotted : ∀ pair ∈ pairs, stage.devices.InUse (.swap device, pair.2)
  pages : (pairs.map fun pair => pair.1.page).Nodup
  slots : (pairs.map Prod.snd).Nodup
  fits : ∀ pair ∈ pairs, pair.1.page < PageTable.capacity stage.space.table
  accepted : ∀ pair ∈ pairs, stage.space.table.refuses pair.1.page pair.1.entry = false

/-- Some of the pages were written to their slots; no other slot than those in hand was written. -/
structure WroteOut (before : Stage (GuardedTable T)) (device : Nat) (pairs done : List (ResidentPage × Nat))
    (after : Stage (GuardedTable T)) : Prop where
  devices : before.devices.Fills (.swap device) (pairs.map Prod.snd) after.devices
  copied : ∀ pair ∈ done, after.devices.bytesAt (.swap device, pair.2) =
    before.devices.bytesAt (.ram, pair.1.frame)
  marked : ∀ pair ∈ done, PageTable.lookup after.space.table pair.1.page = .ofSlot device pair.2
  others : ∀ page, page ∉ done.map (fun pair => pair.1.page) →
    PageTable.lookup after.space.table page = PageTable.lookup before.space.table page
  guard : GuardedTable.SameGuard before.space.table after.space.table
  space : after.space = { before.space with table := after.space.table }

omit [TotalTable T] in
theorem WroteOut.start (sound : stage.devices.Sound) : WroteOut stage device pairs [] stage where
  devices := .refl sound
  copied := List.forall_mem_nil _
  marked := List.forall_mem_nil _
  others _ _ := rfl
  guard := .refl _
  space := rfl

/-- One more page is written out, or its slot alone is written. -/
theorem ends_writeOut_of_assigned (assigned : Assigned stage device pairs) {item : ResidentPage × Nat}
    {rest : List (ResidentPage × Nat)} (split : pairs = done ++ item :: rest)
    (wrote : WroteOut stage device pairs done middle) :
    Ends (writeOut item.1.page item.1.frame device item.2)
      (fun _ after => WroteOut stage device pairs (done ++ [item]) after)
      (fun _ after => WroteOut stage device pairs done after) middle := by
  have member : item ∈ pairs := by
    rw [split]
    exact List.mem_append_right _ List.mem_cons_self
  have slot_mem : item.2 ∈ pairs.map Prod.snd := List.mem_map_of_mem member
  have pages := assigned.pages
  have slots := assigned.slots
  simp only [split, List.map_append, List.map_cons, List.nodup_append, List.nodup_cons] at pages slots
  have page_new (pair) (before : pair ∈ done) : pair.1.page ≠ item.1.page :=
    pages.2.2 _ (List.mem_map_of_mem before) _ List.mem_cons_self
  have slot_new (pair) (before : pair ∈ done) : pair.2 ≠ item.2 :=
    slots.2.2 _ (List.mem_map_of_mem before) _ List.mem_cons_self
  have held := (wrote.devices.inUse _).mpr (assigned.framed item member)
  have kept := (wrote.devices.inUse _).mpr (assigned.slotted item member)
  have copied {after : Stage (GuardedTable T)}
      (stores : middle.devices.Stores (.swap device, item.2) (middle.devices.bytesAt (.ram, item.1.frame))
        after.devices) (pair) (before : pair ∈ done) :
      after.devices.bytesAt (.swap device, pair.2) = stage.devices.bytesAt (.ram, pair.1.frame) := by
    rw [stores.bytes, if_neg, wrote.copied pair before]
    exact fun same => slot_new pair before (Prod.mk.inj same).2
  apply (ends_writeOut_of_inUse wrote.devices.sound held kept).mono
  · rintro _ after ⟨stores, table, marked, space⟩
    have lookup (page : Nat) : PageTable.lookup after.space.table page =
        if page = item.1.page then .ofSlot device item.2 else PageTable.lookup middle.space.table page := by
      rw [space]
      exact LawfulTable.lookup_write marked page
    constructor
    case devices => exact wrote.devices.stores stores slot_mem
    case copied =>
      rw [List.forall_mem_append, List.forall_mem_singleton]
      constructor
      · exact copied stores
      · rw [stores.bytes, if_pos rfl]
        exact wrote.devices.bytes _ nofun
    case marked =>
      rw [List.forall_mem_append, List.forall_mem_singleton]
      constructor
      · intro pair before
        rw [lookup, if_neg (page_new pair before), wrote.marked pair before]
      · rw [lookup, if_pos rfl]
    case others =>
      intro page away
      rw [List.map_append, List.mem_append, not_or] at away
      rw [lookup, if_neg, wrote.others page away.1]
      rintro rfl
      exact away.2 (List.mem_singleton_self _)
    case guard =>
      rw [space]
      exact wrote.guard.write marked
    case space => rw [space, wrote.space]
  · rintro _ after ⟨stores, space⟩
    constructor
    case devices => exact wrote.devices.stores stores slot_mem
    case copied => exact copied stores
    case marked => rw [space]; exact wrote.marked
    case others => rw [space]; exact wrote.others
    case guard => rw [space]; exact wrote.guard
    case space => rw [space]; exact wrote.space

/-- The guard let the old entries pass before, so all of them are written back. -/
theorem ends_writeBack (assigned : Assigned stage device pairs) (wrote : WroteOut stage device pairs done middle)
    (subset : done ⊆ pairs) :
    Ends (done.forM fun (held, _) => reporting (write held.page held.entry) (.entryLost held.page))
      (fun _ after => after.devices = middle.devices ∧
        (∀ page, PageTable.lookup after.space.table page = PageTable.lookup stage.space.table page) ∧
        after.space = { stage.space with table := after.space.table })
      (fun _ _ => False) middle := by
  apply (ends_rewriteAll (fun pair : ResidentPage × Nat => pair.1.page) (PageTable.lookup stage.space.table)
    (fun pair => .entryLost pair.1.page) ?_ ?_ ?_).sure
  · intro _ after back
    refine ⟨back.devices, fun page => ?_, by rw [back.space, wrote.space]⟩
    rw [back.lookup]
    split
    · rfl
    · next away => exact wrote.others page away
  · intro item member
    rw [← assigned.entry item (subset member)]
  · intro item member
    rw [wrote.guard.capacity]
    exact assigned.fits item (subset member)
  · intro item member
    rw [wrote.guard.refuses, ← assigned.entry item (subset member)]
    exact assigned.accepted item (subset member)

/-- The pages are as before, and the slots went back after some of them were written. -/
structure WrittenBack (before : Stage (GuardedTable T)) (device : Nat) (pairs : List (ResidentPage × Nat))
    (after : Stage (GuardedTable T)) : Prop where
  devices : ∃ filled, before.devices.Fills (.swap device) (pairs.map Prod.snd) filled ∧
    filled.ReturnsAll (.swap device) (pairs.map Prod.snd) after.devices
  lookup : ∀ page, PageTable.lookup after.space.table page = PageTable.lookup before.space.table page
  space : after.space = { before.space with table := after.space.table }

theorem ends_writeOutAll_of_assigned (sound : stage.devices.Sound) (assigned : Assigned stage device pairs) :
    Ends (writeOutAll device pairs) (fun _ after => WroteOut stage device pairs pairs after)
      (fun _ after => WrittenBack stage device pairs after) stage := by
  rw [writeOutAll, ends_bind]
  refine (ends_eachUntilFailure (WroteOut stage device pairs) (fun done _ _ => WroteOut stage device pairs done)
    (fun _ _ _ split _ wrote => ends_writeOut_of_assigned assigned split wrote) (.start sound)).sure ?_
  rintro _ middle (⟨rfl, wrote⟩ | ⟨done, item, rest, reason, split, rfl, wrote⟩)
  · exact wrote
  have subset : done ⊆ pairs := split ▸ List.subset_append_left _ _
  have logged (event : Event) : WroteOut stage device pairs done { middle with log := event :: middle.log } :=
    { wrote with }
  rw [ends_bind, ends_emit, ends_bind]
  apply (ends_writeBack assigned (logged _) subset).sure
  rintro _ back ⟨devices, lookup, same⟩
  have sound_now : back.devices.Sound := devices ▸ wrote.devices.sound
  have slotted (pair) (member : pair ∈ pairs) : back.devices.InUse (.swap device, pair.2) := by
    rw [devices]
    exact (wrote.devices.inUse _).mpr (assigned.slotted pair member)
  rw [ends_bind]
  refine (ends_returnAll Prod.snd (fun item now sound held => ?_) sound_now slotted assigned.slots).sure ?_
  · rw [ends_reporting, ends_onMachine]
    apply (Machine.ends_release sound held).sure
    exact fun _ _ returns => ⟨returns, rfl⟩
  · rintro _ after ⟨returns, space⟩
    rw [ends_throw]
    constructor
    · exact ⟨_, devices ▸ wrote.devices, returns⟩
    · intro page
      rw [space]
      exact lookup page
    · rw [space, same]

omit [PageTable T] [TotalTable T] in
/-- The frames of the pages go back one after the other. -/
theorem ends_retireAll_of_inUse (device : Nat) {stage : Stage (GuardedTable T)} (sound : stage.devices.Sound)
    (framed : ∀ pair ∈ pairs, stage.devices.InUse (.ram, pair.1.frame))
    (frames : (pairs.map fun pair => pair.1.frame).Nodup) :
    Ends (pairs.forM fun (held, slot) => retire device held slot)
      (fun _ after => stage.devices.ReturnsAll .ram (pairs.map fun pair => pair.1.frame) after.devices ∧
        after.space = stage.space)
      (fun _ _ => False) stage := by
  apply ends_returnAll (fun pair : ResidentPage × Nat => pair.1.frame) _ sound framed frames
  intro item now sound held
  simp only [retire, ends_bind, ends_reporting, ends_emit, ends_onMachine]
  apply (Machine.ends_release sound held).sure
  exact fun _ _ returns => ⟨returns, trivial⟩

end Writing

section Eviction

variable {T : Type} [PageTable T] [TotalTable T] {stage : Stage (GuardedTable T)} {held : List ResidentPage}
  {slots : List Nat}

omit [TotalTable T] in
/-- An eviction of no pages. -/
theorem MovedOut.nil (stage : Stage (GuardedTable T)) : MovedOut stage [] [] stage where
  length := rfl
  distinct := List.nodup_nil
  free := rfl
  retired := rfl
  free_other _ _ := rfl
  inUse home := by simp
  swapped := List.forall_mem_nil _
  copied := List.forall_mem_nil _
  bytes _ _ := rfl
  others _ _ := rfl
  resident := by simp
  layout := rfl
  outline := .refl _

omit [TotalTable T] in
/-- Pages that were written out and left the queue, and whose frames went back, have moved out. -/
theorem MovedOut.of_retired [LawfulTable T] {machine : Machine} {written after : Stage (GuardedTable T)}
    (length : slots.length = held.length)
    (takes : stage.devices.Takes (.swap stage.devices.active) slots machine.devices)
    (wrote : WroteOut { stage with toMachine := machine } stage.devices.active (held.zip slots) (held.zip slots)
      written)
    (returns : written.devices.ReturnsAll .ram (held.map ResidentPage.frame) after.devices)
    (space : after.space = { written.space with
      resident := written.space.resident.without (held.map ResidentPage.page) }) :
    MovedOut stage held slots after where
  length := length
  distinct := takes.nodup
  free := by
    rw [returns.free_other (.swap _) nofun, wrote.devices.free]
    exact takes.free
  retired := by
    rw [returns.free, wrote.devices.free]
    exact congrArg (_ ++ ·) (takes.free_other .ram nofun)
  free_other device distinct := by
    rw [returns.free_other (.swap _) nofun, wrote.devices.free]
    apply takes.free_other
    exact fun same => distinct (DeviceId.swap.inj same)
  inUse home := by
    rw [returns.inUse, wrote.devices.inUse]
    exact and_congr_right fun _ => takes.inUse home
  swapped pair member := by
    rw [space]
    have slot_mem := (List.of_mem_zip member).2
    have used : machine.devices.InUse (.swap stage.devices.active, pair.2) :=
      (takes.inUse _).mpr (.inl ⟨rfl, slot_mem⟩)
    exact (congrArg Entry.state (wrote.marked pair member)).trans (takes.sound.state_ofSlot used)
  copied pair member := by
    rw [returns.bytes, wrote.copied pair member]
    exact takes.bytes _
  bytes := by
    rintro ⟨id, place⟩ used
    rw [returns.bytes, wrote.devices.bytes]
    · exact takes.bytes _
    · rintro rfl member
      rw [List.map_snd_zip length.le] at member
      exact takes.fresh _ member used
  others page away := by
    rw [space]
    apply wrote.others
    rwa [map_zip_fst length]
  resident := by
    rw [space, PageQueue.toList_without, wrote.space]
  layout := returns.layout.trans (wrote.devices.layout.trans takes.layout)
  outline := by
    rw [space, wrote.space]
    exact ⟨rfl, rfl, rfl⟩

/-- The resident pages of a range, with the slots that were taken for them, can be written out. -/
theorem assigned_of_guarded (guarded : stage.Guarded) {first pages : Nat} {device : Nat} {machine : Machine}
    (takes : stage.devices.Takes (.swap device) slots machine.devices)
    (length : slots.length = (residentIn stage.space.table first pages).length) :
    Assigned { stage with toMachine := machine } device ((residentIn stage.space.table first pages).zip slots) where
  entry pair member := entry_of_mem_residentIn (List.of_mem_zip member).1
  framed pair member := by
    have named := home?_of_mem_residentIn (List.of_mem_zip member).1
    exact (takes.inUse _).mpr (.inr (guarded.inUse _ _ named))
  slotted pair member := (takes.inUse _).mpr (.inl ⟨rfl, (List.of_mem_zip member).2⟩)
  pages := by
    rw [map_zip_fst length]
    exact residentPages_nodup
  slots := by
    rw [List.map_snd_zip length.le]
    exact takes.nodup
  fits pair member := by
    have framed := mem_residentIn (List.of_mem_zip member).1
    exact LawfulTable.lt_capacity_of_lookup guarded.formed (Entry.ne_zero_of_frame? framed)
  accepted pair member := by
    have framed := mem_residentIn (List.of_mem_zip member).1
    rw [entry_of_mem_residentIn (List.of_mem_zip member).1]
    exact guarded.accepted _ (Entry.ne_zero_of_frame? framed)

/-- The part of an eviction that comes after its slots were taken. -/
theorem ends_moveOut {machine : Machine} (length : slots.length = held.length)
    (takes : stage.devices.Takes (.swap stage.devices.active) slots machine.devices)
    (assigned : Assigned { stage with toMachine := machine } stage.devices.active (held.zip slots))
    (frames : (held.map ResidentPage.frame).Nodup) :
    Ends (do
        writeOutAll stage.devices.active (held.zip slots)
        modifySpace fun space =>
          { space with resident := space.resident.without (held.map ResidentPage.page) }
        (held.zip slots).forM fun (held, slot) => retire stage.devices.active held slot
        return held.length)
      (fun count after => count = held.length ∧ MovedOut stage held slots after)
      (fun _ after => stage.Spared after) { stage with toMachine := machine } := by
  rw [ends_bind]
  apply (ends_writeOutAll_of_assigned takes.sound assigned).mono
  · intro _ written wrote
    let resident := written.space.resident.without (held.map ResidentPage.page)
    let queued : Stage (GuardedTable T) := { written with space := { written.space with resident } }
    have framed (pair) (member : pair ∈ held.zip slots) : queued.devices.InUse (.ram, pair.1.frame) :=
      (wrote.devices.inUse _).mpr (assigned.framed pair member)
    have retired := ends_retireAll_of_inUse stage.devices.active (show queued.devices.Sound from wrote.devices.sound)
      framed
    rw [map_zip_fst length] at retired
    rw [ends_bind, ends_modifySpace, ends_bind]
    apply (retired frames).sure
    rintro _ after ⟨returns, space⟩
    exact ⟨rfl, .of_retired length takes wrote returns space⟩
  · rintro _ after ⟨⟨filled, fills, returns⟩, lookup, space⟩
    rw [List.map_snd_zip length.le] at fills returns
    constructor
    · exact takes.reorders fills returns
    · rw [space]
    · exact lookup
    · rw [space]
      exact ⟨rfl, rfl, rfl⟩

theorem ends_evictPages_of_guarded (guarded : stage.Guarded)
    (unshared : ∀ page other home, home? (PageTable.lookup stage.space.table page) = some home →
      home? (PageTable.lookup stage.space.table other) = some home → page = other) (start pages : Nat) :
    Ends (evictPages start pages)
      (fun count after => ∃ slots,
        count = (residentIn stage.space.table (stage.devices.geometry.pageOf start) pages).length ∧
        MovedOut stage (residentIn stage.space.table (stage.devices.geometry.pageOf start) pages) slots after)
      (fun _ after => stage.Spared after) stage := by
  cases range : stage.space.pageRange stage.devices.geometry start pages with
  | error reason =>
    apply (ends_evictPages_of_refused range).mono
    · exact fun _ _ never => never.elim
    · rintro _ _ ⟨-, rfl⟩
      exact .refl _
  | ok first =>
    obtain ⟨rfl, -⟩ := pageRange_eq_ok range
    simp only [evictPages, ends_bind, ends_space, ends_geometry, range, ends_settle_ok, ends_ite, ends_pure]
    constructor
    · intro idle
      rw [List.isEmpty_iff.mp idle]
      exact ⟨[], rfl, .nil stage⟩
    intro _
    rw [ends_onMachine, Machine.ends_activeSwap]
    cases found : stage.devices.get? (.swap stage.devices.active) with
    | none => exact .refl stage
    | some device =>
      simp only [ends_bind, ends_onMachine]
      apply (Machine.ends_acquireMany guarded.sound found _).sure
      rintro _ machine (⟨rfl, rfl, short⟩ | ⟨slots, rfl, length, takes⟩)
      · exact .refl stage
      · refine (ends_moveOut length takes (assigned_of_guarded guarded takes length) ?_).answers ?_
        · apply frames_nodup residentPages_nodup
          intro one first other second same
          exact unshared _ _ _ (home?_of_mem_residentIn first) (same ▸ home?_of_mem_residentIn second)
        · rintro _ after ⟨rfl, moved⟩
          exact ⟨slots, rfl, moved⟩

/-- An eviction over a guarded table evicts every resident page of its range, or no page at all. -/
theorem evictPages_all_or_none (guarded : stage.Guarded)
    (unshared : ∀ page other home, home? (PageTable.lookup stage.space.table page) = some home →
      home? (PageTable.lookup stage.space.table other) = some home → page = other) (start pages : Nat) :
    match evictPages start pages stage with
    | .error _ after => stage.Spared after
    | .ok count after => ∃ held slots,
      held.map ResidentPage.page = (List.range' (stage.devices.geometry.pageOf start) pages).filter
        (fun page => (PageTable.lookup stage.space.table page).frame?.isSome) ∧
      (∀ item ∈ held, (PageTable.lookup stage.space.table item.page).frame? = some item.frame) ∧
      count = held.length ∧ MovedOut stage held slots after := by
  have ends := ends_evictPages_of_guarded guarded unshared start pages
  unfold Ends at ends
  cases ran : evictPages start pages stage with
  | error reason after =>
    rw [ran] at ends
    exact ends
  | ok count after =>
    rw [ran] at ends
    obtain ⟨slots, counted, moved⟩ := ends
    exact ⟨_, slots, residentPages_eq_filter, fun _ member => mem_residentIn member, counted, moved⟩

end Eviction

section Guards

/-- A rule for one page is about no other. -/
theorem anyOf_of_ne {rule : Refusal} {page : Nat} (distinct : page ≠ rule.page) (entry : Entry) :
    Refusal.anyOf [rule] page entry = false := by
  simp [Refusal.anyOf, distinct.symm]

theorem guarded_guardedBy {T : Type} [PageTable T] [TotalTable T] {stage : Stage T} {reserved : Set Home}
    (custody : stage.memory.Custody reserved)
    (queued : ∀ page ∈ stage.space.resident.toList, (PageTable.lookup stage.space.table page).frame? ≠ none)
    {refuses : Nat → Entry → Bool} (accepted : ∀ page, refuses page (PageTable.lookup stage.space.table page) = false) :
    (stage.guardedBy refuses).Guarded where
  sound := custody.sound
  formed := custody.formed
  queued := queued
  inUse _ _ named := custody.inUse named
  accepted page _ := accepted page

end Guards

end Space

/-- Two frames of RAM and two swap slots. -/
def MemoryConfig.twofold : MemoryConfig := { ramSize := 512, swapSizes := [512] }

namespace Host

/-- Pages 0 and 2 have the two frames. -/
def sparseRun : List Operation :=
  [.add .onDemand (.flat 4), .call 0 (.allocate 0 0 1024), .call 0 (.writeByte 0 0 7), .call 0 (.writeByte 0 512 9)]

private theorem evictions_after_sparse :
    ∃ machine space, MemoryConfig.twofold.build = .ok machine ∧
      ((start machine).after sparseRun).space? 0 = some space ∧
      (∀ page ∈ space.resident.toList, (PageTable.lookup space.table page).frame? ≠ none) ∧
      (∀ pattern ∈ [EntryClass.swapped, .absent],
        Refusal.anyOf [⟨2, pattern⟩] 2 (PageTable.lookup space.table 2) = false) ∧
      (onStage (Space.evictPages 0 4) ((((start machine).after sparseRun).stage space).guardedBy
        (Refusal.anyOf [⟨2, .swapped⟩]))).1.isOk = false ∧
      (onStage (Space.evictPages 0 4) ((((start machine).after sparseRun).stage space).guardedBy
        (Refusal.anyOf [⟨2, .absent⟩]))).1 = .ok 2 :=
  ⟨_, _, rfl, rfl, by decide +kernel, by decide +kernel, by decide +kernel, by decide +kernel⟩

/-- When page 2 cannot be marked swapped, page 0 is brought back; under another guard both pages leave. -/
theorem evictPages_all_or_none_of_sparse :
    ∃ machine space, MemoryConfig.twofold.build = .ok machine ∧
      ((start machine).after sparseRun).space? 0 = some space ∧
      (∃ stage reason after,
        stage = (((start machine).after sparseRun).stage space).guardedBy (Refusal.anyOf [⟨2, .swapped⟩]) ∧
        Space.evictPages 0 4 stage = .error reason after ∧ stage.Spared after) ∧
      ∃ stage after held slots,
        stage = (((start machine).after sparseRun).stage space).guardedBy (Refusal.anyOf [⟨2, .absent⟩]) ∧
        Space.evictPages 0 4 stage = .ok 2 after ∧ held.length = 2 ∧ Space.MovedOut stage held slots after := by
  obtain ⟨machine, space, built, found, queued, passes, failed, done⟩ := evictions_after_sparse
  have custody := (custody_after built (by decide) sparseRun).stage found
  refine ⟨machine, space, built, found, ?_⟩
  generalize (start machine).after sparseRun = host at *
  have guarded (pattern) (member : pattern ∈ [EntryClass.swapped, .absent]) :
      ((host.stage space).guardedBy (Refusal.anyOf [⟨2, pattern⟩])).Guarded := by
    apply Space.guarded_guardedBy custody queued
    intro page
    by_cases same : page = 2
    · subst same
      exact passes pattern member
    · exact Space.anyOf_of_ne same _
  have stopped := Space.evictPages_all_or_none (guarded .swapped (by decide)) custody.accounts.unshared 0 4
  have passed := Space.evictPages_all_or_none (guarded .absent (by decide)) custody.accounts.unshared 0 4
  unfold onStage at failed done
  constructor
  · cases ran : Space.evictPages 0 4 ((host.stage space).guardedBy (Refusal.anyOf [⟨2, .swapped⟩])) with
    | error reason after =>
      rw [ran] at stopped
      exact ⟨_, reason, after, rfl, ran, stopped⟩
    | ok count after =>
      rw [ran] at failed
      contradiction
  · cases ran : Space.evictPages 0 4 ((host.stage space).guardedBy (Refusal.anyOf [⟨2, .absent⟩])) with
    | error reason after =>
      rw [ran] at done
      contradiction
    | ok count after =>
      rw [ran] at done passed
      obtain rfl := Except.ok.inj done
      obtain ⟨held, slots, -, -, counted, moved⟩ := passed
      exact ⟨_, after, held, slots, rfl, ran, counted.symm, moved⟩

end Host

end DemandPaging
