import DemandPaging.Proofs.Moves

/-! # Faults from outside

Resolving a page keeps custody and cannot be seen: no content changes and no reserved byte. What it
does change is which pages are resident. A fault on a page that is absent or swapped makes it the
newest resident, at the cost of the oldest if RAM is full, and a fault that fails for want of room leaves
table and devices as they were. The oldest resident page can be stale only if the queue lists a page
that has left RAM, and then it leaves the queue.
-/

namespace DemandPaging

/-- Whether an error says that the queue lists a page that is not resident. -/
def MemoryError.isStale : MemoryError → Bool
  | .staleVictim _ => true
  | _ => false

/-- Whether an error tells of the shared devices, or of the pages of the space that happen to be in RAM. -/
def MemoryError.isContended : MemoryError → Bool
  | .frames _ | .noVictim | .swapExhausted _ | .staleVictim _ | .device _ => true
  | _ => false

namespace DeviceSet

/-- Why the active swap device cannot take some pages, if it cannot. -/
def shortage? (devices : DeviceSet) (slots : Nat) : Option MemoryError :=
  match devices.get? (.swap devices.active) with
  | none => some (.device (.noSuchSwapDevice devices.active))
  | some _ =>
    if (devices.freeOf (.swap devices.active)).length < slots then some (.swapExhausted devices.active) else none

variable {devices : DeviceSet} {slots : Nat} {reason : MemoryError}

theorem cases_of_shortage? (short : devices.shortage? slots = some reason) :
    reason = .device (.noSuchSwapDevice devices.active) ∨ reason = .swapExhausted devices.active := by
  unfold shortage? at short
  split at short
  · exact .inl (Option.some.inj short).symm
  · split at short
    · exact .inr (Option.some.inj short).symm
    · contradiction

theorem notStale_of_shortage? (short : devices.shortage? slots = some reason) : reason.isStale = false := by
  rcases cases_of_shortage? short with rfl | rfl <;> rfl

end DeviceSet

namespace Space

open Paging

variable {T : Type} [PageTable T] [TotalTable T] {stage : Stage T} {reserved : Set Home} {page frame : Nat}

section Reasons

omit [PageTable T] [TotalTable T]

variable {space : Space T} {id : Nat} {reason : MemoryError}

theorem area?_notStale (failed : space.area? id = .error reason) : reason.isStale = false := by
  unfold area? at failed
  split at failed
  · contradiction
  · exact Except.error.inj failed ▸ rfl

theorem slot?_notStale (failed : space.slot? id = .error reason) : reason.isStale = false := by
  unfold slot? at failed
  split at failed
  · contradiction
  · exact Except.error.inj failed ▸ rfl

private theorem bind_eq_error {α β : Type} {outcome : Except MemoryError α} {next : α → Except MemoryError β}
    (failed : (outcome >>= next) = .error reason) :
    outcome = .error reason ∨ ∃ answer, next answer = .error reason := by
  cases outcome with
  | error other => exact .inl (Except.error.inj failed ▸ rfl)
  | ok answer => exact .inr ⟨answer, failed⟩

theorem live?_notStale (failed : space.live? id = .error reason) : reason.isStale = false := by
  rcases bind_eq_error failed with failed | ⟨slot, failed⟩
  · exact slot?_notStale failed
  · cases slot with
    | none => exact Except.error.inj failed ▸ rfl
    | some live => contradiction

theorem region?_notStale (failed : space.region? id = .error reason) : reason.isStale = false := by
  rcases bind_eq_error failed with failed | ⟨live, failed⟩
  · exact live?_notStale failed
  · contradiction

theorem usage_notStale (failed : space.usage id = .error reason) : reason.isStale = false := by
  rcases bind_eq_error failed with failed | ⟨area, failed⟩
  · exact area?_notStale failed
  · contradiction

theorem covered_notStale {start stop : Nat} (failed : space.covered start stop = .error reason) :
    reason.isStale = false := by
  unfold covered at failed
  split at failed
  · contradiction
  · exact Except.error.inj failed ▸ rfl

theorem pageRange_notStale {geometry : Geometry} {start pages : Nat}
    (failed : space.pageRange geometry start pages = .error reason) : reason.isStale = false := by
  unfold pageRange at failed
  dsimp only at failed
  split at failed <;> split at failed
  · exact Except.error.inj failed ▸ rfl
  · exact Except.error.inj failed ▸ rfl
  · exact Except.error.inj failed ▸ rfl
  · rcases bind_eq_error failed with failed | ⟨_, failed⟩
    · exact covered_notStale failed
    · contradiction

end Reasons

/-- Why no room can be made in RAM. -/
inductive Starved {T : Type} (stage : Stage T) : MemoryError → Prop where
  | noVictim (idle : stage.space.resident.toList = []) : Starved stage .noVictim
  | noSlot {reason : MemoryError} (oldest : stage.space.resident.toList ≠ [])
    (short : stage.devices.shortage? 1 = some reason) : Starved stage reason

/-- A resident page was written to a slot that was in hand; its frame is in hand instead. -/
structure WrittenOut (before : Stage T) (reserved : Set Home) (page frame : Nat) (copy : SwapSlot)
    (after : Stage T) : Prop where
  custody : after.memory.Custody (insert (.ram, frame) reserved)
  apart : (.ram, frame) ∉ reserved
  keeps : before.Keeps reserved ∅ after
  resident : after.space.resident = before.space.resident
  lookup : ∀ other, after.memory.lookup other =
    if other = page then .ofSlot copy.device copy.slot else before.memory.lookup other
  state : (Entry.ofSlot copy.device copy.slot).state = .swapped copy.device copy.slot

theorem ends_writeOut {device slot : Nat}
    (custody : stage.memory.Custody (insert (.swap device, slot) reserved))
    (apart : (.swap device, slot) ∉ reserved) (named : stage.memory.homeOf page = some (.ram, frame)) :
    Ends (writeOut page frame device slot)
      (fun _ after => WrittenOut stage reserved page frame ⟨device, slot⟩ after) (fun _ _ => False) stage := by
  have fits := custody.lt_capacity named
  rw [writeOut, ends_bind]
  apply (ends_copyFrame custody apart (custody.inUse named)).sure
  intro _ middle filled
  have kept : middle.memory.homeOf page = some (.ram, frame) := (filled.homeOf page).trans named
  have held := filled.custody.accounts.inUse_of_mem (Set.mem_insert _ reserved)
  have entry := filled.custody.sound.home?_ofSlot held
  have within : page < middle.memory.capacity := filled.keeps.memory.capacity.symm ▸ fits
  apply (ends_write_of_lt within (.ofSlot device slot)).sure
  intro _ after entered
  have copied : middle.devices.bytesAt (.swap device, slot) = middle.memory.content page := by
    rw [filled.bytes, filled.keeps.memory.content page (Set.notMem_empty page)]
    exact (Memory.content_eq_bytesAt named).symm
  refine ⟨filled.custody.enters_of_some apart entered entry kept, ?_, filled.keeps.trans ⟨?_, entered.outline⟩,
    ?_, fun other => ?_, filled.custody.sound.state_ofSlot held⟩
  · exact fun member => custody.accounts.apart page _ named (Set.mem_insert_of_mem _ member)
  · refine entered.writes.keeps (fun home same => ?_) fun none => ?_
    · obtain rfl := Option.some.inj (entry.symm.trans same)
      exact copied
    · rw [entry] at none
      contradiction
  · rw [entered.resident, filled.space]
  · rw [entered.writes.lookup, filled.lookup]

theorem ends_swapOut (custody : stage.memory.Custody reserved)
    (named : stage.memory.homeOf page = some (.ram, frame)) :
    Ends (swapOut page frame)
      (fun copy after => copy.device = stage.devices.active ∧ stage.devices.shortage? 1 = none ∧
        WrittenOut stage reserved page frame copy after)
      (fun reason after => after = stage ∧ stage.devices.shortage? 1 = some reason) stage := by
  rw [swapOut, ends_bind, ends_onMachine, Machine.ends_activeSwap]
  cases found : stage.devices.get? (.swap stage.devices.active) with
  | none => exact ⟨rfl, by simp only [DeviceSet.shortage?, found]⟩
  | some device =>
    rw [ends_bind]
    apply (ends_acquire custody found).sure
    rintro answer middle (⟨rfl, rfl, taken⟩ | ⟨slot, rfl, taken⟩)
    · refine ⟨rfl, ?_⟩
      simp [DeviceSet.shortage?, found, taken]
    · have apart := taken.apart slot (List.mem_singleton_self slot)
      simp only [ends_bind, ends_attempt]
      apply (ends_writeOut taken.custody_insert apart ((taken.homeOf page).trans named)).sure
      intro _ after written
      have room : stage.devices.shortage? 1 = none := by
        simp [DeviceSet.shortage?, found, taken.takes.free]
      exact ⟨rfl, room, written.custody, written.apart, taken.keeps.trans written.keeps,
        by rw [written.resident, taken.space],
        fun other => by rw [written.lookup, taken.lookup], written.state⟩

/-- The oldest resident page was written out, and its frame is in hand. -/
structure Evicted (before : Stage T) (reserved : Set Home) (victim frame : Nat) (after : Stage T) : Prop where
  custody : after.memory.Custody (insert (.ram, frame) reserved)
  apart : (.ram, frame) ∉ reserved
  keeps : before.Keeps reserved ∅ after
  resident : before.space.resident.toList = victim :: after.space.resident.toList
  held : before.memory.homeOf victim = some (.ram, frame)
  room : before.devices.shortage? 1 = none
  swapped : ∃ slot, after.memory.homeOf victim = some (.swap before.devices.active, slot)
  others : ∀ other, other ≠ victim → after.memory.lookup other = before.memory.lookup other

/-- Nothing changed but the log. -/
structure Unmoved (before after : Stage T) : Prop where
  memory : after.memory = before.memory
  outline : before.space.SameOutline after.space
  resident : after.space.resident.toList = before.space.resident.toList

/-- An operation failed before it changed anything, and not because of a stale queue. -/
structure Rejected (before : Stage T) (reason : MemoryError) (after : Stage T) : Prop
    extends Unmoved before after where
  notStale : reason.isStale = false

omit [PageTable T] [TotalTable T] in
theorem Rejected.refl {reason : MemoryError} (notStale : reason.isStale = false) : Rejected stage reason stage :=
  ⟨⟨rfl, .refl _, rfl⟩, notStale⟩

/-- The head of the queue was not resident, and nothing changed but that it left the queue. -/
structure Stale (before : Stage T) (victim : Nat) (after : Stage T) : Prop where
  memory : after.memory = before.memory
  outline : before.space.SameOutline after.space
  resident : before.space.resident.toList = victim :: after.space.resident.toList
  gone : (before.memory.lookup victim).frame? = none

/-- No page could be evicted. -/
inductive Refused (before : Stage T) : MemoryError → Stage T → Prop where
  | starved {reason : MemoryError} {after : Stage T} (starved : Starved before reason)
    (unmoved : Unmoved before after) : Refused before reason after
  | stale {victim : Nat} {after : Stage T} (stale : Stale before victim after) :
    Refused before (.staleVictim victim) after

omit [TotalTable T] in
/-- A queue of resident pages is never stale. -/
theorem Refused.starved_of_queued {reason : MemoryError} {after : Stage T} (refused : Refused stage reason after)
    (queued : ∀ page ∈ stage.space.resident.toList, (stage.memory.lookup page).frame? ≠ none) :
    Starved stage reason ∧ Unmoved stage after := by
  cases refused with
  | starved starved unmoved => exact ⟨starved, unmoved⟩
  | @stale victim _ stale =>
    have head : victim ∈ stage.space.resident.toList := stale.resident ▸ List.mem_cons_self ..
    exact absurd stale.gone (queued victim head)

theorem ends_evictOldest (custody : stage.memory.Custody reserved) :
    Ends evictOldest (fun eviction after => Evicted stage reserved eviction.victim eviction.frame after)
      (fun reason after => Refused stage reason after) stage := by
  rw [evictOldest, ends_bind, ends_space]
  cases oldest : stage.space.resident.takeOldest? with
  | none => exact .starved (.noVictim (PageQueue.takeOldest?_eq_none_iff.mp oldest)) ⟨rfl, .refl _, rfl⟩
  | some pair =>
    obtain ⟨victim, rest⟩ := pair
    have queue := PageQueue.takeOldest?_eq_some oldest
    simp only [ends_bind, ends_modifySpace, ends_lookup]
    cases held : (PageTable.lookup stage.space.table victim).frame? with
    | none => exact .stale ⟨rfl, ⟨rfl, rfl, rfl⟩, queue, held⟩
    | some frame =>
      have named : stage.memory.homeOf victim = some (.ram, frame) := Memory.homeOf_eq_ram_iff.mpr held
      simp only [ends_bind, ends_attempt]
      let taken : Stage T := { stage with space := { stage.space with resident := rest } }
      have swaps := ends_swapOut (show taken.memory.Custody reserved from custody) named
      refine swaps.mono ?_ ?_
      · rintro copy after ⟨device, room, written⟩
        refine ⟨written.custody, written.apart, ⟨written.keeps.memory, ?_⟩, ?_, named, room, ?_, fun other away => ?_⟩
        · exact ⟨written.keeps.outline.populate, written.keeps.outline.areas, written.keeps.outline.regions⟩
        · exact queue.trans (congrArg (fun queue => victim :: PageQueue.toList queue) written.resident.symm)
        · refine ⟨copy.slot, Memory.homeOf_eq_swap_iff.mpr ?_⟩
          refine (congrArg Entry.state (written.lookup victim)).trans ?_
          rw [if_pos rfl, written.state, device]
        · exact (written.lookup other).trans (if_neg away)
      · rintro reason _ ⟨rfl, short⟩
        have oldest : stage.space.resident.toList ≠ [] := by
          rw [queue]
          exact List.cons_ne_nil _ _
        refine .starved (.noSlot oldest short) ⟨rfl, ⟨rfl, rfl, rfl⟩, ?_⟩
        exact (PageQueue.toList_putBack rest victim).trans queue.symm

/-- A frame is in hand, and the oldest resident page was written out for it if there is a victim. -/
structure Claimed (before : Stage T) (reserved : Set Home) (frame : Nat) (victim : Option Nat)
    (after : Stage T) : Prop where
  custody : after.memory.Custody (insert (.ram, frame) reserved)
  apart : (.ram, frame) ∉ reserved
  keeps : before.Keeps reserved ∅ after
  resident : before.space.resident.toList = victim.toList ++ after.space.resident.toList
  spare : victim = none ↔ before.devices.freeOf .ram ≠ []
  held : ∀ old, victim = some old → ∃ place, before.memory.homeOf old = some (.ram, place)
  room : ∀ old, victim = some old → before.devices.shortage? 1 = none
  swapped : ∀ old, victim = some old → ∃ slot, after.memory.homeOf old = some (.swap before.devices.active, slot)
  others : ∀ other, victim ≠ some other → after.memory.lookup other = before.memory.lookup other

/-- The victim was resident, so it is another page than the one that comes in. -/
theorem Claimed.ne_of_away {victim : Option Nat} {after : Stage T}
    (claimed : Claimed stage reserved frame victim after) (away : (stage.memory.lookup page).frame? = none) :
    victim ≠ some page := by
  intro same
  obtain ⟨place, held⟩ := claimed.held page same
  rw [Memory.homeOf_eq_ram_iff, away] at held
  contradiction

theorem ends_claimFrame (custody : stage.memory.Custody reserved) :
    Ends claimFrame
      (fun claim after => Claimed stage reserved claim.1 (claim.2.map Eviction.victim) after)
      (fun reason after => stage.devices.freeOf .ram = [] ∧ Refused stage reason after) stage := by
  rw [claimFrame, ends_bind]
  apply (ends_acquire custody (show stage.devices.get? .ram = some _ from rfl)).sure
  rintro answer middle (⟨rfl, rfl, full⟩ | ⟨frame, rfl, taken⟩)
  · rw [ends_bind]
    refine (ends_evictOldest custody).mono (fun eviction after evicted => ?_) fun _ _ refused => ⟨full, refused⟩
    simp only [ends_pure, Option.map_some]
    refine ⟨evicted.custody, evicted.apart, evicted.keeps, evicted.resident, ?_, ?_, ?_, ?_, fun other away => ?_⟩
    · simp [full]
    · rintro _ ⟨⟩
      exact ⟨_, evicted.held⟩
    · rintro _ ⟨⟩
      exact evicted.room
    · rintro _ ⟨⟩
      exact evicted.swapped
    · exact evicted.others other fun same => away (congrArg some same.symm)
  · simp only [ends_pure, Option.map_none]
    have unclaimed (claim : Nat → Prop) : ∀ old, none = some old → claim old := by rintro _ ⟨⟩
    refine ⟨taken.custody_insert, taken.apart frame (List.mem_singleton_self frame), taken.keeps, ?_, ?_, unclaimed _,
      unclaimed _, unclaimed _, fun other _ => taken.lookup other⟩
    · rw [taken.space]
      rfl
    · simp [taken.takes.free]

/-- The home of a page that is swapped. -/
def SwapSlot.home (copy : SwapSlot) : Home := (.swap copy.device, copy.slot)

theorem ends_fill {source : Option SwapSlot} (custody : stage.memory.Custody (insert (.ram, frame) reserved))
    (apart : (.ram, frame) ∉ reserved) (source_home : stage.memory.homeOf page = source.map SwapSlot.home) :
    Ends (fill source frame)
      (fun _ after => Filled stage reserved (.ram, frame) (stage.memory.content page) after)
      (fun _ _ => False) stage := by
  cases source with
  | none =>
    rw [Memory.content_eq_empty source_home]
    exact ends_zeroFrame custody apart
  | some copy =>
    rw [Memory.content_eq_bytesAt source_home]
    exact ends_copyFrame custody apart (custody.inUse source_home)

/-- What a fault in progress has in hand apart from its frame. -/
def SwapSlot.held (source : Option SwapSlot) (reserved : Set Home) : Set Home :=
  {home | source.map SwapSlot.home = some home} ∪ reserved

/-- A page has its frame and its bytes, and its old home is in hand. -/
structure Furnished (before : Stage T) (reserved : Set Home) (page frame : Nat) (source : Option SwapSlot)
    (after : Stage T) : Prop where
  custody : after.memory.Custody (SwapSlot.held source reserved)
  keeps : before.Keeps reserved ∅ after
  resident : after.space.resident = before.space.resident
  lookup : ∀ other, after.memory.lookup other = if other = page then .ofFrame frame else before.memory.lookup other
  homeOf : after.memory.homeOf page = some (.ram, frame)

theorem ends_furnish {source : Option SwapSlot} (custody : stage.memory.Custody (insert (.ram, frame) reserved))
    (apart : (.ram, frame) ∉ reserved) (source_home : stage.memory.homeOf page = source.map SwapSlot.home)
    (fits : page < stage.memory.capacity) :
    Ends (do fill source frame; install page frame)
      (fun _ after => Furnished stage reserved page frame source after) (fun _ _ => False) stage := by
  rw [ends_bind]
  apply (ends_fill custody apart source_home).sure
  intro _ middle filled
  have within : page < middle.memory.capacity := filled.keeps.memory.capacity.symm ▸ fits
  apply (ends_write_of_lt within (.ofFrame frame)).sure
  intro _ after entered
  have held := filled.custody.accounts.inUse_of_mem (Set.mem_insert _ reserved)
  have entry := filled.custody.sound.home?_ofFrame held
  refine ⟨?_, filled.keeps.trans ⟨?_, entered.outline⟩, ?_, fun other => ?_, ?_⟩
  · have moved := filled.custody.enters apart entered entry
    rwa [filled.homeOf, source_home] at moved
  · refine entered.writes.keeps (fun home same => ?_) fun none => ?_
    · obtain rfl := Option.some.inj (entry.symm.trans same)
      exact filled.bytes.trans (filled.keeps.memory.content page (Set.notMem_empty page)).symm
    · rw [entry] at none
      contradiction
  · rw [entered.resident, filled.space]
  · rw [entered.writes.lookup, filled.lookup]
  · rw [entered.writes.homeOf, if_pos rfl, entry]

/-- A page that has its frame is enlisted, and the slot it came from is free again. -/
theorem ends_enlist {source : Option SwapSlot} (custody : stage.memory.Custody (SwapSlot.held source reserved))
    (apart : ∀ copy, source = some copy → copy.home ∉ reserved) :
    Ends (enlist page frame source)
      (fun _ after => after.memory.Custody reserved ∧ stage.Keeps reserved ∅ after ∧
        after.memory.table = stage.memory.table ∧
        after.space.resident.toList = stage.space.resident.toList ++ [page])
      (fun _ _ => False) stage := by
  cases source with
  | none =>
    simp only [SwapSlot.held, Option.map_none, reduceCtorEq, Set.ofPred_false, Set.empty_union] at custody
    simp only [enlist, ends_bind, ends_emit, ends_modifySpace]
    exact ⟨custody, ⟨.refl _, ⟨rfl, rfl, rfl⟩⟩, rfl, PageQueue.toList_push _ page⟩
  | some copy =>
    simp only [SwapSlot.held, Option.map_some, Option.some.injEq, Set.ofPred_eq_eq_singleton',
      Set.singleton_union] at custody
    simp only [enlist, ends_bind, ends_reporting, ends_emit, ends_modifySpace]
    apply (ends_release custody (apart copy rfl)).sure
    intro _ after returned
    refine ⟨returned.custody, ⟨returned.keeps.memory, ?_⟩, returned.table, ?_⟩
    · exact ⟨returned.keeps.outline.populate, returned.keeps.outline.areas, returned.keeps.outline.regions⟩
    · rw [PageQueue.toList_push, returned.space]

/-- A page that was not resident came in as the newest, in the place of the victim if there is one. -/
structure PagedIn (before : Stage T) (page frame : Nat) (victim : Option Nat) (after : Stage T) : Prop where
  away : (before.memory.lookup page).frame? = none
  entry : after.memory.lookup page = .ofFrame frame
  resident : ∃ rest, before.space.resident.toList = victim.toList ++ rest ∧
    after.space.resident.toList = rest ++ [page]
  spare : victim = none ↔ before.devices.freeOf .ram ≠ []
  held : ∀ old, victim = some old → ∃ place, before.memory.homeOf old = some (.ram, place)
  room : ∀ old, victim = some old → before.devices.shortage? 1 = none
  swapped : ∀ old, victim = some old → ∃ slot, after.memory.homeOf old = some (.swap before.devices.active, slot)
  others : ∀ other, other ≠ page → victim ≠ some other →
    after.memory.lookup other = before.memory.lookup other

/-- Why a fault fails, and what is left then. -/
inductive Declined (before : Stage T) (page : Nat) : MemoryError → Stage T → Prop where
  | outOfRange (beyond : before.memory.capacity ≤ page) :
    Declined before page (.table (.outOfRange page before.memory.capacity)) before
  | noRoom {reason : MemoryError} {after : Stage T} (fits : page < before.memory.capacity)
    (away : (before.memory.lookup page).frame? = none) (full : before.devices.freeOf .ram = [])
    (refused : Refused before reason after) : Declined before page reason after

/-- A page that came in, and what every operation of this kind keeps. -/
structure Resolved (before : Stage T) (reserved : Set Home) (page frame : Nat) (after : Stage T) : Prop where
  custody : after.memory.Custody reserved
  keeps : before.Keeps reserved ∅ after
  homeOf : after.memory.homeOf page = some (.ram, frame)
  change : Unmoved before after ∨ ∃ victim, PagedIn before page frame victim after

theorem ends_faultIn {source : Option SwapSlot} (custody : stage.memory.Custody reserved)
    (source_home : stage.memory.homeOf page = source.map SwapSlot.home) :
    Ends (faultIn page source) (fun frame after => Resolved stage reserved page frame after)
      (fun reason after => Declined stage page reason after) stage := by
  have away : (stage.memory.lookup page).frame? = none := by
    cases held : (stage.memory.lookup page).frame? with
    | none => rfl
    | some place =>
      rw [Memory.homeOf_eq_ram_iff.mpr held] at source_home
      cases source <;> simp [SwapSlot.home] at source_home
  simp only [faultIn, ends_bind, ends_space, ends_ite, ends_throw]
  refine ⟨fun beyond => .outOfRange beyond, fun fits => ?_⟩
  refine (ends_claimFrame custody).mono ?_ fun _ _ failed =>
    .noRoom (Nat.lt_of_not_le fits) away failed.1 failed.2
  rintro ⟨frame, eviction⟩ claimedAt claimed
  have distinct : eviction.map Eviction.victim ≠ some page := claimed.ne_of_away away
  have source_now : claimedAt.memory.homeOf page = source.map SwapSlot.home := by
    rw [Memory.homeOf, claimed.others page distinct]
    exact source_home
  have within : page < claimedAt.memory.capacity :=
    claimed.keeps.memory.capacity.symm ▸ Nat.lt_of_not_le fits
  rw [ends_bind, ends_attempt]
  apply (ends_furnish claimed.custody claimed.apart source_now within).sure
  intro _ furnishedAt furnished
  have slot_apart : ∀ copy, source = some copy → copy.home ∉ reserved := by
    rintro copy rfl
    exact custody.accounts.apart page _ source_home
  rw [ends_bind]
  apply (ends_enlist furnished.custody slot_apart).sure
  rintro _ after ⟨custody_now, keeps, table, resident⟩
  have lookup (other : Nat) : after.memory.lookup other = furnishedAt.memory.lookup other := by
    rw [Memory.lookup, table, Memory.lookup]
  have others (other : Nat) (away : other ≠ page) : after.memory.lookup other = claimedAt.memory.lookup other := by
    rw [lookup, furnished.lookup, if_neg away]
  refine ⟨custody_now, (claimed.keeps.trans furnished.keeps).trans keeps, ?_,
    .inr ⟨_, away, ?_, ?_, claimed.spare, claimed.held, claimed.room, ?_, ?_⟩⟩
  · rw [Memory.homeOf, lookup]
    exact furnished.homeOf
  · rw [lookup, furnished.lookup, if_pos rfl]
  · exact ⟨_, claimed.resident, by rw [resident, furnished.resident]⟩
  · intro old victim
    have elsewhere : old ≠ page := fun same => distinct (same ▸ victim)
    rw [Memory.homeOf, others old elsewhere]
    exact claimed.swapped old victim
  · intro other elsewhere spared
    rw [others other elsewhere, claimed.others other spared]

theorem ends_resolve (custody : stage.memory.Custody reserved) (page : Nat) :
    Ends (resolve page) (fun frame after => Resolved stage reserved page frame after)
      (fun reason after => Declined stage page reason after) stage := by
  simp only [resolve, ends_bind, ends_lookup]
  cases state : (PageTable.lookup stage.space.table page).state with
  | absent => exact ends_faultIn custody (Memory.homeOf_eq_none_iff.mpr state)
  | swapped device slot => exact ends_faultIn custody (Memory.homeOf_eq_swap_iff.mpr state)
  | present frame dirty =>
    have held : stage.memory.homeOf page = some (.ram, frame) :=
      Memory.homeOf_eq_ram_iff.mpr (Entry.frame?_eq_some_iff.mpr ⟨dirty, state⟩)
    exact ⟨custody, ⟨.refl _, .refl _⟩, held, .inl ⟨rfl, .refl _, rfl⟩⟩

namespace Declined

variable {reason : MemoryError} {after : Stage T} (declined : Declined stage page reason after)
include declined

omit [TotalTable T] in
theorem memory : after.memory = stage.memory := by
  cases declined with
  | outOfRange beyond => rfl
  | noRoom _ _ full refused =>
    cases refused with
    | starved _ unmoved => exact unmoved.memory
    | stale stale => exact stale.memory

omit [TotalTable T] in
theorem outline : stage.space.SameOutline after.space := by
  cases declined with
  | outOfRange beyond => exact .refl _
  | noRoom _ _ full refused =>
    cases refused with
    | starved _ unmoved => exact unmoved.outline
    | stale stale => exact stale.outline

theorem custody (custody : stage.memory.Custody reserved) : after.memory.Custody reserved :=
  declined.memory ▸ custody

omit [TotalTable T] in
theorem keeps : stage.Keeps reserved ∅ after := ⟨declined.memory ▸ .refl _, declined.outline⟩

end Declined

end Space

end DemandPaging
