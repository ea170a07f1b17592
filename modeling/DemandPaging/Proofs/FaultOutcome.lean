import DemandPaging.Proofs.NoSharing
import DemandPaging.Proofs.Rollback

/-! # The outcome of a fault

What a fault does is decided before it does anything. A new page gets the first free frame of RAM. If
there is none it gets the frame of the oldest page, and that page goes to the first free slot of the
active swap device; `supply` says which frame, which page and which slot, or what is missing. The fault
then changes two entries at most, brings in the bytes of its page and gives back the slot they came from.
Everything else that is in use keeps its bytes, its entry and its place.
-/

namespace DemandPaging

namespace DeviceSet

variable {devices next : DeviceSet}

/-- The old home of a page is free again, if it had one. -/
structure GivesUp (devices : DeviceSet) (old : Option Home) (next : DeviceSet) : Prop where
  layout : next.layout = devices.layout
  inUse : ∀ home, next.InUse home ↔ old ≠ some home ∧ devices.InUse home
  bytes : ∀ home, next.bytesAt home = devices.bytesAt home
  freed : ∀ home, old = some home → home.2 ∈ next.freeOf home.1

theorem GivesUp.none (devices : DeviceSet) : devices.GivesUp none devices where
  layout := rfl
  inUse _ := by simp
  bytes _ := rfl
  freed _ := nofun

theorem Returns.givesUp {home : Home} (returns : devices.Returns home next) : devices.GivesUp (some home) next where
  layout := returns.layout
  inUse other := by
    rw [returns.inUse, ne_comm, ne_eq, ne_eq, Option.some.injEq]
  bytes := returns.bytes
  freed := by
    rintro _ ⟨⟩
    rw [returns.free]
    exact List.mem_cons_self

theorem isEmpty_swaps {index : Nat} {device : Device} (found : devices.get? (.swap index) = some device) :
    devices.swaps.isEmpty = false := by
  rw [List.isEmpty_eq_false_iff]
  exact List.ne_nil_of_mem (List.mem_of_getElem? found)

/-- A device with a free frame is there. -/
theorem exists_of_freeOf_eq_cons {id : DeviceId} {frame : Nat} {rest : List Nat}
    (free : devices.freeOf id = frame :: rest) : ∃ device, devices.get? id = some device := by
  cases found : devices.get? id with
  | none => simp [freeOf, found] at free
  | some device => exact ⟨device, rfl⟩

end DeviceSet

namespace Space

open Paging

section Outcomes

variable {T : Type} [PageTable T]

/-- Where a new page gets its frame, and the page that leaves for it with the slot it gets, or why there is none. -/
def supply (stage : Stage T) : Except MemoryError (Nat × Option (Nat × SwapSlot)) :=
  match stage.devices.freeOf .ram, stage.space.resident.toList with
  | frame :: _, _ => .ok (frame, none)
  | [], [] => .error .noVictim
  | [], victim :: _ =>
    if stage.devices.swaps.isEmpty then .error (.device (.noSuchSwapDevice stage.devices.active))
    else
      match stage.devices.freeOf (.swap stage.devices.active), (PageTable.lookup stage.space.table victim).frame? with
      | [], _ => .error (.swapExhausted stage.devices.active)
      | slot :: _, some frame => .ok (frame, some (victim, ⟨stage.devices.active, slot⟩))
      | _ :: _, none => .error (.staleVictim victim)

/-- A page that was not resident came in, and at most one other page went out for it. -/
structure FaultedIn (before : Stage T) (page frame : Nat) (victim : Option (Nat × SwapSlot)) (after : Stage T) :
    Prop where
  state : (after.memory.lookup page).state = .present frame false
  swapped : ∀ old copy, victim = some (old, copy) →
    (after.memory.lookup old).state = .swapped copy.device copy.slot
  others : ∀ other, other ≠ page → (∀ copy, victim ≠ some (other, copy)) →
    after.memory.lookup other = before.memory.lookup other
  resident : ∃ rest, before.space.resident.toList = (victim.map Prod.fst).toList ++ rest ∧
    after.space.resident.toList = rest ++ [page]
  /-- The bytes of the old slot, or zeros. -/
  content : after.devices.bytesAt (.ram, frame) = before.memory.content page
  copied : ∀ old copy, victim = some (old, copy) →
    after.devices.bytesAt copy.home = before.devices.bytesAt (.ram, frame)
  bytes : ∀ home, before.devices.InUse home → home ≠ (.ram, frame) →
    after.devices.bytesAt home = before.devices.bytesAt home
  inUse : ∀ home, after.devices.InUse home ↔ before.memory.homeOf page ≠ some home ∧
    (home = (.ram, frame) ∨ (∃ old copy, victim = some (old, copy) ∧ home = copy.home) ∨ before.devices.InUse home)
  freed : ∀ home, before.memory.homeOf page = some home → home.2 ∈ after.devices.freeOf home.1
  layout : after.devices.layout = before.devices.layout
  outline : before.space.SameOutline after.space

/-- How a fault ends. -/
inductive FaultOutcome (before : Stage T) (page : Nat) : Except MemoryError Nat → Stage T → Prop where
  | resident {frame : Nat} {after : Stage T} (held : (before.memory.lookup page).frame? = some frame)
    (devices : after.devices = before.devices) (space : after.space = before.space) :
    FaultOutcome before page (.ok frame) after
  | denied {reason : MemoryError} {after : Stage T} (away : (before.memory.lookup page).frame? = none)
    (supply : supply before = .error reason) (unmoved : Unmoved before after) :
    FaultOutcome before page (.error reason) after
  | supplied {frame : Nat} {victim : Option (Nat × SwapSlot)} {after : Stage T}
    (away : (before.memory.lookup page).frame? = none) (supply : supply before = .ok (frame, victim))
    (faulted : FaultedIn before page frame victim after) : FaultOutcome before page (.ok frame) after

end Outcomes

section Supply

variable {T : Type} [PageTable T] {before stage claimed : Stage T} {page frame : Nat}

def Eviction.leaves (eviction : Eviction) : Nat × SwapSlot := (eviction.victim, eviction.copy)

/-- A frame is in hand, and nothing that was in use has other bytes. -/
structure Supplied (before : Stage T) (frame : Nat) (victim : Option (Nat × SwapSlot)) (after : Stage T) : Prop where
  sound : after.devices.Sound
  layout : after.devices.layout = before.devices.layout
  held : after.devices.InUse (.ram, frame)
  inUse : ∀ home, after.devices.InUse home ↔ home = (.ram, frame) ∨
    (∃ old copy, victim = some (old, copy) ∧ home = copy.home) ∨ before.devices.InUse home
  bytes : ∀ home, before.devices.InUse home → after.devices.bytesAt home = before.devices.bytesAt home
  copied : ∀ old copy, victim = some (old, copy) →
    after.devices.bytesAt copy.home = before.devices.bytesAt (.ram, frame)
  left : ∀ old copy, victim = some (old, copy) → (before.memory.lookup old).frame? = some frame ∧
    (after.memory.lookup old).state = .swapped copy.device copy.slot
  others : ∀ other, (∀ copy, victim ≠ some (other, copy)) →
    after.memory.lookup other = before.memory.lookup other
  resident : before.space.resident.toList = (victim.map Prod.fst).toList ++ after.space.resident.toList
  outline : before.space.SameOutline after.space

theorem FrameClaimed.supplied [LawfulTable T] {eviction : Option Eviction}
    (claim : FrameClaimed before (frame, eviction) claimed) :
    Supplied before frame (eviction.map Eviction.leaves) claimed := by
  have held := claim.held
  cases claim with
  | spare borrows space =>
    constructor
    case inUse => simpa using borrows.inUse
    case others =>
      intro other _
      exact congrArg (fun space => PageTable.lookup space.table other) space
    case resident => rw [space]; rfl
    case outline => rw [space]; exact .refl _
    case copied => exact nofun
    case left => exact nofun
    case sound => exact borrows.sound
    case layout => exact borrows.layout
    case held => exact held
    case bytes => exact borrows.bytes
  | @displaced eviction _ displaced =>
    have borrows := displaced.borrows
    have lookup := LawfulTable.lookup_write displaced.marked
    constructor
    case inUse =>
      intro home
      rw [borrows.inUse]
      simp only [Option.map_some, Eviction.leaves, Option.some.injEq, Prod.mk.injEq]
      constructor
      · rintro (rfl | used)
        · exact .inr (.inl ⟨_, _, ⟨rfl, rfl⟩, rfl⟩)
        · exact .inr (.inr used)
      · rintro (rfl | ⟨_, _, ⟨rfl, rfl⟩, rfl⟩ | used)
        · exact .inr displaced.held
        · exact .inl rfl
        · exact .inr used
    case copied =>
      rintro _ _ ⟨⟩
      exact displaced.copied
    case left =>
      rintro _ _ ⟨⟩
      constructor
      · exact (congrArg Entry.frame? displaced.entry).symm.trans displaced.frame
      · refine (congrArg Entry.state (lookup eviction.victim)).trans ?_
        rw [if_pos rfl]
        exact borrows.sound.state_ofSlot borrows.held
    case others =>
      intro other spared
      refine (lookup other).trans (if_neg ?_)
      rintro rfl
      exact spared _ rfl
    case resident => exact displaced.queue
    case outline => exact displaced.outline
    case sound => exact borrows.sound
    case layout => exact borrows.layout
    case held => exact held
    case bytes => exact borrows.bytes

/-- A frame that is free is supplied. -/
theorem supply_of_borrows {next : DeviceSet} (borrows : before.devices.Borrows (.ram, frame) next) :
    supply before = .ok (frame, none) := by
  have free : before.devices.freeOf .ram = frame :: next.freeOf .ram := borrows.free
  simp only [supply, free]

/-- The slot that the oldest page went to is the one that is supplied. -/
theorem supply_of_displaced {eviction : Eviction} (displaced : Displaced before eviction claimed)
    (full : before.devices.freeOf .ram = []) (active : eviction.copy.device = before.devices.active) :
    supply before = .ok (eviction.frame, some eviction.leaves) := by
  have free : before.devices.freeOf (.swap before.devices.active) = eviction.copy.slot :: _ :=
    active ▸ displaced.borrows.free
  have frame : (PageTable.lookup before.space.table eviction.victim).frame? = some eviction.frame :=
    displaced.entry ▸ displaced.frame
  obtain ⟨device, found⟩ := DeviceSet.exists_of_freeOf_eq_cons free
  simp only [supply, full, displaced.queue, DeviceSet.isEmpty_swaps found, free, frame, Bool.false_eq_true, if_false]
  rw [← active]
  rfl

/-- What starves a fault is what is missing from the supply. -/
theorem supply_of_starved {reason : MemoryError} (full : before.devices.freeOf .ram = [])
    (steered : before.devices.swaps ≠ [] → before.devices.active < before.devices.swaps.length)
    (starved : Starved before reason) : supply before = .error reason := by
  cases starved with
  | noVictim idle => simp only [supply, full, idle]
  | noSlot oldest short =>
    obtain ⟨victim, rest, queue⟩ := List.exists_cons_of_ne_nil oldest
    unfold DeviceSet.shortage? at short
    split at short
    · next missing =>
      have none_there : before.devices.swaps = [] := by
        by_contra some_there
        exact absurd (List.getElem?_eq_none_iff.mp missing) (Nat.not_le.mpr (steered some_there))
      simp only [supply, full, queue, none_there, List.isEmpty_nil, if_true]
      exact congrArg Except.error (Option.some.inj short)
    · next device found =>
      split at short
      · next few =>
        have none_free := List.length_eq_zero_iff.mp (Nat.lt_one_iff.mp few)
        simp only [supply, full, queue, DeviceSet.isEmpty_swaps found, none_free, Bool.false_eq_true, if_false]
        exact congrArg Except.error (Option.some.inj short)
      · contradiction

omit [PageTable T] in
/-- The end of a fault gives back the old slot and lists the page as the newest. -/
theorem ends_enlist_of_inUse {source : Option SwapSlot} (sound : stage.devices.Sound)
    (kept : ∀ copy, source = some copy → stage.devices.InUse copy.home) :
    Ends (enlist page frame source)
      (fun _ after => stage.devices.GivesUp (source.map SwapSlot.home) after.devices ∧
        after.space = { stage.space with resident := stage.space.resident.push page })
      (fun _ _ => False) stage := by
  cases source with
  | none =>
    simp only [enlist, ends_bind, ends_emit, ends_modifySpace, and_true]
    exact .none _
  | some copy =>
    simp only [enlist, ends_bind, ends_reporting, ends_emit, ends_modifySpace, ends_onMachine, and_true]
    apply (Machine.ends_release sound (kept copy rfl)).sure
    exact fun _ _ returns => returns.givesUp

/-- A supplied frame gets the bytes of the page, the page gets the frame, and its old slot is given up. -/
theorem Supplied.faultedIn [LawfulTable T] {victim : Option (Nat × SwapSlot)} {source : Option SwapSlot}
    {filled after : Stage T} (supplied : Supplied before frame victim claimed)
    (inUse : ∀ page home, before.memory.homeOf page = some home → before.devices.InUse home)
    (source_home : before.memory.homeOf page = source.map SwapSlot.home)
    (away : (before.memory.lookup page).frame? = none)
    (stores : claimed.devices.Stores (.ram, frame) (SwapSlot.bytesOf source claimed.devices) filled.devices)
    (installed : PageTable.install claimed.space.table page frame = .ok filled.space.table)
    (space : filled.space = { claimed.space with table := filled.space.table })
    (gives : filled.devices.GivesUp (source.map SwapSlot.home) after.devices)
    (listed : after.space = { filled.space with resident := filled.space.resident.push page }) :
    FaultedIn before page frame victim after := by
  have lookup (other : Nat) : after.memory.lookup other =
      if other = page then .ofFrame frame else claimed.memory.lookup other := by
    rw [Memory.lookup, Stage.memory, listed]
    exact LawfulTable.lookup_write installed other
  constructor
  case state =>
    rw [lookup, if_pos rfl]
    exact supplied.sound.state_ofFrame supplied.held
  case swapped =>
    intro old copy chosen
    obtain ⟨resident, swapped⟩ := supplied.left old copy chosen
    rw [lookup, if_neg]
    · exact swapped
    · rintro rfl
      rw [away] at resident
      contradiction
  case others =>
    intro other distinct spared
    rw [lookup, if_neg distinct, supplied.others other spared]
  case resident =>
    refine ⟨_, supplied.resident, ?_⟩
    rw [listed, PageQueue.toList_push, space]
  case content =>
    rw [gives.bytes, stores.bytes, if_pos rfl]
    cases source with
    | none => exact (Memory.content_eq_empty source_home).symm
    | some copy =>
      rw [Memory.content_eq_bytesAt source_home]
      exact supplied.bytes _ (inUse page _ source_home)
  case copied =>
    intro old copy chosen
    have elsewhere : copy.home ≠ (.ram, frame) := by simp [SwapSlot.home]
    rw [gives.bytes, stores.bytes, if_neg elsewhere, supplied.copied old copy chosen]
  case bytes =>
    intro home held distinct
    rw [gives.bytes, stores.bytes, if_neg distinct, supplied.bytes home held]
  case inUse =>
    intro home
    rw [gives.inUse, stores.inUse, supplied.inUse, source_home]
  case freed =>
    intro home named
    exact gives.freed home (source_home.symm.trans named)
  case layout => exact gives.layout.trans (stores.layout.trans supplied.layout)
  case outline =>
    rw [listed, space]
    exact ⟨supplied.outline.populate, supplied.outline.areas, supplied.outline.regions⟩

end Supply

section Faults

variable {T : Type} [PageTable T] [TotalTable T] {stage : Stage T} {reserved : Set Home} {page : Nat}
  (custody : stage.memory.Custody reserved)
  (queued : ∀ page ∈ stage.space.resident.toList, (stage.memory.lookup page).frame? ≠ none)
  (steered : stage.devices.swaps ≠ [] → stage.devices.active < stage.devices.swaps.length)

include custody queued steered

/-- A frame is claimed as the supply says, or what is missing is missing. -/
theorem ends_claimFrame_of_supply :
    Ends claimFrame
      (fun claim after => Claimed stage reserved claim.1 (claim.2.map Eviction.victim) after ∧
        FrameClaimed stage claim after ∧ supply stage = .ok (claim.1, claim.2.map Eviction.leaves))
      (fun reason after => supply stage = .error reason ∧ Unmoved stage after) stage := by
  have exact_claim := ends_claimFrame_of_queued custody.sound queued fun _ _ named => custody.inUse named
  apply ((ends_claimFrame custody).and exact_claim).mono
  · rintro ⟨frame, eviction⟩ after ⟨claimed, claim⟩
    have supplied := claim.supplied
    refine ⟨claimed, claim, ?_⟩
    cases claim with
    | spare borrows _ => exact supply_of_borrows borrows
    | @displaced eviction _ displaced =>
      have full : stage.devices.freeOf .ram = [] := by
        by_contra spare
        exact Option.some_ne_none _ (claimed.spare.mpr spare)
      obtain ⟨slot, swapped⟩ := claimed.swapped _ rfl
      have state := (supplied.left _ _ rfl).2
      rw [Memory.homeOf_eq_swap_iff.mp swapped] at state
      exact supply_of_displaced displaced full (EntryState.swapped.inj state).1.symm
  · rintro reason after ⟨⟨full, refused⟩, -⟩
    obtain ⟨starved, unmoved⟩ := refused.starved_of_queued queued
    exact ⟨supply_of_starved full steered starved, unmoved⟩

theorem ends_faultIn_of_supply {source : Option SwapSlot}
    (source_home : stage.memory.homeOf page = source.map SwapSlot.home)
    (away : (stage.memory.lookup page).frame? = none) (fits : page < stage.memory.capacity) :
    Ends (faultIn page source) (fun frame after => FaultOutcome stage page (.ok frame) after)
      (fun reason after => FaultOutcome stage page (.error reason) after) stage := by
  simp only [faultIn, ends_bind, ends_space, ends_ite, ends_throw]
  constructor
  · intro beyond
    exact absurd fits (Nat.not_lt.mpr beyond)
  intro _
  apply (ends_claimFrame_of_supply custody queued steered).mono
  · rintro ⟨frame, eviction⟩ claimedAt ⟨claimed, claim, supply⟩
    have source_now : claimedAt.memory.homeOf page = source.map SwapSlot.home := by
      rw [Memory.homeOf, claimed.others page (claimed.ne_of_away away)]
      exact source_home
    have within : page < claimedAt.memory.capacity := claimed.keeps.memory.capacity.symm ▸ fits
    have kept (copy) (same : source = some copy) : stage.devices.InUse copy.home :=
      custody.inUse (source_home.trans (congrArg (Option.map SwapSlot.home) same))
    rw [ends_bind, ends_attempt]
    apply ((ends_furnish claimed.custody claimed.apart source_now within).and
      (ends_furnish_of_inUse claim.sound claim.held fun copy same => claim.inUse_of_inUse (kept copy same))).mono
    · rintro _ furnished ⟨-, stores, table, installed, space⟩
      have kept_now (copy) (same : source = some copy) : furnished.devices.InUse copy.home :=
        (stores.inUse _).mpr (claim.inUse_of_inUse (kept copy same))
      rw [ends_bind]
      apply (ends_enlist_of_inUse stores.sound kept_now).sure
      rintro _ after ⟨gives, listed⟩
      obtain rfl : table = furnished.space.table := by rw [space]
      apply FaultOutcome.supplied away supply
      exact claim.supplied.faultedIn (fun _ _ => custody.inUse) source_home away stores installed space gives listed
    · rintro _ _ ⟨never, -⟩
      exact never.elim
  · rintro reason after ⟨supply, unmoved⟩
    exact .denied away supply unmoved

theorem ends_resolve_of_supply (fits : page < stage.memory.capacity) :
    Ends (resolve page) (fun frame after => FaultOutcome stage page (.ok frame) after)
      (fun reason after => FaultOutcome stage page (.error reason) after) stage := by
  simp only [resolve, ends_bind, ends_lookup]
  cases state : (PageTable.lookup stage.space.table page).state with
  | present frame dirty => exact .resident (Entry.frame?_eq_some_iff.mpr ⟨dirty, state⟩) rfl rfl
  | absent =>
    have away : (stage.memory.lookup page).frame? = none := by
      simp only [Memory.lookup, Stage.memory, Entry.frame?, state]
    exact ends_faultIn_of_supply custody queued steered (Memory.homeOf_eq_none_iff.mpr state) away fits
  | swapped device slot =>
    have away : (stage.memory.lookup page).frame? = none := by
      simp only [Memory.lookup, Stage.memory, Entry.frame?, state]
    exact ends_faultIn_of_supply custody queued steered (Memory.homeOf_eq_swap_iff.mpr state) away fits

end Faults

end Space

namespace Host

/-- How resolving a page of a space ends is decided by its entry, the queue and the free lists, and no other space
has a part in it. -/
theorem resolve_outcome {host : Host StandardTable} (exclusive : host.Exclusive) {number : Nat}
    {space : Space StandardTable} (found : host.space? number = some space)
    (queued : ∀ page ∈ space.resident.toList, (PageTable.lookup space.table page).frame? ≠ none)
    (steered : host.machine.devices.swaps ≠ [] → host.machine.devices.active < host.machine.devices.swaps.length)
    {page : Nat} (fits : page < PageTable.capacity space.table) :
    ∃ outcome after, host.run number (Space.resolve page) = (some outcome, host.put number after) ∧
      Space.FaultOutcome (host.stage space) page outcome after ∧
      ∀ other, other ≠ number → (host.put number after).space? other = host.space? other := by
  have ends := Space.ends_resolve_of_supply (exclusive.stage found) queued steered fits
  have alone (after : Stage StandardTable) (other : Nat) (distinct : other ≠ number) :
      (host.put number after).space? other = host.space? other := by
    rw [put, space?_set _ _ (lt_length found), if_neg distinct]
  rw [run_eq found]
  rcases onStage_of_ends ends with ⟨frame, after, ran, outcome⟩ | ⟨reason, after, ran, outcome⟩
  · rw [ran]
    exact ⟨_, after, rfl, outcome, alone after⟩
  · rw [ran]
    exact ⟨_, after, rfl, outcome, alone after⟩

/-- Page 0 comes back from its slot for page 1, which goes to the other one. -/
theorem resolve_outcome_of_crowded :
    ∃ machine space after, MemoryConfig.cramped.build = .ok machine ∧
      ((start machine).after crowdedRun).space? 0 = some space ∧
      (∀ page ∈ space.resident.toList, (PageTable.lookup space.table page).frame? ≠ none) ∧
      0 < PageTable.capacity space.table ∧
      Space.supply (((start machine).after crowdedRun).stage space) = .ok (0, some (1, ⟨0, 1⟩)) ∧
      ((start machine).after crowdedRun).run 0 (Space.resolve 0) =
        (some (.ok 0), ((start machine).after crowdedRun).put 0 after) ∧
      Space.FaultOutcome (((start machine).after crowdedRun).stage space) 0 (.ok 0) after ∧
      ∀ other, other ≠ 0 → (((start machine).after crowdedRun).put 0 after).space? other =
        ((start machine).after crowdedRun).space? other := by
  obtain ⟨machine, space, built, found, queued, fits, steered, supply, answer⟩ :
      ∃ machine space, MemoryConfig.cramped.build = .ok machine ∧
        ((start machine).after crowdedRun).space? 0 = some space ∧
        (∀ page ∈ space.resident.toList, (PageTable.lookup space.table page).frame? ≠ none) ∧
        0 < PageTable.capacity space.table ∧
        ((start machine).after crowdedRun).machine.devices.active <
          ((start machine).after crowdedRun).machine.devices.swaps.length ∧
        Space.supply (((start machine).after crowdedRun).stage space) = .ok (0, some (1, ⟨0, 1⟩)) ∧
        (((start machine).after crowdedRun).run 0 (Space.resolve 0)).1 = some (.ok 0) :=
    ⟨_, _, rfl, rfl, by decide +kernel, by decide +kernel, by decide +kernel, by decide +kernel, by decide +kernel⟩
  obtain ⟨outcome, after, ran, fault, alone⟩ := resolve_outcome (custody_after built (by decide) crowdedRun).exclusive
    found queued (fun _ => steered) fits
  rw [ran] at answer
  obtain rfl := Option.some.inj answer
  exact ⟨machine, space, after, built, found, queued, fits, supply, ran, fault, alone⟩

end Host

end DemandPaging
