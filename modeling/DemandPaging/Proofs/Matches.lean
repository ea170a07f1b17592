import DemandPaging.Proofs.Solo
import DemandPaging.Proofs.Twins

/-! # Spaces that differ in their frames alone

Two stages match when their spaces have one outline and one queue and keep each page on the same device of
machines of one layout. Which frame of the device that is may differ, and so may the bytes, unless the match
is faithful. Matching spaces with machines of their own have as many frames free, so they are refused the
same pages for the same reasons, lose the same page to a fault, and match again afterwards.
-/

namespace DemandPaging

variable {T : Type} [PageTable T]

/-- The two stages differ at most in which frames keep which pages and, unless they are faithful, in the bytes. -/
structure Stage.Matches (faithful : Prop) (one other : Stage T) : Prop where
  outline : one.space.SameOutline other.space
  layout : other.devices.layout = one.devices.layout
  capacity : other.memory.capacity = one.memory.capacity
  resident : other.space.resident.toList = one.space.resident.toList
  deviceOf : ∀ page, other.memory.deviceOf page = one.memory.deviceOf page
  byteAt : faithful → ∀ address, other.memory.byteAt address = one.memory.byteAt address

namespace Stage.Matches

variable {faithful : Prop} {one other after next : Stage T} (matched : one.Matches faithful other)
include matched

theorem geometry : other.devices.geometry = one.devices.geometry :=
  congrArg DeviceSet.Layout.geometry matched.layout

theorem pageRange (start pages : Nat) : other.space.pageRange other.devices.geometry start pages =
    one.space.pageRange one.devices.geometry start pages := by rw [matched.outline.pageRange, matched.geometry]

theorem active : other.devices.active = one.devices.active := congrArg DeviceSet.Layout.active matched.layout

theorem alike (holds : faithful) : one.Alike other where
  outline := matched.outline
  geometry := matched.geometry
  capacity := matched.capacity
  blank page := by rw [← Memory.deviceOf_eq_none_iff, matched.deviceOf, Memory.deviceOf_eq_none_iff]
  byteAt := matched.byteAt holds

theorem resident_iff (page : Nat) : other.memory.Resident page ↔ one.memory.Resident page := by
  rw [Memory.resident_iff_deviceOf, Memory.resident_iff_deviceOf, matched.deviceOf]

/-- What changes nothing on either side keeps a match. -/
theorem of_unmoved (unmoved : Space.Unmoved one after) (echo : Space.Unmoved other next) :
    after.Matches faithful next where
  outline := (unmoved.outline.symm.trans matched.outline).trans echo.outline
  layout := by
    rw [show next.devices = other.devices from congrArg Memory.devices echo.memory,
      show after.devices = one.devices from congrArg Memory.devices unmoved.memory, matched.layout]
  capacity := by rw [echo.memory, unmoved.memory, matched.capacity]
  resident := by rw [echo.resident, unmoved.resident, matched.resident]
  deviceOf := by
    rw [echo.memory, unmoved.memory]
    exact matched.deviceOf
  byteAt := by
    rw [echo.memory, unmoved.memory]
    exact matched.byteAt

/-- Both sides keep what they have of their machines, so only the pages are to be looked at. -/
theorem of_keeps {reserved spoken : Set Home} {touched : Set Nat}
    (keeps : one.memory.Keeps reserved touched after.memory) (echo : other.memory.Keeps spoken touched next.memory)
    (outline : after.space.SameOutline next.space)
    (resident : next.space.resident.toList = after.space.resident.toList)
    (deviceOf : ∀ page, next.memory.deviceOf page = after.memory.deviceOf page)
    (byteAt : faithful → ∀ address, next.memory.byteAt address = after.memory.byteAt address) :
    after.Matches faithful next where
  outline := outline
  layout := (echo.layout.trans matched.layout).trans keeps.layout.symm
  capacity := (echo.capacity.trans matched.capacity).trans keeps.capacity.symm
  resident := resident
  deviceOf := deviceOf
  byteAt := byteAt

variable [LawfulTable T] {layout : DeviceSet.Layout}

/-- Where pages are tells how much is free. -/
theorem length_freeOf (solo : one.Solo layout) (echo : other.Solo layout) (id : DeviceId) :
    (other.devices.freeOf id).length = (one.devices.freeOf id).length := by
  cases found : one.devices.get? id with
  | none =>
    have sizes := other.devices.size?_layout id
    rw [matched.layout, DeviceSet.size?_layout, found, Option.map_none, eq_comm, Option.map_eq_none_iff] at sizes
    simp only [DeviceSet.freeOf, found, sizes]
  | some device =>
    obtain ⟨mirror, also, frames⟩ := solo.custody.sound.mirrored echo.custody.sound matched.layout found
    have counted := solo.custody.length_freeOf_add found
    have recounted := echo.custody.length_freeOf_add also
    have same : {page | other.memory.deviceOf page = some id} = {page | one.memory.deviceOf page = some id} := by
      ext page
      rw [Set.mem_ofPred_eq, Set.mem_ofPred_eq, matched.deviceOf]
    rw [same, frames] at recounted
    exact Nat.add_right_cancel (recounted.trans counted.symm)

theorem shortage? (solo : one.Solo layout) (echo : other.Solo layout) (slots : Nat) :
    other.devices.shortage? slots = one.devices.shortage? slots := by
  have sizes := other.devices.size?_layout (.swap one.devices.active)
  rw [matched.layout, DeviceSet.size?_layout] at sizes
  rw [DeviceSet.shortage?, DeviceSet.shortage?, matched.active, matched.length_freeOf solo echo]
  cases found : one.devices.get? (.swap one.devices.active) with
  | none =>
    rw [found, Option.map_none, eq_comm, Option.map_eq_none_iff] at sizes
    rw [sizes]
  | some device =>
    rw [found, Option.map_some, eq_comm, Option.map_eq_some_iff] at sizes
    obtain ⟨mirror, also, -⟩ := sizes
    rw [also]

end Stage.Matches

/-- RAM is full on both sides or on neither. -/
theorem DeviceSet.full_iff_of_length {one other : DeviceSet}
    (free : (other.freeOf .ram).length = (one.freeOf .ram).length) : other.freeOf .ram = [] ↔ one.freeOf .ram = [] := by
  rw [← List.length_eq_zero_iff, free, List.length_eq_zero_iff]

namespace Space

variable [TotalTable T] {faithful : Prop} {layout : DeviceSet.Layout} {one other after next : Stage T}
  {reserved spoken : Set Home} {page frame place : Nat}

section Faults

variable {victim : Option Nat}

omit [TotalTable T] in
/-- The victim of a fault is the oldest resident page, if RAM is full. -/
theorem PagedIn.victim_eq (paged : PagedIn one page frame victim after) :
    victim = if one.devices.freeOf .ram = [] then one.space.resident.toList.head? else none := by
  obtain ⟨rest, queue, -⟩ := paged.resident
  cases victim with
  | none => rw [if_neg (paged.spare.mp rfl)]
  | some old =>
    have full : one.devices.freeOf .ram = [] := by
      by_contra spare
      exact Option.some_ne_none old (paged.spare.mpr spare)
    rw [if_pos full, queue]
    rfl

omit [TotalTable T] in
theorem PagedIn.deviceOf (paged : PagedIn one page frame victim after)
    (named : after.memory.homeOf page = some (.ram, frame)) (index : Nat) : after.memory.deviceOf index =
      if index = page then some .ram
      else if victim = some index then some (.swap one.devices.active) else one.memory.deviceOf index := by
  split
  · next here => rw [here, Memory.deviceOf, named, Option.map_some]
  · next away =>
    split
    · next chosen =>
      obtain ⟨slot, swapped⟩ := paged.swapped index chosen
      rw [Memory.deviceOf, swapped, Option.map_some]
    · next spared => rw [Memory.deviceOf, Memory.homeOf, paged.others index away spared, Memory.deviceOf, Memory.homeOf]

/-- A page that both sides asked for came in alike. -/
theorem Resolved.matches (matched : one.Matches faithful other)
    (free : (other.devices.freeOf .ram).length = (one.devices.freeOf .ram).length)
    (resolved : Resolved one reserved page frame after) (echo : Resolved other spoken page place next) :
    after.Matches faithful next := by
  have here {victim : Option Nat} (paged : PagedIn one page frame victim after) : ¬ one.memory.Resident page :=
    fun held => Memory.resident_iff.mp held paged.away
  have there {victim : Option Nat} (paged : PagedIn other page place victim next) : ¬ other.memory.Resident page :=
    fun held => Memory.resident_iff.mp held paged.away
  rcases resolved.change with unmoved | ⟨victim, paged⟩ <;> rcases echo.change with still | ⟨chosen, again⟩
  · exact matched.of_unmoved unmoved still
  · have held : one.memory.Resident page := ⟨frame, unmoved.memory ▸ resolved.homeOf⟩
    exact (there again ((matched.resident_iff page).mpr held)).elim
  · have held : other.memory.Resident page := ⟨place, still.memory ▸ echo.homeOf⟩
    exact (here paged ((matched.resident_iff page).mp held)).elim
  · obtain rfl : chosen = victim := by
      rw [paged.victim_eq, again.victim_eq, matched.resident]
      simp only [DeviceSet.full_iff_of_length free]
    have outline := (resolved.keeps.outline.symm.trans matched.outline).trans echo.keeps.outline
    refine matched.of_keeps resolved.keeps.memory echo.keeps.memory outline ?_ (fun index => ?_)
      fun holds => (resolved.alike (matched.alike holds) echo).byteAt
    · obtain ⟨rest, queue, queued⟩ := paged.resident
      obtain ⟨others, line, lined⟩ := again.resident
      rw [matched.resident, queue] at line
      rw [lined, queued, List.append_cancel_left line]
    · rw [paged.deviceOf resolved.homeOf, again.deviceOf echo.homeOf, matched.deviceOf, matched.active]

theorem Written.matches {address : Nat} {value : UInt8} (matched : one.Matches faithful other)
    (free : (other.devices.freeOf .ram).length = (one.devices.freeOf .ram).length)
    (written : Written one reserved address value after) (echo : Written other spoken address value next) :
    after.Matches faithful next := by
  obtain ⟨frame, middle, resolved, homeOf, resident⟩ := written.resolved
  obtain ⟨place, mirror, again, echoed, queue⟩ := echo.resolved
  rw [matched.geometry] at again
  have faulted := resolved.matches matched free again
  have outline := (written.outline.symm.trans matched.outline).trans echo.outline
  have keeps := echo.memory
  rw [matched.geometry] at keeps
  refine matched.of_keeps written.memory keeps outline ?_ (fun page => ?_)
    fun holds => (written.alike (matched.alike holds) echo).byteAt
  · rw [queue, resident, faulted.resident]
  · rw [Memory.deviceOf, echoed, Memory.deviceOf, homeOf]
    exact faulted.deviceOf page

/-- Why a page cannot be made resident, if it cannot. -/
def refusal? (stage : Stage T) (page : Nat) : Option MemoryError :=
  if (stage.memory.lookup page).frame? ≠ none then none
  else if stage.memory.capacity ≤ page then some (.table (.outOfRange page stage.memory.capacity))
  else if stage.devices.freeOf .ram ≠ [] then none
  else if stage.space.resident.toList = [] then some .noVictim
  else stage.devices.shortage? 1

theorem Resolved.refusal?_eq_none (resolved : Resolved one reserved page frame after) : refusal? one page = none := by
  unfold refusal?
  rcases resolved.change with unmoved | ⟨victim, paged⟩
  · have held : one.memory.Resident page := ⟨frame, unmoved.memory ▸ resolved.homeOf⟩
    rw [if_pos (Memory.resident_iff.mp held)]
  · obtain ⟨rest, queue, -⟩ := paged.resident
    rw [if_neg (not_not.mpr paged.away), if_neg (Nat.not_le.mpr resolved.lt_capacity)]
    cases victim with
    | none => rw [if_pos (paged.spare.mp rfl)]
    | some old =>
      have oldest : one.space.resident.toList ≠ [] := queue ▸ List.cons_ne_nil old rest
      rw [if_neg fun spare => Option.some_ne_none old (paged.spare.mpr spare), if_neg oldest]
      exact paged.room old rfl

/-- On a tidy stage what declines a fault is the refusal of its page. -/
theorem Declined.refusal?_eq_some {reason : MemoryError} (declined : Declined one page reason after)
    (custody : one.memory.Custody reserved) (tidy : one.Tidy) : refusal? one page = some reason := by
  unfold refusal?
  cases declined with
  | outOfRange beyond =>
    have away : ¬ (one.memory.lookup page).frame? ≠ none := by
      rw [← Memory.resident_iff]
      rintro ⟨frame, held⟩
      exact Nat.not_lt.mpr beyond (custody.lt_capacity held)
    rw [if_neg away, if_pos beyond]
  | noRoom fits away full refused =>
    rw [if_neg (not_not.mpr away), if_neg (Nat.not_le.mpr fits), if_neg (not_not.mpr full)]
    obtain ⟨starved, -⟩ := refused.starved_of_queued tidy.queued
    cases starved with
    | noVictim idle => rw [if_pos idle]
    | noSlot oldest short => rw [if_neg oldest, short]

omit [TotalTable T] in
theorem refusal?_congr [LawfulTable T] (matched : one.Matches faithful other) (solo : one.Solo layout)
    (echo : other.Solo layout) (page : Nat) : refusal? other page = refusal? one page := by
  have full := DeviceSet.full_iff_of_length (matched.length_freeOf solo echo .ram)
  have held := matched.resident_iff page
  rw [Memory.resident_iff, Memory.resident_iff] at held
  simp only [refusal?, held, matched.capacity, ne_eq, full, matched.resident, matched.shortage? solo echo]

end Faults

section Ranges

theorem Mapped.deviceOf {pages : List Nat} (mapped : Mapped one reserved pages after) (index : Nat) :
    after.memory.deviceOf index = if index ∈ pages then some .ram else one.memory.deviceOf index := by
  split
  · next inside =>
    obtain ⟨frame, named⟩ := mapped.homeOf index inside
    rw [Memory.deviceOf, named, Option.map_some]
  · next away => rw [Memory.deviceOf, Memory.homeOf, mapped.others index away, Memory.deviceOf, Memory.homeOf]

theorem Mapped.matches {pages : List Nat} (matched : one.Matches faithful other)
    (outline : after.space.SameOutline next.space) (mapped : Mapped one reserved pages after)
    (echo : Mapped other spoken pages next) : after.Matches faithful next := by
  refine matched.of_keeps mapped.keeps echo.keeps outline ?_ (fun index => ?_)
    fun holds => (mapped.alike (matched.alike holds) outline echo).byteAt
  · rw [echo.resident, mapped.resident, matched.resident]
  · rw [echo.deviceOf, mapped.deviceOf, matched.deviceOf]

theorem Stamped.matches (matched : one.Matches faithful other) (stamped : Stamped one reserved after)
    (echo : Stamped other spoken next) : after.Matches faithful next := by
  have outline := (stamped.keeps.outline.symm.trans matched.outline).trans echo.keeps.outline
  refine matched.of_keeps stamped.keeps.memory echo.keeps.memory outline ?_ (fun index => ?_)
    fun holds => ((stamped.alike.symm.trans (matched.alike holds)).trans echo.alike).byteAt
  · rw [echo.resident, stamped.resident, matched.resident]
  · rw [Memory.deviceOf, echo.homeOf, Memory.deviceOf, stamped.homeOf]
    exact matched.deviceOf index

omit [TotalTable T] in
theorem residentPages_eq_filter_deviceOf (stage : Stage T) (first pages : Nat) :
    residentPages stage.space.table first pages =
      (List.range' first pages).filter fun page => stage.memory.deviceOf page = some .ram := by
  rw [residentPages_eq_filter]
  apply List.filter_congr
  intro page _
  have on : stage.memory.deviceOf page = some .ram ↔ (PageTable.lookup stage.space.table page).frame? ≠ none :=
    Memory.resident_iff_deviceOf.symm.trans Memory.resident_iff
  rw [Bool.eq_iff_iff, decide_eq_true_eq, on, Option.isSome_iff_ne_none]

omit [TotalTable T] in
theorem residentPages_congr (matched : one.Matches faithful other) (first pages : Nat) :
    residentPages other.space.table first pages = residentPages one.space.table first pages := by
  simp only [residentPages_eq_filter_deviceOf, matched.deviceOf]

omit [TotalTable T] in
theorem evictionShortage?_congr [LawfulTable T] (matched : one.Matches faithful other) (solo : one.Solo layout)
    (echo : other.Solo layout) (first pages : Nat) :
    evictionShortage? other first pages = evictionShortage? one first pages := by
  simp only [evictionShortage?, residentPages_congr matched, matched.shortage? solo echo]

theorem RangeEvicted.deviceOf {gone : List Nat} (evicted : RangeEvicted one reserved gone after) (index : Nat) :
    after.memory.deviceOf index =
      if index ∈ gone then some (.swap one.devices.active) else one.memory.deviceOf index := by
  split
  · next left =>
    obtain ⟨slot, swapped⟩ := evicted.swapped index left
    rw [Memory.deviceOf, swapped, Option.map_some]
  · next kept => rw [Memory.deviceOf, Memory.homeOf, evicted.others index kept, Memory.deviceOf, Memory.homeOf]

theorem RangeEvicted.matches {gone : List Nat} (matched : one.Matches faithful other)
    (evicted : RangeEvicted one reserved gone after) (echo : RangeEvicted other spoken gone next) :
    after.Matches faithful next := by
  have outline := (evicted.keeps.outline.symm.trans matched.outline).trans echo.keeps.outline
  refine matched.of_keeps evicted.keeps.memory echo.keeps.memory outline ?_ (fun index => ?_)
    fun holds => ((evicted.alike.symm.trans (matched.alike holds)).trans echo.alike).byteAt
  · rw [echo.resident, evicted.resident, matched.resident]
  · rw [echo.deviceOf, evicted.deviceOf, matched.deviceOf, matched.active]

end Ranges

end Space

end DemandPaging
