import DemandPaging.Proofs.Lockstep

/-! # What a space can tell apart

Two stages are alike for their spaces when the outlines, the bytes and the pages without a home agree. The
homes of the other pages may differ, and so may the queues, the devices and what other spaces keep there. A
call on alike stages is answered alike and leaves alike stages, unless it fails because of something in which
they may differ. A frame, a count of evicted pages and a dump of entries show that difference, so of these
only that there was an answer is compared.
-/

namespace DemandPaging

variable {T : Type}

namespace Space.SameOutline

variable {one other : Space T} (same : one.SameOutline other)
include same

theorem symm : other.SameOutline one := ⟨same.populate.symm, same.areas.symm, same.regions.symm⟩

theorem area? (id : Nat) : other.area? id = one.area? id := by
  rw [Space.area?, Space.area?, same.areas]

theorem region? (id : Nat) : other.region? id = one.region? id := by
  simp only [Space.region?, live?, slot?, same.regions]

theorem address? (id offset : Nat) : other.address? id offset = one.address? id offset :=
  address?_congr same.regions id offset

theorem usage (id : Nat) : other.usage id = one.usage id := by
  simp only [Space.usage, same.area?, liveRegions, same.regions]

theorem pageRange (geometry : Geometry) (start pages : Nat) :
    other.pageRange geometry start pages = one.pageRange geometry start pages := by
  simp only [Space.pageRange, covered, same.areas]

end Space.SameOutline

variable [PageTable T]

/-- The two stages differ at most in where bytes are kept. -/
structure Stage.Alike (one other : Stage T) : Prop where
  outline : one.space.SameOutline other.space
  geometry : other.devices.geometry = one.devices.geometry
  capacity : other.memory.capacity = one.memory.capacity
  blank : ∀ page, other.memory.homeOf page = none ↔ one.memory.homeOf page = none
  byteAt : ∀ address, other.memory.byteAt address = one.memory.byteAt address

namespace Stage.Alike

variable {one other third : Stage T}

theorem symm (alike : one.Alike other) : other.Alike one where
  outline := alike.outline.symm
  geometry := alike.geometry.symm
  capacity := alike.capacity.symm
  blank page := (alike.blank page).symm
  byteAt address := (alike.byteAt address).symm

theorem pageRange (alike : one.Alike other) (start pages : Nat) :
    other.space.pageRange other.devices.geometry start pages =
      one.space.pageRange one.devices.geometry start pages := by rw [alike.outline.pageRange, alike.geometry]

theorem trans (first : one.Alike other) (second : other.Alike third) : one.Alike third where
  outline := first.outline.trans second.outline
  geometry := second.geometry.trans first.geometry
  capacity := second.capacity.trans first.capacity
  blank page := (second.blank page).trans (first.blank page)
  byteAt address := (second.byteAt address).trans (first.byteAt address)

/-- What moves pages about cannot be seen. -/
theorem of_keeps [LawfulTable T] {reserved : Set Home} (keeps : one.Keeps reserved ∅ other)
    (blank : ∀ page, other.memory.homeOf page = none ↔ one.memory.homeOf page = none) : one.Alike other where
  outline := keeps.outline
  geometry := keeps.memory.geometry
  capacity := keeps.memory.capacity
  blank := blank
  byteAt _ := keeps.memory.byteAt (Set.notMem_empty _)

/-- Both sides keep the layout and the capacity; what else they do, they do alike. -/
theorem after [LawfulTable T] {left right : Stage T} {reserved spoken : Set Home} {touched moved : Set Nat}
    (alike : one.Alike other) (outline : left.space.SameOutline right.space)
    (keeps : one.memory.Keeps reserved touched left.memory) (echo : other.memory.Keeps spoken moved right.memory)
    (blank : ∀ page, right.memory.homeOf page = none ↔ left.memory.homeOf page = none)
    (byteAt : ∀ address, right.memory.byteAt address = left.memory.byteAt address) : left.Alike right where
  outline := outline
  geometry := echo.geometry.trans (alike.geometry.trans keeps.geometry.symm)
  capacity := echo.capacity.trans (alike.capacity.trans keeps.capacity.symm)
  blank := blank
  byteAt := byteAt

end Stage.Alike

namespace Space

open Paging

variable [TotalTable T] {one other after next : Stage T} {reserved spoken : Set Home}

omit [PageTable T] [TotalTable T] in
theorem isContended_of_shortage? {devices : DeviceSet} {slots : Nat} {reason : MemoryError}
    (short : devices.shortage? slots = some reason) : reason.isContended = true := by
  rcases DeviceSet.cases_of_shortage? short with rfl | rfl <;> rfl

omit [TotalTable T] in
theorem isContended_of_evictionShortage? {first pages : Nat} {reason : MemoryError}
    (short : evictionShortage? one first pages = some reason) : reason.isContended = true := by
  unfold evictionShortage? at short
  split at short
  · contradiction
  · exact isContended_of_shortage? short

omit [PageTable T] in
theorem Shortage.isContended {wanted : Nat} {reason : MemoryError} (short : Shortage one wanted reason) :
    reason.isContended = true := by
  rw [short.reason]
  rfl

omit [TotalTable T] in
theorem Refused.isContended {reason : MemoryError} (refused : Refused one reason after) :
    reason.isContended = true := by
  cases refused with
  | stale _ => rfl
  | starved starved _ =>
    cases starved with
    | noVictim _ => rfl
    | noSlot _ short => exact isContended_of_shortage? short

omit [TotalTable T] in
/-- A fault is declined because its page is out of range, or because of a contention. -/
theorem Declined.cases_on_range {page : Nat} {reason : MemoryError} (declined : Declined one page reason after) :
    (one.memory.capacity ≤ page ∧ reason = .table (.outOfRange page one.memory.capacity)) ∨
      reason.isContended = true := by
  cases declined with
  | outOfRange beyond => exact .inl ⟨beyond, rfl⟩
  | noRoom _ _ _ refused => exact .inr refused.isContended

theorem Resolved.lt_capacity {page frame : Nat} (resolved : Resolved one reserved page frame after) :
    page < one.memory.capacity :=
  resolved.keeps.memory.capacity ▸ resolved.custody.lt_capacity resolved.homeOf

/-- A fault gives its page a home, and takes none away. -/
theorem Resolved.homeOf_eq_none_iff {page frame : Nat} (resolved : Resolved one reserved page frame after)
    (index : Nat) : after.memory.homeOf index = none ↔ index ≠ page ∧ one.memory.homeOf index = none := by
  by_cases here : index = page
  · rw [here, resolved.homeOf]
    simp
  · simp only [ne_eq, here, not_false_eq_true, true_and]
    rcases resolved.change with unmoved | ⟨victim, paged⟩
    · rw [unmoved.memory]
    · by_cases chosen : victim = some index
      · obtain ⟨place, held⟩ := paged.held index chosen
        obtain ⟨slot, swapped⟩ := paged.swapped index chosen
        rw [held, swapped]
        simp
      · rw [Memory.homeOf, Memory.homeOf, paged.others index here chosen]

theorem Resolved.alike {page frame place : Nat} (alike : one.Alike other)
    (resolved : Resolved one reserved page frame after) (echo : Resolved other spoken page place next) :
    after.Alike next := by
  have outline := (resolved.keeps.outline.symm.trans alike.outline).trans echo.keeps.outline
  refine alike.after outline resolved.keeps.memory echo.keeps.memory (fun index => ?_) fun address => ?_
  · rw [echo.homeOf_eq_none_iff, resolved.homeOf_eq_none_iff, alike.blank]
  · rw [echo.keeps.memory.byteAt (Set.notMem_empty _), resolved.keeps.memory.byteAt (Set.notMem_empty _),
      alike.byteAt]

theorem Written.homeOf_eq_none_iff {address : Nat} {value : UInt8}
    (written : Written one reserved address value after) (index : Nat) : after.memory.homeOf index = none ↔
      index ≠ one.devices.geometry.pageOf address ∧ one.memory.homeOf index = none := by
  obtain ⟨frame, middle, resolved, homeOf, -⟩ := written.resolved
  rw [homeOf, resolved.homeOf_eq_none_iff]

theorem Written.alike {address : Nat} {value : UInt8} (alike : one.Alike other)
    (written : Written one reserved address value after) (echo : Written other spoken address value next) :
    after.Alike next := by
  have outline := (written.outline.symm.trans alike.outline).trans echo.outline
  refine alike.after outline written.memory echo.memory (fun index => ?_) fun place => ?_
  · rw [echo.homeOf_eq_none_iff, written.homeOf_eq_none_iff, alike.blank, alike.geometry]
  · rw [echo.byteAt, written.byteAt, alike.byteAt]

theorem Mapped.homeOf_eq_none_iff {pages : List Nat} (mapped : Mapped one reserved pages after) (index : Nat) :
    after.memory.homeOf index = none ↔ index ∉ pages ∧ one.memory.homeOf index = none := by
  by_cases inside : index ∈ pages
  · obtain ⟨frame, homed⟩ := mapped.homeOf index inside
    rw [homed]
    simp [inside]
  · rw [Memory.homeOf, mapped.others index inside]
    simp only [inside, not_false_eq_true, true_and]
    rfl

theorem Mapped.alike {pages : List Nat} (alike : one.Alike other) (outline : after.space.SameOutline next.space)
    (mapped : Mapped one reserved pages after) (echo : Mapped other spoken pages next) : after.Alike next := by
  refine alike.after outline mapped.keeps echo.keeps (fun index => ?_) fun address => ?_
  · rw [echo.homeOf_eq_none_iff, mapped.homeOf_eq_none_iff, alike.blank]
  · by_cases inside : one.memory.devices.geometry.pageOf address ∈ pages
    · have also : other.memory.devices.geometry.pageOf address ∈ pages := by
        rwa [show other.memory.devices.geometry = _ from alike.geometry]
      rw [Memory.byteAt_of_empty, Memory.byteAt_of_empty]
      · rw [mapped.keeps.geometry]
        exact mapped.blank _ inside
      · rw [echo.keeps.geometry]
        exact echo.blank _ also
    · have also : other.memory.devices.geometry.pageOf address ∉ pages := by
        rwa [show other.memory.devices.geometry = _ from alike.geometry]
      rw [echo.keeps.byteAt also, mapped.keeps.byteAt inside, alike.byteAt]

theorem Stamped.alike (stamped : Stamped one reserved after) : one.Alike after :=
  .of_keeps stamped.keeps fun index => by rw [stamped.homeOf]

theorem RangeEvicted.alike {gone : List Nat} (evicted : RangeEvicted one reserved gone after) : one.Alike after := by
  refine .of_keeps evicted.keeps fun index => ?_
  by_cases left : index ∈ gone
  · obtain ⟨frame, held⟩ := evicted.held index left
    obtain ⟨slot, swapped⟩ := evicted.swapped index left
    rw [held, swapped]
    simp
  · rw [Memory.homeOf, Memory.homeOf, evicted.others index left]

end Space

end DemandPaging
