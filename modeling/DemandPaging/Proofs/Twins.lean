import DemandPaging.Proofs.Alike

/-! # Calls on alike stages

Twins are alike stages that both are in custody, with one page size and one capacity. Every call on twins
ends alike on both sides and leaves twins, unless one side is in contention for what it does not own. For
calls that reserve addresses this is the lockstep of reservations, with the mapping of new pages as the only
part that meets the devices; the others are known by what they leave behind.
-/

namespace DemandPaging

variable {T : Type} [PageTable T]

/-- Alike stages whose memories are in custody. -/
structure Stage.Twins [LawfulTable T] (size : Geometry) (limit : Nat) (one other : Stage T) : Prop
    extends one.Alike other where
  sized : one.devices.geometry = size
  limited : one.memory.capacity = limit
  held : ∃ reserved, one.memory.Custody reserved
  echoed : ∃ reserved, other.memory.Custody reserved

/-- Contention excuses whatever follows; other failures are the same on both sides. -/
def contention [LawfulTable T] (size : Geometry) (limit : Nat) : Relation MemoryError (Stage T) (Stage T) where
  states := Stage.Twins size limit
  excuse reason := reason.isContended = true
  failures := Eq

namespace Stage.Twins

variable [LawfulTable T] {size : Geometry} {limit : Nat} {one other left right : Stage T}

/-- Twins are followed by alike stages that kept the layout and are in custody. -/
theorem next (twins : one.Twins size limit other) (alike : left.Alike right)
    (geometry : left.devices.geometry = one.devices.geometry) (capacity : left.memory.capacity = one.memory.capacity)
    {reserved spoken : Set Home} (held : left.memory.Custody reserved) (echoed : right.memory.Custody spoken) :
    left.Twins size limit right :=
  ⟨alike, geometry.trans twins.sized, capacity.trans twins.limited, ⟨reserved, held⟩, ⟨spoken, echoed⟩⟩

/-- Neither the log nor the queue is looked at, and the outlines may change together. -/
theorem redrawn (twins : one.Twins size limit other) (memory : left.memory = one.memory)
    (echo : right.memory = other.memory) (outline : left.space.SameOutline right.space) :
    left.Twins size limit right := by
  obtain ⟨reserved, held⟩ := twins.held
  obtain ⟨spoken, echoed⟩ := twins.echoed
  refine twins.next ⟨outline, ?_, ?_, ?_, ?_⟩ ?_ ?_ (memory ▸ held) (echo ▸ echoed)
  · have geometry := twins.geometry
    rwa [show other.devices = right.devices from congrArg Memory.devices echo.symm,
      show one.devices = left.devices from congrArg Memory.devices memory.symm] at geometry
  · rw [memory, echo, twins.capacity]
  · rw [memory, echo]
    exact twins.blank
  · rw [memory, echo]
    exact twins.byteAt
  · exact congrArg (fun memory => memory.devices.geometry) memory
  · rw [memory]

theorem symm (twins : one.Twins size limit other) : other.Twins size limit one :=
  ⟨twins.toAlike.symm, twins.geometry.trans twins.sized, twins.toAlike.capacity.trans twins.limited, twins.echoed,
    twins.held⟩

end Stage.Twins

namespace Space

open Paging

variable [TotalTable T] {size : Geometry} {limit : Nat} {one other : Stage T} {α β : Type}

theorem lockstep_mapRange {start stop : Nat} (fits : ∀ page ∈ pagesBetween size start stop, page < limit) :
    Lockstep (contention (T := T) size limit) (fun _ _ => True) (mapRange start stop) (mapRange start stop) := by
  intro one other twins
  obtain ⟨reserved, held⟩ := twins.held
  obtain ⟨spoken, echoed⟩ := twins.echoed
  have sized : other.devices.geometry = size := twins.geometry.trans twins.sized
  have within : ∀ page ∈ pagesBetween one.devices.geometry start stop, page < one.memory.capacity := by
    rwa [twins.sized, twins.limited]
  have also : ∀ page ∈ pagesBetween other.devices.geometry start stop, page < other.memory.capacity := by
    rwa [sized, twins.capacity, twins.limited]
  have ends := ends_mapRange held within
  have echo := ends_mapRange echoed also
  rw [sized] at echo
  rw [twins.sized] at ends
  refine .of_ends ends echo ?_ (fun _ _ _ _ failed _ => .inl failed.1.isContended)
    (fun _ _ _ _ failed _ => failed.1.isContended) fun _ _ _ _ _ failed => failed.1.isContended
  rintro _ after _ next ⟨outline, mapped⟩ ⟨also, again⟩
  refine ⟨trivial, twins.next ?_ mapped.keeps.geometry mapped.keeps.capacity mapped.custody again.custody⟩
  exact mapped.alike twins.toAlike ((outline.symm.trans twins.outline).trans also) again

theorem reservable_contention (size : Geometry) (limit : Nat) :
    Reservable (contention (T := T) size limit) size limit where
  alike _ := rfl
  outline twins := twins.outline
  sized twins := ⟨twins.sized, twins.geometry.trans twins.sized⟩
  capacity twins := ⟨twins.limited, twins.toAlike.capacity.trans twins.limited⟩
  logged twins _ _ := twins.redrawn rfl rfl twins.outline
  redrawn {state mirror} twins _ _ same left _ right _ :=
    twins.redrawn (congrArg (Memory.mk state.devices) left) (congrArg (Memory.mk mirror.devices) right) same
  mapped := lockstep_mapRange

section Faults

/-- Two operations that each fault on one page, and fail only if the fault does. -/
theorem paired_of_faults {answers : α → β → Prop} {first : Paging T α} {second : Paging T β} {page : Nat}
    {okOne : α → Stage T → Prop} {okOther : β → Stage T → Prop} (twins : one.Twins size limit other)
    (ends : Ends first okOne (fun reason after => Declined one page reason after) one)
    (echo : Ends second okOther (fun reason after => Declined other page reason after) other)
    (fits : ∀ answer after, okOne answer after → page < one.memory.capacity)
    (also : ∀ answer next, okOther answer next → page < other.memory.capacity)
    (answered : ∀ answer after mirror next, okOne answer after → okOther mirror next →
      answers answer mirror ∧ after.Twins size limit next) :
    Paired (fun reason => reason.isContended = true)
      (fun answer after mirror next => answers answer mirror ∧ after.Twins size limit next)
      (fun reason after failure next => reason = failure ∧ after.Twins size limit next) (first one) (second other) := by
  refine .of_ends ends echo answered ?_ ?_ ?_
  · intro reason after failure next declined refused
    rcases declined.cases_on_range with ⟨-, rfl⟩ | contended
    · rcases refused.cases_on_range with ⟨-, rfl⟩ | contended
      · refine .inr (.inr ⟨by rw [twins.capacity], twins.redrawn declined.memory refused.memory ?_⟩)
        exact (declined.outline.symm.trans twins.outline).trans refused.outline
      · exact .inr (.inl contended)
    · exact .inl contended
  · intro reason after answer next declined ended
    rcases declined.cases_on_range with ⟨beyond, -⟩ | contended
    · rw [← twins.capacity] at beyond
      exact absurd (also answer next ended) (Nat.not_lt.mpr beyond)
    · exact contended
  · intro answer after reason next ended declined
    rcases declined.cases_on_range with ⟨beyond, -⟩ | contended
    · rw [twins.capacity] at beyond
      exact absurd (fits answer after ended) (Nat.not_lt.mpr beyond)
    · exact contended

theorem lockstep_resolve (page : Nat) :
    Lockstep (contention (T := T) size limit) (fun _ _ => True) (resolve page) (resolve page) := by
  intro one other twins
  obtain ⟨reserved, held⟩ := twins.held
  obtain ⟨spoken, echoed⟩ := twins.echoed
  refine paired_of_faults twins (ends_resolve held page) (ends_resolve echoed page)
    (fun _ _ resolved => resolved.lt_capacity) (fun _ _ resolved => resolved.lt_capacity) ?_
  intro _ after _ next resolved echo
  exact ⟨trivial, twins.next (resolved.alike twins.toAlike echo) resolved.keeps.memory.geometry
    resolved.keeps.memory.capacity resolved.custody echo.custody⟩

omit [TotalTable T] in
/-- An access that names no byte fails at once, for a reason that the outline gives. -/
theorem ends_locate_of_unnamed {id offset : Nat} (unnamed : one.space.address? id offset = none) :
    ∃ reason, ∀ mirror : Stage T, one.space.SameOutline mirror.space →
      Ends (locate id offset) (fun _ _ => False) (fun failure after => failure = reason ∧ after = mirror) mirror := by
  cases found : one.space.region? id with
  | error reason =>
    refine ⟨reason, fun mirror same => ?_⟩
    simp only [locate, ends_bind, ends_space, same.region?, found, ends_settle_error, and_self]
  | ok region =>
    have beyond : region.size ≤ offset := by
      simpa only [address?, found, ite_eq_right_iff, reduceCtorEq, imp_false, Nat.not_lt] using unnamed
    refine ⟨.offsetOutOfRange offset region.size, fun mirror same => ?_⟩
    simp only [locate, ends_bind, ends_space, same.region?, found, ends_settle_ok, ends_ite, ends_throw, beyond,
      and_self, not_true_eq_false, implies_true, false_implies]

omit [TotalTable T] in
/-- Whatever follows an access, both sides fail alike if it names no byte. -/
theorem paired_of_unnamed {excuse : MemoryError → Prop} {ok : α → Stage T → β → Stage T → Prop}
    {states : Stage T → Stage T → Prop} {rest : Nat × Nat → Paging T α} {echo : Nat × Nat → Paging T β}
    {id offset : Nat} (related : states one other) (outline : one.space.SameOutline other.space)
    (unnamed : one.space.address? id offset = none) :
    Paired excuse ok (fun reason after failure next => reason = failure ∧ states after next)
      ((locate id offset >>= rest) one) ((locate id offset >>= echo) other) := by
  obtain ⟨reason, fails⟩ := ends_locate_of_unnamed unnamed
  have ends {γ : Type} (rest : Nat × Nat → Paging T γ) (mirror : Stage T) (same : one.space.SameOutline mirror.space) :
      Ends (locate id offset >>= rest) (fun _ _ => False) (fun failure after => failure = reason ∧ after = mirror)
        mirror :=
    (ends_bind _ _).mpr ((fails mirror same).answers fun _ _ never => never.elim)
  exact .of_refusals related (ends rest one (.refl _)) (ends echo other outline)

theorem lockstep_readByte (id offset : Nat) :
    Lockstep (contention (T := T) size limit) Eq (readByte id offset) (readByte id offset) := by
  intro one other twins
  obtain ⟨reserved, held⟩ := twins.held
  obtain ⟨spoken, echoed⟩ := twins.echoed
  cases named : one.space.address? id offset with
  | none => exact paired_of_unnamed twins twins.outline named
  | some address =>
    have echo := ends_readByte_of_named echoed ((twins.outline.address? id offset).trans named)
    rw [twins.geometry] at echo
    refine paired_of_faults twins (ends_readByte_of_named held named) echo (fun _ _ done => ?_) (fun _ _ done => ?_) ?_
    · obtain ⟨_, _, resolved⟩ := done
      exact resolved.lt_capacity
    · obtain ⟨_, _, resolved⟩ := done
      exact resolved.lt_capacity
    · rintro _ after _ next ⟨rfl, frame, resolved⟩ ⟨rfl, place, again⟩
      refine ⟨(twins.byteAt address).symm, ?_⟩
      exact twins.next (resolved.alike twins.toAlike again) resolved.keeps.memory.geometry
        resolved.keeps.memory.capacity resolved.custody again.custody

theorem lockstep_writeByte (id offset : Nat) (value : UInt8) :
    Lockstep (contention (T := T) size limit) (fun _ _ => True) (writeByte id offset value)
      (writeByte id offset value) := by
  intro one other twins
  obtain ⟨reserved, held⟩ := twins.held
  obtain ⟨spoken, echoed⟩ := twins.echoed
  cases named : one.space.address? id offset with
  | none => exact paired_of_unnamed twins twins.outline named
  | some address =>
    have echo := ends_writeByte_of_named echoed ((twins.outline.address? id offset).trans named) value
    rw [twins.geometry] at echo
    refine paired_of_faults twins (ends_writeByte_of_named held named value) echo (fun _ _ written => ?_)
      (fun _ _ written => ?_) ?_
    · obtain ⟨_, _, resolved, -⟩ := written.resolved
      exact resolved.lt_capacity
    · obtain ⟨_, _, resolved, -⟩ := written.resolved
      exact twins.geometry ▸ resolved.lt_capacity
    · intro _ after _ next written again
      exact ⟨trivial, twins.next (written.alike twins.toAlike again) written.memory.geometry written.memory.capacity
        written.custody again.custody⟩

end Faults

section Ranges

theorem lockstep_evictPages (start pages : Nat) :
    Lockstep (contention (T := T) size limit) (fun _ _ => True) (evictPages start pages) (evictPages start pages) := by
  intro one other twins
  obtain ⟨reserved, held⟩ := twins.held
  obtain ⟨spoken, echoed⟩ := twins.echoed
  have same := twins.toAlike.pageRange start pages
  cases range : one.space.pageRange one.devices.geometry start pages with
  | error reason =>
    exact .of_refusals twins (ends_evictPages_of_refused range) (ends_evictPages_of_refused (same.trans range))
  | ok first =>
    refine .of_ends (ends_evictPages_of_pageRange held range)
      (ends_evictPages_of_pageRange echoed (same.trans range)) ?_
      (fun _ _ _ _ failed _ => .inl (isContended_of_evictionShortage? failed.1))
      (fun _ _ _ _ failed _ => isContended_of_evictionShortage? failed.1)
      fun _ _ _ _ _ failed => isContended_of_evictionShortage? failed.1
    rintro _ after _ next ⟨-, evicted⟩ ⟨-, again⟩
    refine ⟨trivial, twins.next ?_ evicted.keeps.memory.geometry evicted.keeps.memory.capacity evicted.custody
      again.custody⟩
    exact (evicted.alike.symm.trans twins.toAlike).trans again.alike

theorem lockstep_stamp {page : Nat} (fits : page < limit) {count echo : Nat} (same : count = echo) :
    Lockstep (contention (T := T) size limit) Eq (stamp count page) (stamp echo page) := by
  subst same
  intro one other twins
  obtain ⟨reserved, held⟩ := twins.held
  obtain ⟨spoken, echoed⟩ := twins.echoed
  have here : ¬ one.memory.capacity ≤ page := by rw [twins.limited, Nat.not_le]; exact fits
  have there : ¬ other.memory.capacity ≤ page := by rw [twins.capacity]; exact here
  refine .of_ends (ends_stamp held count page) (ends_stamp echoed count page) ?_
    (fun _ _ _ _ failed _ => absurd failed.2.2 here) (fun _ _ _ _ failed _ => absurd failed.2.2 here)
    fun _ _ _ _ _ failed => absurd failed.2.2 there
  rintro _ after _ next ⟨stamped, rfl⟩ ⟨again, rfl⟩
  refine ⟨by simp only [twins.blank], twins.next ?_ stamped.keeps.memory.geometry stamped.keeps.memory.capacity
    stamped.custody again.custody⟩
  exact (stamped.alike.symm.trans twins.toAlike).trans again.alike

omit [TotalTable T] in
/-- The pages of an accepted range lie in the table. -/
theorem Laid.lt_capacity_of_pageRange {space : Space T} {geometry : Geometry} (laid : space.Laid geometry)
    {start pages first page : Nat} (range : space.pageRange geometry start pages = .ok first)
    (inside : page ∈ List.range' first pages) : page < PageTable.capacity space.table := by
  obtain ⟨rfl, area, member, -, within⟩ := pageRange_eq_ok range
  have reach := (laid.areas area member).stop_le.trans (space.reach_le geometry)
  have base := geometry.pageOf_mul_le start
  have last := (List.mem_range'_1.mp inside).2
  refine last.trans_le (Nat.le_of_mul_le_mul_right ?_ geometry.pageSize_pos)
  rw [Nat.add_mul]
  omega

/-- Stamping meets only pages of the table. -/
theorem paired_installPattern (twins : one.Twins size limit other) (laid : one.space.Laid size) (start pages : Nat) :
    Paired (fun reason => reason.isContended = true)
      (fun answer after mirror next => answer = mirror ∧ after.Twins size limit next)
      (fun reason after failure next => reason = failure ∧ after.Twins size limit next)
      (installPattern start pages one) (installPattern start pages other) := by
  have same := twins.toAlike.pageRange start pages
  show Paired _ _ _ ((settle (one.space.pageRange one.devices.geometry start pages) >>= _) one)
    ((settle (other.space.pageRange other.devices.geometry start pages) >>= _) other)
  rw [same]
  refine (show Lockstep (contention size limit) Eq _ _ from .bind_settle (fun _ => rfl) fun first range => ?_)
    one other twins
  have stamps : Lockstep (contention (T := T) size limit) Eq ((List.range' first pages).foldlM stamp 0)
      ((List.range' first pages).foldlM stamp 0) := by
    refine .foldlM (fun page inside count echo same => ?_) rfl
    refine lockstep_stamp ?_ same
    rw [← twins.limited]
    exact (twins.sized ▸ laid).lt_capacity_of_pageRange range inside
  refine stamps.bind ?_
  rintro count _ rfl
  exact ((reservable_contention size limit).lockstep_emit _ _).bind fun _ _ _ => .pure rfl

end Ranges

end Space

namespace Call

/-- What an answer shows of the bytes and the reservations of a space: not in which frame a page is, nor how many
pages were in frames, nor the entries. -/
def veil : Call → Answer → Answer
  | .resolve _, _ | .evictPages _ _, _ | .dumpTable _ _, _ => .done
  | _, answer => answer

variable [TotalTable T] {size : Geometry} {limit : Nat} {one other : Stage T}

/-- A call on twins. -/
theorem paired_perform (twins : one.Twins size limit other) (laid : one.space.Laid size) (call : Call) :
    Paired (fun reason => reason.isContended = true)
      (fun answer after echo next => call.veil answer = call.veil echo ∧ after.Twins size limit next)
      (fun reason after failure next => reason = failure ∧ after.Twins size limit next)
      (call.perform one) (call.perform other) := by
  have reservable := Space.reservable_contention (T := T) size limit
  have known {α : Type} {wrap : α → Answer} {action : Paging T α}
      (lockstep : Lockstep (contention (T := T) size limit) Eq action action) :
      Lockstep (contention size limit) (fun answer echo => call.veil answer = call.veil echo) (wrap <$> action)
        (wrap <$> action) := lockstep.map fun _ _ same => same ▸ rfl
  have hidden {α : Type} {wrap : α → Answer} {action : Paging T α}
      (veiled : ∀ answer echo, call.veil (wrap answer) = call.veil (wrap echo))
      (lockstep : Lockstep (contention (T := T) size limit) (fun _ _ => True) action action) :
      Lockstep (contention size limit) (fun answer echo => call.veil answer = call.veil echo) (wrap <$> action)
        (wrap <$> action) := lockstep.map fun _ _ _ => veiled _ _
  have read {α : Type} {wrap : α → Answer} {outcome : Space T → Except MemoryError α}
      (same : ∀ space mirror : Space T, space.SameOutline mirror → outcome mirror = outcome space) :
      Lockstep (contention size limit) (fun answer echo => call.veil answer = call.veil echo)
        (do return wrap (← settle (outcome (← Paging.space))))
        (do return wrap (← settle (outcome (← Paging.space)))) := by
    refine Paging.lockstep_bind_space fun state mirror twins => ?_
    rw [same _ _ twins.outline]
    exact .bind_settle (fun _ => rfl) fun _ _ => .pure rfl
  cases call with
  | allocate owner id bytes => exact known (reservable.lockstep_allocate owner id bytes) one other twins
  | release id => exact known (reservable.lockstep_release id) one other twins
  | grow id bytes => exact known (reservable.lockstep_grow id bytes) one other twins
  | createArea start => exact known (reservable.lockstep_createArea start) one other twins
  | resolve page => exact hidden (fun _ _ => rfl) (Space.lockstep_resolve page) one other twins
  | readByte id offset => exact known (Space.lockstep_readByte id offset) one other twins
  | writeByte id offset value =>
    exact hidden (fun _ _ => rfl) (Space.lockstep_writeByte id offset value) one other twins
  | evictPages start pages => exact hidden (fun _ _ => rfl) (Space.lockstep_evictPages start pages) one other twins
  | installPattern start pages =>
    exact (Space.paired_installPattern twins laid start pages).map fun _ _ _ _ ended => ⟨ended.1 ▸ rfl, ended.2⟩
  | usage id => exact read (fun _ _ same => same.usage id) one other twins
  | region id => exact read (fun _ _ same => same.region? id) one other twins
  | area id => exact read (fun _ _ same => same.area? id) one other twins
  | dumpTable start stop =>
    have dump : Lockstep (contention (T := T) size limit) (fun _ _ => True) (Space.dumpTable start stop)
        (Space.dumpTable start stop) :=
      reservable.lockstep_bind_geometry <| Paging.lockstep_bind_space fun _ _ _ =>
        .bind (.modify fun _ _ twins => reservable.logged twins _ _) fun _ _ _ => .pure trivial
    exact hidden (fun _ _ => rfl) dump one other twins

end Call

end DemandPaging
