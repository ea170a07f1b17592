import DemandPaging.Proofs.Matches

/-! # Matching spaces in lockstep

Peers are matching stages with machines of their own. The calls of a program end alike on peers and leave
peers: both answer or both fail for one reason, and the bytes that are read agree if the match is faithful.
For calls that reserve addresses this is the lockstep of reservations once more, now with nothing excused,
as both sides run out of frames together. A byte of RAM that is written by its physical address strikes
whatever page is there, so it ends a faithful match, but no other.
-/

namespace DemandPaging

variable {T : Type} [PageTable T]

/-- What matching stages have in common while one call reserves addresses. -/
structure Stage.Reserving [LawfulTable T] (faithful : Prop) (size : Geometry) (limit : Nat) (one other : Stage T) : Prop
    extends one.Matches faithful other where
  sized : one.devices.geometry = size
  limited : one.memory.capacity = limit
  free : (other.devices.freeOf .ram).length = (one.devices.freeOf .ram).length
  held : ∃ reserved, one.memory.Custody reserved
  echoed : ∃ reserved, other.memory.Custody reserved

/-- Nothing is excused. -/
def reserving [LawfulTable T] (faithful : Prop) (size : Geometry) (limit : Nat) :
    Relation MemoryError (Stage T) (Stage T) where
  states := Stage.Reserving faithful size limit
  excuse _ := False
  failures := Eq

/-- Matching stages with machines of their own. -/
structure Stage.Peers [LawfulTable T] (shape : DeviceSet.Layout) (faithful : Prop) (one other : Stage T) : Prop
    extends one.Matches faithful other where
  here : one.Solo shape
  there : other.Solo shape

/-- Nothing is excused between peers either. -/
def peering [LawfulTable T] (layout : DeviceSet.Layout) (faithful : Prop) :
    Relation MemoryError (Stage T) (Stage T) where
  states := Stage.Peers layout faithful
  excuse _ := False
  failures := Eq

namespace Stage.Peers

variable [LawfulTable T] {layout : DeviceSet.Layout} {faithful : Prop} {one other : Stage T}

theorem reserving (peers : one.Peers layout faithful other) :
    one.Reserving faithful one.devices.geometry one.memory.capacity other :=
  { peers with
    sized := rfl
    limited := rfl
    free := peers.toMatches.length_freeOf peers.here peers.there .ram
    held := ⟨∅, peers.here.custody⟩
    echoed := ⟨∅, peers.there.custody⟩ }

end Stage.Peers

/-- Neither the log nor the outlines matter to the devices, and outlines may change together. -/
theorem Stage.Reserving.redrawn [LawfulTable T] {faithful : Prop} {size : Geometry} {limit : Nat}
    {one other left right : Stage T} (reserving : one.Reserving faithful size limit other)
    (memory : left.memory = one.memory) (echo : right.memory = other.memory)
    (resident : left.space.resident = one.space.resident) (queue : right.space.resident = other.space.resident)
    (outline : left.space.SameOutline right.space) : left.Reserving faithful size limit right := by
  have devices : left.devices = one.devices := congrArg Memory.devices memory
  have echoed : right.devices = other.devices := congrArg Memory.devices echo
  refine ⟨⟨outline, ?_, ?_, ?_, ?_, ?_⟩, ?_, ?_, ?_, memory ▸ reserving.held, echo ▸ reserving.echoed⟩
  · rw [echoed, devices, reserving.layout]
  · rw [echo, memory, reserving.capacity]
  · rw [queue, resident, reserving.resident]
  · rw [echo, memory]
    exact reserving.deviceOf
  · rw [echo, memory]
    exact reserving.byteAt
  · rw [devices, reserving.sized]
  · rw [memory, reserving.limited]
  · rw [echoed, devices, reserving.free]

namespace Space

open Paging

variable [TotalTable T] {layout : DeviceSet.Layout} {faithful : Prop} {size : Geometry} {limit : Nat}
  {one other : Stage T} {α β : Type}

/-- Both sides run out of frames together. -/
theorem lockstep_mapRange_reserving {start stop : Nat} (fits : ∀ page ∈ pagesBetween size start stop, page < limit) :
    Lockstep (reserving (T := T) faithful size limit) (fun _ _ => True) (mapRange start stop)
      (mapRange start stop) := by
  intro one other related
  obtain ⟨reserved, held⟩ := related.held
  obtain ⟨spoken, echoed⟩ := related.echoed
  have sized : other.devices.geometry = size := related.geometry.trans related.sized
  have within : ∀ page ∈ pagesBetween one.devices.geometry start stop, page < one.memory.capacity := by
    rwa [related.sized, related.limited]
  have also : ∀ page ∈ pagesBetween other.devices.geometry start stop, page < other.memory.capacity := by
    rwa [sized, related.capacity, related.limited]
  have ends := ends_mapRange held within
  have echo := ends_mapRange echoed also
  rw [sized] at echo
  rw [related.sized] at ends
  have free := related.free
  refine .of_ends ends echo ?_ ?_ ?_ ?_
  · rintro _ after _ next ⟨outline, mapped⟩ ⟨also, again⟩
    have matched := mapped.matches related.toMatches ((outline.symm.trans related.outline).trans also) again
    have left := mapped.free
    have right := again.free
    exact ⟨trivial, { matched with
      sized := mapped.keeps.geometry.trans related.sized
      limited := mapped.keeps.capacity.trans related.limited
      free := by omega
      held := ⟨_, mapped.custody⟩
      echoed := ⟨_, again.custody⟩ }⟩
  · rintro _ after _ next ⟨⟨_, rfl⟩, rejected⟩ ⟨⟨_, rfl⟩, refused⟩
    refine .inr (.inr ⟨congrArg (fun free => MemoryError.frames (.insufficient _ free)) free.symm, ?_⟩)
    have matched := related.toMatches.of_unmoved rejected.toUnmoved refused.toUnmoved
    have devices : after.devices = one.devices := congrArg Memory.devices rejected.memory
    have echo : next.devices = other.devices := congrArg Memory.devices refused.memory
    exact { matched with
      sized := by rw [devices, related.sized]
      limited := by rw [rejected.memory, related.limited]
      free := by rw [echo, devices, free]
      held := rejected.memory ▸ related.held
      echoed := refused.memory ▸ related.echoed }
  · rintro _ _ _ _ ⟨short, _⟩ ⟨_, again⟩
    have few := short.few
    have enough := again.free
    omega
  · rintro _ _ _ _ ⟨_, mapped⟩ ⟨short, _⟩
    have few := short.few
    have enough := mapped.free
    omega

theorem reservable_reserving (faithful : Prop) (size : Geometry) (limit : Nat) :
    Reservable (reserving (T := T) faithful size limit) size limit where
  alike _ := rfl
  outline reserving := reserving.outline
  sized reserving := ⟨reserving.sized, reserving.geometry.trans reserving.sized⟩
  capacity reserving := ⟨reserving.limited, reserving.toMatches.capacity.trans reserving.limited⟩
  logged reserving _ _ := reserving.redrawn rfl rfl rfl rfl reserving.outline
  redrawn {state mirror} reserving _ _ same left queue right line :=
    reserving.redrawn (congrArg (Memory.mk state.devices) left) (congrArg (Memory.mk mirror.devices) right) queue line
      same
  mapped := lockstep_mapRange_reserving

/-- Both sides end alike, and what they leave matches. -/
abbrev Matching (faithful : Prop) (answers : α → β → Prop) (one : EStateM.Result MemoryError (Stage T) α)
    (other : EStateM.Result MemoryError (Stage T) β) : Prop :=
  Paired (fun _ => False) (fun answer after echo next => answers answer echo ∧ after.Matches faithful next)
    (fun reason after failure next => reason = failure ∧ after.Matches faithful next) one other

/-- Reservations on peers. -/
theorem matching_of_reserving {answers : α → β → Prop} {first : Paging T α} {second : Paging T β}
    (lockstep : ∀ size limit, Lockstep (reserving (T := T) faithful size limit) answers first second)
    (peers : one.Peers layout faithful other) : Matching faithful answers (first one) (second other) :=
  (lockstep _ _ one other peers.reserving).mono (fun _ _ _ _ ended => ⟨ended.1, ended.2.toMatches⟩)
    fun _ _ _ _ failed => ⟨failed.1, failed.2.toMatches⟩

/-- Two operations that each fault on one page, and fail only if the fault does. -/
theorem matching_of_faults {answers : α → β → Prop} {first : Paging T α} {second : Paging T β} {page : Nat}
    {okOne : α → Stage T → Prop} {okOther : β → Stage T → Prop} (peers : one.Peers layout faithful other)
    (ends : Ends first okOne (fun reason after => Declined one page reason after) one)
    (echo : Ends second okOther (fun reason after => Declined other page reason after) other)
    (fits : ∀ answer after, okOne answer after → refusal? one page = none)
    (also : ∀ answer next, okOther answer next → refusal? other page = none)
    (answered : ∀ answer after mirror next, okOne answer after → okOther mirror next →
      answers answer mirror ∧ after.Matches faithful next) : Matching faithful answers (first one) (second other) := by
  have same := refusal?_congr peers.toMatches peers.here peers.there page
  have refused {reason after} (declined : Declined one page reason after) : refusal? one page = some reason :=
    declined.refusal?_eq_some peers.here.custody peers.here.tidy
  have echoed {reason next} (declined : Declined other page reason next) : refusal? other page = some reason :=
    declined.refusal?_eq_some peers.there.custody peers.there.tidy
  refine .of_ends ends echo answered ?_ ?_ ?_
  · intro reason after failure next declined again
    refine .inr (.inr ⟨?_, peers.toMatches.of_unmoved ⟨declined.memory, declined.outline, ?_⟩
      ⟨again.memory, again.outline, ?_⟩⟩)
    · exact Option.some.inj ((refused declined).symm.trans (same ▸ echoed again))
    · simpa using (declined.turned peers.here.tidy).1.resident
    · simpa using (again.turned peers.there.tidy).1.resident
  · intro reason after answer next declined ended
    have none := also answer next ended
    rw [same, refused declined] at none
    contradiction
  · intro answer after reason next ended declined
    have none := fits answer after ended
    rw [← same, echoed declined] at none
    contradiction

theorem matching_readByte (peers : one.Peers layout faithful other) (id offset : Nat) :
    Matching faithful (fun value echo => faithful → value = echo) (readByte id offset one)
      (readByte id offset other) := by
  cases named : one.space.address? id offset with
  | none => exact paired_of_unnamed peers.toMatches peers.outline named
  | some address =>
    have echo := ends_readByte_of_named peers.there.custody ((peers.outline.address? id offset).trans named)
    rw [peers.geometry] at echo
    refine matching_of_faults peers (ends_readByte_of_named peers.here.custody named) echo (fun _ _ done => ?_)
      (fun _ _ done => ?_) ?_
    · obtain ⟨_, _, resolved⟩ := done
      exact resolved.refusal?_eq_none
    · obtain ⟨_, _, resolved⟩ := done
      exact resolved.refusal?_eq_none
    · rintro _ after _ next ⟨rfl, frame, resolved⟩ ⟨rfl, place, again⟩
      refine ⟨fun holds => (peers.byteAt holds address).symm, ?_⟩
      exact resolved.matches peers.toMatches peers.reserving.free again

theorem matching_writeByte (peers : one.Peers layout faithful other) (id offset : Nat) (value : UInt8) :
    Matching faithful (fun _ _ => True) (writeByte id offset value one) (writeByte id offset value other) := by
  cases named : one.space.address? id offset with
  | none => exact paired_of_unnamed peers.toMatches peers.outline named
  | some address =>
    have echo := ends_writeByte_of_named peers.there.custody ((peers.outline.address? id offset).trans named) value
    rw [peers.geometry] at echo
    refine matching_of_faults peers (ends_writeByte_of_named peers.here.custody named value) echo
      (fun _ _ written => ?_) (fun _ _ written => ?_) ?_
    · obtain ⟨_, _, resolved, -⟩ := written.resolved
      exact resolved.refusal?_eq_none
    · obtain ⟨_, _, resolved, -⟩ := written.resolved
      exact peers.geometry ▸ resolved.refusal?_eq_none
    · intro _ after _ next written again
      exact ⟨trivial, written.matches peers.toMatches peers.reserving.free again⟩

theorem matching_evictPages (peers : one.Peers layout faithful other) (start pages : Nat) :
    Matching faithful (fun _ _ => True) (evictPages start pages one) (evictPages start pages other) := by
  have same := peers.toMatches.pageRange start pages
  cases range : one.space.pageRange one.devices.geometry start pages with
  | error reason =>
    exact .of_refusals peers.toMatches (ends_evictPages_of_refused range)
      (ends_evictPages_of_refused (same.trans range))
  | ok first =>
    have shortage := evictionShortage?_congr peers.toMatches peers.here peers.there first pages
    have ends := ends_evictPages_of_pageRange peers.here.custody range
    have echo := ends_evictPages_of_pageRange peers.there.custody (same.trans range)
    rw [shortage, residentPages_congr peers.toMatches] at echo
    refine .of_ends ends echo ?_ ?_ ?_ ?_
    · rintro _ after _ next ⟨-, evicted⟩ ⟨-, again⟩
      exact ⟨trivial, evicted.matches peers.toMatches again⟩
    · rintro reason after failure next ⟨short, rejected⟩ ⟨also, again⟩
      exact .inr (.inr ⟨Option.some.inj (short.symm.trans also),
        peers.toMatches.of_unmoved rejected.toUnmoved again.toUnmoved⟩)
    · rintro reason _ _ _ ⟨short, -⟩ ⟨none, -⟩
      rw [none] at short
      contradiction
    · rintro _ _ reason _ ⟨none, -⟩ ⟨short, -⟩
      rw [none] at short
      contradiction

theorem matching_installPattern (peers : one.Peers layout faithful other) (start pages : Nat) :
    Matching faithful (fun _ _ => True) (installPattern start pages one) (installPattern start pages other) := by
  have same := peers.toMatches.pageRange start pages
  cases range : one.space.pageRange one.devices.geometry start pages with
  | error reason =>
    exact .of_refusals peers.toMatches (ends_installPattern_of_refused range)
      (ends_installPattern_of_refused (same.trans range))
  | ok first =>
    have within (page) (inside : page ∈ List.range' first pages) : page < one.memory.capacity :=
      peers.here.laid.lt_capacity_of_pageRange range inside
    have ends := ends_installPattern_of_pageRange peers.here.custody range
    have echo := ends_installPattern_of_pageRange peers.there.custody (same.trans range)
    refine .of_ends ends echo ?_ ?_ ?_ ?_
    · intro _ after _ next stamped again
      exact ⟨trivial, stamped.matches peers.toMatches again⟩
    · rintro _ _ _ _ ⟨-, -, page, inside, beyond⟩ -
      exact absurd (within page inside) (Nat.not_lt.mpr beyond)
    · rintro _ _ _ _ ⟨-, -, page, inside, beyond⟩ -
      exact absurd (within page inside) (Nat.not_lt.mpr beyond)
    · rintro _ _ _ _ - ⟨-, -, page, inside, beyond⟩
      rw [peers.toMatches.capacity] at beyond
      exact absurd (within page inside) (Nat.not_lt.mpr beyond)

/-- A call that ends alike on peers leaves peers, as it leaves each side alone. -/
theorem lockstep_of_call {answers : α → α → Prop} {action : Paging T α} {wrap : α → Answer} (call : Call)
    (performed : call.perform = wrap <$> action) (quiet : call.resolves? = none)
    (matching : ∀ one other : Stage T, one.Peers layout faithful other →
      Matching faithful answers (action one) (action other)) :
    Lockstep (peering (T := T) layout faithful) answers action action := by
  intro one other peers
  have solo (stage : Stage T) (solo : stage.Solo layout) :
      Ends action (fun _ after => after.Solo layout) (fun _ after => after.Solo layout) stage := by
    have ends := solo.ends_call call (by simp [Call.InArea, quiet])
    rwa [performed, ends_map] at ends
  have paired := (matching one other peers).and_ends (solo one peers.here) (solo other peers.there)
  exact paired.mono (fun _ _ _ _ ended => ⟨ended.1.1, ended.1.2, ended.2.1, ended.2.2⟩)
    fun _ _ _ _ failed => ⟨failed.1.1, failed.1.2, failed.2.1, failed.2.2⟩

theorem peering_allocate (owner id bytes : Nat) :
    Lockstep (peering (T := T) layout faithful) Eq (allocate owner id bytes) (allocate owner id bytes) :=
  lockstep_of_call (.allocate owner id bytes) rfl rfl fun _ _ peers =>
    matching_of_reserving (fun size limit => (reservable_reserving faithful size limit).lockstep_allocate _ _ _) peers

theorem peering_release (id : Nat) : Lockstep (peering (T := T) layout faithful) Eq (release id) (release id) :=
  lockstep_of_call (.release id) rfl rfl fun _ _ peers =>
    matching_of_reserving (fun size limit => (reservable_reserving faithful size limit).lockstep_release _) peers

theorem peering_grow (id bytes : Nat) :
    Lockstep (peering (T := T) layout faithful) Eq (grow id bytes) (grow id bytes) :=
  lockstep_of_call (.grow id bytes) rfl rfl fun _ _ peers =>
    matching_of_reserving (fun size limit => (reservable_reserving faithful size limit).lockstep_grow _ _) peers

theorem peering_readByte (id offset : Nat) : Lockstep (peering (T := T) layout faithful)
    (fun value echo => faithful → value = echo) (readByte id offset) (readByte id offset) :=
  lockstep_of_call (.readByte id offset) rfl rfl fun _ _ peers => matching_readByte peers id offset

theorem peering_writeByte (id offset : Nat) (value : UInt8) :
    Lockstep (peering (T := T) layout faithful) (fun _ _ => True) (writeByte id offset value)
      (writeByte id offset value) :=
  lockstep_of_call (.writeByte id offset value) rfl rfl fun _ _ peers => matching_writeByte peers id offset value

theorem peering_evictPages (start pages : Nat) : Lockstep (peering (T := T) layout faithful) (fun _ _ => True)
    (evictPages start pages) (evictPages start pages) :=
  lockstep_of_call (.evictPages start pages) rfl rfl fun _ _ peers => matching_evictPages peers start pages

theorem peering_installPattern (start pages : Nat) : Lockstep (peering (T := T) layout faithful) (fun _ _ => True)
    (installPattern start pages) (installPattern start pages) :=
  lockstep_of_call (.installPattern start pages) rfl rfl fun _ _ peers => matching_installPattern peers start pages

end Space

end DemandPaging
