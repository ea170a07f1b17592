import DemandPaging.Proofs.Disciplined

/-! # No frame or slot leaks

In a disciplined run every frame and slot in use is named by an entry of a live space. As no two entries name
the same one, each device has as many frames in use as there are entries that name it, and when no space is
left all of its frames are free.
-/

namespace DemandPaging

variable {T : Type} [PageTable T]

/-- The frame or slot of a device that an entry names. -/
def Space.frameOn? (id : DeviceId) (entry : Entry) : Option Nat :=
  match home? entry with
  | some (device, frame) => if device = id then some frame else none
  | none => none

theorem Space.frameOn?_eq_some_iff {id : DeviceId} {entry : Entry} {frame : Nat} :
    frameOn? id entry = some frame ↔ home? entry = some (id, frame) := by
  unfold frameOn?
  cases home? entry with
  | none => simp
  | some home => simp [Prod.ext_iff]

/-- What the entries of a space name on a device, once for each entry. -/
def Space.framesOn (space : Space T) (id : DeviceId) : List Nat :=
  (PageTable.mapped space.table).filterMap fun (_, entry) => frameOn? id entry

theorem Space.mem_framesOn_iff [LawfulTable T] {space : Space T} (formed : LawfulTable.WellFormed space.table)
    {id : DeviceId} {frame : Nat} :
    frame ∈ space.framesOn id ↔ ∃ page, home? (PageTable.lookup space.table page) = some (id, frame) := by
  simp only [framesOn, List.mem_filterMap, Prod.exists, frameOn?_eq_some_iff, LawfulTable.mem_mapped_iff formed]
  constructor
  · rintro ⟨page, _, ⟨rfl, -⟩, named⟩
    exact ⟨page, named⟩
  · rintro ⟨page, named⟩
    refine ⟨page, _, ⟨rfl, fun zero => ?_⟩, named⟩
    rw [zero] at named
    contradiction

namespace Host

/-- What the entries of all spaces name on a device, once for each entry. -/
def framesOn (host : Host T) (id : DeviceId) : List Nat :=
  (host.spaces.filterMap fun slot => slot).flatMap fun space => space.framesOn id

/-- Every home in use is that of some page. -/
def Named (host : Host T) : Prop :=
  ∀ home, host.machine.devices.InUse home → ∃ index, host.homeOf index = some home

/-- Every frame and slot in use is named by an entry, and the entries account for all that is not free. -/
structure NoLeaks (host : Host T) : Prop where
  named : ∀ id device frame, host.machine.devices.get? id = some device → frame ∈ device.pool.inUse →
    ∃ number space page, host.space? number = some space ∧
      Space.home? (PageTable.lookup space.table page) = some (id, frame)
  counted : ∀ id device, host.machine.devices.get? id = some device →
    device.freeCount + (host.framesOn id).length = device.frames
  returned : (∀ number, host.space? number = none) → ∀ id device, host.machine.devices.get? id = some device →
    device.freeCount = device.frames

section Counting

variable [LawfulTable T] {host : Host T}

theorem Custody.mem_framesOn_iff (custody : host.Custody) {id : DeviceId} {frame : Nat} :
    frame ∈ host.framesOn id ↔ ∃ index, host.homeOf index = some (id, frame) := by
  simp only [framesOn, List.mem_flatMap, List.mem_filterMap, homeOf_eq_some_iff, Prod.exists]
  constructor
  · rintro ⟨space, ⟨_, member, rfl⟩, held⟩
    obtain ⟨number, at_number⟩ := List.mem_iff_getElem?.mp member
    have found := space?_eq_some_iff.mpr at_number
    obtain ⟨page, named⟩ := (Space.mem_framesOn_iff (custody.formed number space found)).mp held
    exact ⟨number, page, space, found, named⟩
  · rintro ⟨number, page, space, found, named⟩
    have member := List.mem_of_getElem? (space?_eq_some_iff.mp found)
    have held := (Space.mem_framesOn_iff (custody.formed number space found)).mpr ⟨page, named⟩
    exact ⟨space, ⟨_, member, rfl⟩, held⟩

/-- Entries that name the same frame or slot are one entry. -/
theorem Custody.same_entry (custody : host.Custody) {number other page place : Nat} {space kept : Space T}
    {entry copy : Entry} {id : DeviceId} {frame : Nat} (found : host.space? number = some space)
    (present : host.space? other = some kept) (listed : (page, entry) ∈ PageTable.mapped space.table)
    (also : (place, copy) ∈ PageTable.mapped kept.table) (held : Space.frameOn? id entry = some frame)
    (same : Space.frameOn? id copy = some frame) : number = other ∧ page = place := by
  rw [Space.frameOn?_eq_some_iff] at held same
  have read := ((LawfulTable.mem_mapped_iff (custody.formed number space found)).mp listed).1
  have read_other := ((LawfulTable.mem_mapped_iff (custody.formed other kept present)).mp also).1
  have named : host.homeOf (number, page) = some (id, frame) :=
    homeOf_eq_some_iff.mpr ⟨space, found, (congrArg Space.home? read).trans held⟩
  have named_other : host.homeOf (other, place) = some (id, frame) :=
    homeOf_eq_some_iff.mpr ⟨kept, present, (congrArg Space.home? read_other).trans same⟩
  exact Prod.mk.inj (custody.unshared _ _ _ named named_other)

theorem Custody.framesOn_nodup (custody : host.Custody) (id : DeviceId) : (host.framesOn id).Nodup := by
  rw [List.Nodup, framesOn, List.pairwise_flatMap]
  constructor
  · intro space member
    obtain ⟨_, inside, rfl⟩ := List.mem_filterMap.mp member
    obtain ⟨number, at_number⟩ := List.mem_iff_getElem?.mp inside
    have found := space?_eq_some_iff.mpr at_number
    rw [Space.framesOn, List.pairwise_filterMap]
    refine (LawfulTable.mapped_ascend (custody.formed number space found)).imp_of_mem ?_
    rintro one other listed also before frame held _ same rfl
    exact Nat.ne_of_lt before (custody.same_entry found found listed also held same).2
  · rw [List.pairwise_filterMap, List.pairwise_iff_getElem]
    rintro number other bound within before space at_number kept at_other frame held _ same rfl
    have found := space?_eq_some_iff.mpr (List.getElem?_eq_some_iff.mpr ⟨bound, at_number⟩)
    have present := space?_eq_some_iff.mpr (List.getElem?_eq_some_iff.mpr ⟨within, at_other⟩)
    obtain ⟨⟨page, entry⟩, listed, held⟩ := List.mem_filterMap.mp held
    obtain ⟨⟨place, copy⟩, also, same⟩ := List.mem_filterMap.mp same
    exact Nat.ne_of_lt before (custody.same_entry found present listed also held same).1

/-- When what is in use has a name, the entries account for all that is not free. -/
theorem Custody.freeCount_add_framesOn (custody : host.Custody) (named : host.Named) {id : DeviceId} {device : Device}
    (at_id : host.machine.devices.get? id = some device) :
    device.freeCount + (host.framesOn id).length = device.frames := by
  apply (custody.sound.pools id device at_id).freeCount_add (custody.framesOn_nodup id)
  intro frame
  rw [custody.mem_framesOn_iff]
  constructor
  · rintro ⟨index, owned⟩
    obtain ⟨_, same, held⟩ := custody.inUse index _ owned
    obtain rfl := Option.some.inj (at_id.symm.trans same)
    exact held
  · intro held
    exact named (id, frame) ⟨device, at_id, held⟩

theorem Custody.noLeaks (custody : host.Custody) (named : host.Named) : host.NoLeaks where
  named id device frame at_id held := by
    obtain ⟨⟨number, page⟩, owned⟩ := named (id, frame) ⟨device, at_id, held⟩
    obtain ⟨space, found, entry⟩ := homeOf_eq_some_iff.mp owned
    exact ⟨number, space, page, found, entry⟩
  counted _ _ := custody.freeCount_add_framesOn named
  returned none id device at_id := by
    have empty : host.framesOn id = [] := by
      apply List.eq_nil_iff_forall_not_mem.mpr
      intro frame held
      obtain ⟨index, owned⟩ := custody.mem_framesOn_iff.mp held
      obtain ⟨space, found, -⟩ := homeOf_eq_some_iff.mp owned
      rw [none] at found
      contradiction
    rw [← custody.freeCount_add_framesOn named at_id, empty, List.length_nil, Nat.add_zero]

end Counting

variable {host : Host StandardTable} {number : Nat} {space : Space StandardTable}

/-- What a stage has in use is named by its space or, if it is reserved, by another one. -/
theorem Named.put (named : host.Named) (found : host.space? number = some space) {after : Stage StandardTable}
    (custody : after.memory.Custody (host.elsewhere number)) : (host.put number after).Named := by
  intro home held
  rcases (custody.accounts.inUse_iff home).mp held with reserved | ⟨page, owned⟩
  · obtain ⟨index, owned⟩ := named home reserved.1
    refine ⟨index, ?_⟩
    rw [homeOf_put found, if_neg]
    · exact owned
    · rintro rfl
      exact reserved.2 index.2 owned
  · refine ⟨(number, page), ?_⟩
    rw [homeOf_put found, if_pos rfl]
    exact owned

theorem Named.step (named : host.Named) (tidy : host.Tidy) (operation : Operation) :
    (host.step operation).Named := by
  have stepped := tidy.custody.stepped operation
  generalize host.step operation = next at stepped
  cases stepped with
  | unknownCall absent => exact named
  | called found ran => exact named.put found (tidy.custody_called found ran).1
  | added =>
    intro home held
    obtain ⟨index, owned⟩ := named home held
    refine ⟨index, ?_⟩
    obtain ⟨space, found, -⟩ := homeOf_eq_some_iff.mp owned
    rw [homeOf_add, if_neg (Nat.ne_of_lt (lt_length found))]
    exact owned
  | unknownDrop absent => exact named
  | @dropped number space after found left =>
    intro home held
    obtain ⟨index, owned⟩ := named.put found left.custody home held
    refine ⟨index, ?_⟩
    rw [forget, homeOf_set _ _ (lt_length (space?_put found after)), if_neg]
    · exact owned
    · rintro rfl
      rw [homeOf_put found, if_pos rfl, left.homeOf] at owned
      contradiction
  | activated devices =>
    intro home held
    rw [devices] at held
    exact named home held

variable {config : MemoryConfig} {machine : Machine}

/-- No frame and no slot leaks in a disciplined run. -/
theorem noLeaks_of_disciplined (built : config.build = .ok machine) (word : config.ramSize < Word.limit)
    {run : List Operation} (disciplined : (start machine).Disciplined run) : ((start machine).after run).NoLeaks := by
  have kept : ((start machine).after run).Tidy ∧ ((start machine).after run).Named := by
    refine disciplined_induction (motive := fun _ host => host.Tidy ∧ host.Named) ⟨tidy_start built word, ?_⟩ ?_
      disciplined
    · exact fun home held => (MemoryConfig.not_inUse_of_build built home held).elim
    · rintro run operation ⟨tidy, named⟩ inside
      rw [after_concat]
      exact ⟨tidy.step inside, named.step tidy operation⟩
  exact kept.1.custody.noLeaks kept.2

/-- The only frame of a space that was dropped goes to another space, where two pages take turns in it. -/
def handedOnRun : List Operation :=
  [.add .onDemand (.flat 4), .call 0 (.grow 0 256), .call 0 (.resolve 0), .drop 0, .add .onDemand .radix,
    .call 1 (.grow 0 512), .call 1 (.resolve 0), .call 1 (.resolve 1)]

theorem noLeaks_of_handedOn :
    ∃ machine, MemoryConfig.cramped.build = .ok machine ∧ (start machine).Disciplined handedOnRun ∧
      ((start machine).after handedOnRun).framesOn .ram = [0] ∧
      ((start machine).after handedOnRun).framesOn (.swap 0) = [0] ∧
      ((start machine).after handedOnRun).NoLeaks :=
  ⟨_, rfl, by decide +kernel, by decide +kernel, by decide +kernel,
    noLeaks_of_disciplined (show MemoryConfig.cramped.build = .ok _ from rfl) (by decide) (by decide +kernel)⟩

end Host

end DemandPaging
