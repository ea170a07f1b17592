import DemandPaging.Proofs.Maintaining

/-! # Reservations move by move

What a space has reserved changes by four moves only: an area is created, an area grows, a region is carved
from an area and stored under an unused id, and a live region is released. Everything else, on whatever
devices and however it ends, redraws the table and the queue and leaves the reservations as they are. A
call makes a few of these moves one after the other, also when it fails half-way, so what the moves keep
every call keeps.
-/

namespace DemandPaging

/-- An area gives `size` bytes away, from its free list or at its break. -/
inductive Area.Gives (area : Area) (size : Nat) : Region → Area → Prop
  | reused {region : Region} {free : FreeList} (taken : area.free.takeFirstFit? size = some (region, free)) :
    Gives area size region { area with free }
  | fresh {region : Region} {shaped : Area} (taken : area.takeFromBreak? size = some (region, shaped)) :
    Gives area size region shaped

namespace Space

open Paging

variable {T : Type} [PageTable T]

/-- One move of a space on a machine of a page size. -/
inductive Move (geometry : Geometry) : Space T → Space T → Prop
  | redrawn {before after : Space T} (outline : before.SameOutline after)
    (capacity : PageTable.capacity after.table = PageTable.capacity before.table) : Move geometry before after
  | created {space : Space T} {start : Nat} (whole : geometry.isAligned start = true)
    (below : start < space.reach geometry)
    (apart : ∀ other ∈ space.areas, other.id ≠ space.areas.length → other.overlaps start (start + 1) = false) :
    Move geometry space { space with areas := space.areas ++ [Area.empty space.areas.length start] }
  | grown {space : Space T} {id size bytes stop : Nat} {area : Area} (found : space.areas[id]? = some area)
    (positive : 0 < size) (growth : space.growth? geometry area.stop size = some (bytes, stop))
    (apart : ∀ other ∈ space.areas, other.id ≠ id → other.overlaps area.stop stop = false) :
    Move geometry space (space.setArea id { area with stop })
  | carved {space : Space T} {id key size : Nat} {area shaped : Area} {region : Region}
    (found : space.areas[id]? = some area) (positive : 0 < size) (gives : area.Gives size region shaped)
    (unused : space.regions[key]? = some none) :
    Move geometry space ((space.setArea id shaped).setRegion key (some ⟨id, region⟩))
  | released {space : Space T} {key : Nat} {live : LiveRegion} (held : space.live? key = .ok live) :
    Move geometry space ((space.setRegion key none).modifyArea live.area fun area =>
      { area with free := area.free.push live.region })

/-- Any number of moves. -/
abbrev Moves (geometry : Geometry) : Space T → Space T → Prop := Relation.ReflTransGen (Move geometry)

/-- What every move keeps, any number of moves keep. -/
theorem Moves.keeps {geometry : Geometry} {invariant : Space T → Prop}
    (step : ∀ before after, Move geometry before after → invariant before → invariant after)
    {before after : Space T} (moves : Moves geometry before after) (holds : invariant before) : invariant after := by
  induction moves with
  | refl => exact holds
  | tail _ move ih => exact step _ _ move ih

end Space

/-- One stage comes from another by moves of its space. -/
structure Stage.Moved {T : Type} [PageTable T] [LawfulTable T] (before after : Stage T) : Prop where
  moves : Space.Moves before.devices.geometry before.space after.space
  geometry : after.devices.geometry = before.devices.geometry
  formed : LawfulTable.WellFormed before.space.table → LawfulTable.WellFormed after.space.table

namespace Stage

variable {T : Type} [PageTable T] [LawfulTable T] {before after : Stage T}

theorem Moved.refl (stage : Stage T) : stage.Moved stage := ⟨.refl, rfl, id⟩

theorem Steady.moved (steady : before.Steady after) : before.Moved after :=
  ⟨.single (.redrawn steady.outline steady.capacity), steady.geometry, steady.formed⟩

theorem Steady.of_unmoved (unmoved : Space.Unmoved before after) : before.Steady after where
  outline := unmoved.outline
  geometry := congrArg (fun memory => memory.devices.geometry) unmoved.memory
  capacity := congrArg Memory.capacity unmoved.memory
  formed := by
    have table : after.space.table = before.space.table := congrArg Memory.table unmoved.memory
    rw [table]
    exact id

/-- One more move, which leaves the table. -/
theorem Moved.next (moved : before.Moved middle) {space : Space T}
    (move : Space.Move before.devices.geometry middle.space space) (table : space.table = middle.space.table)
    (log : List Event) : before.Moved { middle with log, space } :=
  ⟨moved.moves.tail move, moved.geometry, fun formed => table ▸ moved.formed formed⟩

end Stage

namespace Space

open Paging

variable {T : Type} [PageTable T] [TotalTable T] {stage : Stage T}

/-- Growth is a mapping or none, and then one move. -/
theorem ends_grow_moved (id size : Nat) :
    Ends (grow id size) (fun _ after => stage.Moved after ∧ after.space.regions = stage.space.regions)
      (fun _ after => stage.Moved after) stage := by
  have same := Stage.Moved.refl stage
  simp only [grow, ends_bind, ends_ite, ends_throw, ends_space, ends_settle, ends_geometry]
  refine ⟨fun _ => same, fun positive => ⟨fun area found => ?_, fun _ _ => same⟩⟩
  have at_id := area?_eq_ok_iff.mp found
  cases growth : stage.space.growth? stage.devices.geometry area.stop size with
  | none => exact same
  | some pair =>
    obtain ⟨bytes, stop⟩ := pair
    simp only [ends_bind]
    refine (ends_checkOverlap id area.stop stop).mono ?_ ?_
    · rintro _ stage ⟨rfl, apart⟩
      have move {after : Stage T} (steady : stage.Steady after) (log : List Event) :
          stage.Moved { after with log, space := after.space.setArea id { area with stop } } := by
        have grows := (growth?_congr steady.capacity stage.devices.geometry area.stop size).trans growth
        refine steady.moved.next (.grown ?_ (Nat.pos_of_ne_zero positive) grows ?_) rfl log
        · rw [steady.outline.areas, at_id]
        · rw [steady.outline.areas]
          exact apart
      simp only [ends_ite, ends_bind, ends_modifySpace, ends_emit, ends_pure]
      refine ⟨fun _ => ?_, fun _ => ⟨move (.refl stage) _, rfl⟩⟩
      refine (steadies_mapRange stage area.stop stop stage (.refl _)).mono (fun _ after steady => ?_) ?_
      · exact ⟨move steady _, steady.outline.regions⟩
      · exact fun _ _ steady => steady.2.moved
    · exact fun _ _ rejected => (Stage.Steady.of_unmoved rejected.toUnmoved).moved

theorem ends_carveGrown_moved (id size : Nat) :
    Ends (carveGrown id size)
      (fun region after => ∃ middle area shaped, stage.Moved middle ∧ middle.space.areas[id]? = some area ∧
        area.Gives size region shaped ∧ middle.space.regions = stage.space.regions ∧
        after = { middle with space := middle.space.setArea id shaped })
      (fun _ after => stage.Moved after) stage := by
  rw [carveGrown, ends_bind]
  apply (ends_grow_moved id size).answers
  rintro _ middle ⟨moved, regions⟩
  simp only [ends_bind, ends_space, ends_settle]
  refine ⟨fun area found => ?_, fun _ _ => moved⟩
  cases taken : area.takeFromBreak? size with
  | none => exact moved
  | some pair =>
    obtain ⟨region, shaped⟩ := pair
    exact ⟨middle, area, shaped, moved, area?_eq_ok_iff.mp found, .fresh taken, regions, rfl⟩

theorem ends_carve_moved (id size : Nat) :
    Ends (carve id size)
      (fun region after => ∃ middle area shaped, stage.Moved middle ∧ middle.space.areas[id]? = some area ∧
        area.Gives size region shaped ∧ middle.space.regions = stage.space.regions ∧
        after = { middle with space := middle.space.setArea id shaped })
      (fun _ after => stage.Moved after) stage := by
  simp only [carve, ends_bind, ends_space, ends_settle]
  refine ⟨fun area found => ?_, fun _ _ => .refl stage⟩
  have at_id := area?_eq_ok_iff.mp found
  cases fit : area.free.takeFirstFit? size with
  | some pair =>
    obtain ⟨region, free⟩ := pair
    exact ⟨stage, area, _, .refl stage, at_id, .reused fit, rfl, rfl⟩
  | none =>
    cases taken : area.takeFromBreak? size with
    | none => exact ends_carveGrown_moved id size
    | some pair =>
      obtain ⟨region, shaped⟩ := pair
      exact ⟨stage, area, shaped, .refl stage, at_id, .fresh taken, rfl, rfl⟩

theorem ends_allocate_moved (owner id size : Nat) :
    Ends (allocate owner id size) (fun _ after => stage.Moved after) (fun _ after => stage.Moved after) stage := by
  have same := Stage.Moved.refl stage
  simp only [allocate, ends_bind, ends_space, ends_settle]
  refine ⟨fun slot found => ?_, fun _ _ => same⟩
  cases slot with
  | some live => exact same
  | none =>
    have unused := slot?_eq_ok_iff.mp found
    simp only [ends_ite, ends_bind, ends_throw]
    refine ⟨fun _ => same, fun positive => ?_⟩
    apply (ends_carve_moved owner size).answers
    rintro region _ ⟨middle, area, shaped, moved, at_owner, gives, regions, rfl⟩
    simp only [ends_bind, ends_modifySpace, ends_emit, ends_pure]
    refine moved.next (.carved at_owner (Nat.pos_of_ne_zero positive) gives ?_) rfl _
    rw [regions, unused]

theorem ends_release_moved (id : Nat) :
    Ends (release id) (fun _ after => stage.Moved after) (fun _ after => stage.Moved after) stage := by
  simp only [release, ends_bind, ends_space, ends_settle]
  refine ⟨fun live held => ?_, fun _ _ => .refl stage⟩
  simp only [ends_bind, ends_modifySpace, ends_emit, ends_pure]
  exact (Stage.Moved.refl stage).next (.released held) rfl _

theorem ends_createArea_moved (start : Nat) :
    Ends (createArea start) (fun _ after => stage.Moved after) (fun _ after => stage.Moved after) stage := by
  have same := Stage.Moved.refl stage
  simp only [createArea, ends_bind, ends_geometry, ends_space, ends_ite, ends_throw]
  refine ⟨fun _ => same, fun whole => ⟨fun _ => same, fun below => ?_⟩⟩
  refine (ends_checkOverlap _ _ _).mono ?_ fun _ _ rejected => (Stage.Steady.of_unmoved rejected.toUnmoved).moved
  rintro _ stage ⟨rfl, apart⟩
  simp only [ends_bind, ends_modifySpace, ends_emit, ends_pure]
  refine (Stage.Moved.refl stage).next (.created ?_ (Nat.lt_of_not_le below) apart) rfl _
  simpa using whole

end Space

/-- A call moves its space, whatever the devices are and whether it succeeds or not. -/
theorem Call.ends_moved {T : Type} [PageTable T] [TotalTable T] {stage : Stage T}
    (formed : LawfulTable.WellFormed stage.space.table) (call : Call) :
    Ends call.perform (fun _ after => stage.Moved after) (fun _ after => stage.Moved after) stage := by
  have same := Stage.Moved.refl stage
  have spared {α : Type} {fails : MemoryError → Prop} {action : Paging T α}
      (ends : Ends action (fun _ after => stage.Steady after)
        (fun reason after => fails reason ∧ stage.Steady after) stage) :
      Ends action (fun _ after => stage.Moved after) (fun _ after => stage.Moved after) stage :=
    ends.mono (fun _ _ steady => steady.moved) fun _ _ steady => steady.2.moved
  cases call with
  | allocate owner id size =>
    rw [perform, ends_map]
    exact Space.ends_allocate_moved owner id size
  | release id =>
    rw [perform, ends_map]
    exact Space.ends_release_moved id
  | grow id size =>
    rw [perform, ends_map]
    exact (Space.ends_grow_moved id size).answers fun _ _ moved => moved.1
  | createArea start =>
    rw [perform, ends_map]
    exact Space.ends_createArea_moved start
  | resolve page =>
    rw [perform, ends_map]
    exact spared (Space.spares_resolve formed page stage (.refl _))
  | readByte id offset =>
    rw [perform, ends_map]
    exact spared (Space.spares_readByte formed id offset)
  | writeByte id offset value =>
    rw [perform, ends_map]
    exact spared (Space.spares_writeByte formed id offset value)
  | evictPages start pages =>
    rw [perform, ends_map]
    exact spared (Space.steadies_evictPages stage start pages stage (.refl _))
  | installPattern start pages =>
    rw [perform, ends_map]
    exact spared (Space.steadies_installPattern stage start pages stage (.refl _))
  | usage id =>
    simp only [perform, ends_bind, ends_pure, Paging.ends_space, ends_settle]
    exact ⟨fun _ _ => same, fun _ _ => same⟩
  | region id =>
    simp only [perform, ends_bind, ends_pure, Paging.ends_space, ends_settle]
    exact ⟨fun _ _ => same, fun _ _ => same⟩
  | area id =>
    simp only [perform, ends_bind, ends_pure, Paging.ends_space, ends_settle]
    exact ⟨fun _ _ => same, fun _ _ => same⟩
  | dumpTable start stop =>
    simp only [perform, Space.dumpTable, ends_map, ends_bind, ends_pure, Paging.ends_space, Paging.ends_geometry,
      ends_modify]
    exact ⟨.refl, rfl, id⟩

end DemandPaging
