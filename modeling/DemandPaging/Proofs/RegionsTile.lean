import DemandPaging.Proofs.Partition

/-! # Regions tile their areas

In every state that a run can reach, on any devices, the break of an area stands between its page-aligned
ends, and the live and free regions carved from the area are the tiles of the range below the break. So no
byte is handed out twice and none is lost: no two live regions overlap, and the live, the free and the
never used bytes of an area add up to what it reserves.
-/

namespace DemandPaging

/-- Every byte of an area is accounted for. -/
structure Space.Accounts {T : Type} (space : Space T) (geometry : Geometry) (id : Nat) (area : Area) : Prop where
  ordered : area.start ≤ area.brk ∧ area.brk ≤ area.stop
  whole : geometry.isAligned area.start = true ∧ geometry.isAligned area.stop = true
  tiles : Region.Tiles (space.regionsOf id ++ area.free) area.start area.brk
  balanced : ∃ usage, space.usage id = .ok usage ∧ usage.live + usage.free + usage.unused = usage.reserved ∧
    usage.reserved < Word.limit

namespace Space.Partitioned

variable {T : Type} [PageTable T] {space : Space T} {geometry : Geometry}

theorem accounts (partitioned : space.Partitioned geometry) {id : Nat} {area : Area}
    (found : space.areas[id]? = some area) : space.Accounts geometry id area := by
  have laid := partitioned.laid.areas area (List.mem_of_getElem? found)
  have tiles := partitioned.tiled id area found
  refine ⟨⟨laid.start_le, laid.brk_le⟩, ⟨?_, ?_⟩, tiles, ?_⟩
  · exact (geometry.isAligned_iff _).mpr laid.start_whole
  · exact (geometry.isAligned_iff _).mpr laid.stop_whole
  · have named : space.area? id = .ok area := area?_eq_ok_iff.mpr found
    have total := tiles.totalSize
    rw [Region.totalSize_append] at total
    refine ⟨⟨area.stop - area.start, Region.totalSize (space.regionsOf id), area.free.total, area.stop - area.brk⟩,
      ?_, ?_, ?_⟩
    · rw [usage, named]
      rfl
    · have ordered := laid.start_le
      have bounded := laid.brk_le
      show Region.totalSize (space.regionsOf id) + Region.totalSize area.free + (area.stop - area.brk) =
        area.stop - area.start
      omega
    · exact (Nat.sub_le ..).trans_lt (laid.stop_le.trans_lt (reach_lt space geometry))

omit [PageTable T] in
/-- What lies below the break of an area, the area claims. -/
theorem holds_claim_of_within {area : Area} {region : Region} (within : region.Within area.start area.brk)
    (brk_le : area.brk ≤ area.stop) {address : Nat} (held : region.Holds address) : area.claim.Holds address := by
  obtain ⟨low, -, high⟩ := within
  obtain ⟨above, below⟩ := held
  have solid : area.start < area.stop := by omega
  simp only [Area.claim, Area.claimedStop, if_pos solid]
  constructor
  · exact low.trans above
  · exact below.trans_le (high.trans brk_le)

/-- Two live regions share no address, whatever areas they were carved from. -/
theorem regions_apart (partitioned : space.Partitioned geometry) {one other : Nat} {first second : LiveRegion}
    (at_one : space.live? one = .ok first) (at_other : space.live? other = .ok second) (distinct : one ≠ other) :
    first.region.Apart second.region := by
  obtain ⟨area, found, inside⟩ := partitioned.laid.live one first at_one
  obtain ⟨rival, also, within⟩ := partitioned.laid.live other second at_other
  by_cases same : first.area = second.area
  · have apart := (List.pairwise_append.mp (partitioned.tiled first.area area found).apart).1
    rw [regionsOf, List.pairwise_map] at apart
    have held : (one, first) ∈ space.liveRegions.filter fun held => held.2.area == first.area :=
      List.mem_filter.mpr ⟨mem_liveRegions.mpr at_one, beq_self_eq_true _⟩
    have kept : (other, second) ∈ space.liveRegions.filter fun held => held.2.area == first.area :=
      List.mem_filter.mpr ⟨mem_liveRegions.mpr at_other, by simpa using same.symm⟩
    have symm : Std.Symm fun (one other : Nat × LiveRegion) => one.2.region.Apart other.2.region :=
      ⟨fun _ _ apart => apart.symm⟩
    exact apart.forall held kept fun equal => distinct (congrArg Prod.fst equal)
  · -- The areas claim ranges that do not meet, and each region lies in what its area claims.
    have claims := partitioned.apart first.area second.area area rival found also same
    intro address first_holds second_holds
    have brk_le := (partitioned.laid.areas area (List.mem_of_getElem? found)).brk_le
    have rival_le := (partitioned.laid.areas rival (List.mem_of_getElem? also)).brk_le
    refine claims address ?_ ?_
    · exact holds_claim_of_within inside brk_le first_holds
    · exact holds_claim_of_within within rival_le second_holds

end Space.Partitioned

namespace Host

theorem regions_tile_areas (machine : Machine) (run : List Operation) {number : Nat} {space : Space StandardTable}
    (found : ((start machine).after run).space? number = some space) :
    (∀ id area, space.areas[id]? = some area → space.Accounts machine.devices.geometry id area) ∧
      ∀ one other first second, space.live? one = .ok first → space.live? other = .ok second → one ≠ other →
        first.region.Apart second.region := by
  have partitioned := (partitioned_after machine run).spaces number space found
  constructor
  · intro id area at_id
    exact partitioned.accounts at_id
  · intro one other first second at_one at_other distinct
    exact partitioned.regions_apart at_one at_other distinct

/-- A region is released, its front is allocated again, and what is left of it is too small for the next. -/
def carvingRun : List Operation :=
  [.add .onDemand (.flat 8), .call 0 (.allocate 0 0 300), .call 0 (.allocate 0 1 20), .call 0 (.release 0),
    .call 0 (.allocate 0 2 100), .call 0 (.allocate 0 3 250)]

private theorem space_after_carving :
    (((start bareMachine).after carvingRun).space? 0).map (fun space => (space.areas, space.regionsOf 0)) =
      some ([⟨0, 0, 768, 570, [⟨100, 300⟩]⟩], [⟨300, 320⟩, ⟨0, 100⟩, ⟨320, 570⟩]) := by
  decide +kernel

theorem regions_tile_areas_of_carving :
    ∃ space, ((start bareMachine).after carvingRun).space? 0 = some space ∧
      space.regionsOf 0 = [⟨300, 320⟩, ⟨0, 100⟩, ⟨320, 570⟩] ∧
      space.Accounts .standard 0 ⟨0, 0, 768, 570, [⟨100, 300⟩]⟩ := by
  obtain ⟨space, found, same⟩ := Option.map_eq_some_iff.mp space_after_carving
  obtain ⟨areas, regions⟩ := Prod.mk.inj same
  refine ⟨space, found, regions, (regions_tile_areas bareMachine carvingRun found).1 0 _ ?_⟩
  rw [areas]
  rfl

end Host

end DemandPaging
