import DemandPaging.Proofs.Reservations
import DemandPaging.Proofs.Starts
import DemandPaging.Proofs.Tiling

/-! # Partitions

The addresses of a space are shared out twice. Its areas claim ranges that do not meet, each claiming its
start even while it is empty; and the regions carved from an area, the live ones and the free ones, tile
the area up to its break. Both hold of a new space and are kept by every move, so they hold of every space
that a run reaches, whatever the devices are like. Two live regions never share an address, and the
accounting of an area adds up.
-/

namespace DemandPaging

/-- The range that an area claims. -/
def Area.claim (area : Area) : Region := ⟨area.start, area.claimedStop⟩

namespace Space

variable {T : Type} {space : Space T} {key id : Nat} {live : LiveRegion}

/-- The live regions carved from an area. -/
def regionsOf (space : Space T) (id : Nat) : List Region :=
  (space.liveRegions.filter fun held => held.2.area == id).map fun held => held.2.region

theorem mem_liveRegions : (key, live) ∈ space.liveRegions ↔ space.live? key = .ok live := by
  rw [live?_eq_ok_iff]
  simp only [liveRegions, List.mem_filterMap, Prod.exists, List.mem_zipIdx_iff_getElem?, Option.map_eq_some_iff,
    Prod.mk.injEq, Vector.getElem?_toList]
  constructor
  · rintro ⟨slot, index, found, held, rfl, rfl, rfl⟩
    exact found
  · intro found
    exact ⟨some live, key, found, live, rfl, rfl, rfl⟩

/-- An unused slot of a list is filled. -/
private theorem used_set_perm {α : Type} {slots : List (Option α)} {key : Nat} (unused : slots[key]? = some none)
    (value : α) (first : Nat) :
    (((slots.set key (some value)).zipIdx first).filterMap fun (slot, id) => slot.map fun held => (id, held)).Perm
      ((first + key, value) :: (slots.zipIdx first).filterMap fun (slot, id) => slot.map fun held => (id, held)) := by
  induction slots generalizing key first with
  | nil => contradiction
  | cons slot rest ih =>
    cases key with
    | zero =>
      obtain rfl : slot = none := Option.some.inj unused
      exact .refl _
    | succ key =>
      have later := @ih key unused (first + 1)
      rw [Nat.succ_add_eq_add_succ first key] at later
      cases slot with
      | none => exact later
      | some held => exact (later.cons _).trans (.swap ..)

/-- A region is stored under an unused id. -/
theorem liveRegions_setRegion (unused : space.regions[key]? = some none) (live : LiveRegion) :
    ((space.setRegion key (some live)).liveRegions).Perm ((key, live) :: space.liveRegions) := by
  have slots : space.regions.toList[key]? = some none := by
    rw [Vector.getElem?_toList, unused]
  have filled := used_set_perm slots live 0
  rw [Nat.zero_add] at filled
  simp only [liveRegions, setRegion, Vector.toList_setIfInBounds]
  exact filled

theorem regionsOf_setRegion (unused : space.regions[key]? = some none) (live : LiveRegion) (id : Nat) :
    ((space.setRegion key (some live)).regionsOf id).Perm
      (if live.area = id then live.region :: space.regionsOf id else space.regionsOf id) := by
  have listed := ((liveRegions_setRegion unused live).filter fun held => held.2.area == id).map fun held =>
    held.2.region
  rw [List.filter_cons] at listed
  by_cases owned : live.area = id
  · rw [if_pos owned]
    rwa [if_pos (by simpa using owned)] at listed
  · rw [if_neg owned]
    rwa [if_neg (by simpa using owned)] at listed

end Space

namespace Area.Gives

variable {area shaped : Area} {size : Nat} {region : Region}

/-- Only the break and the free list change, and the break does not fall. -/
theorem shape (gives : area.Gives size region shaped) :
    shaped.id = area.id ∧ shaped.start = area.start ∧ shaped.stop = area.stop ∧ area.brk ≤ shaped.brk := by
  cases gives with
  | reused taken => exact ⟨rfl, rfl, rfl, le_rfl⟩
  | fresh taken =>
    obtain ⟨-, -, -, rfl⟩ := Space.takeFromBreak?_eq_some_iff.mp taken
    exact ⟨rfl, rfl, rfl, Nat.le_add_right ..⟩

theorem laid (gives : area.Gives size region shaped) {geometry : Geometry} {reach : Nat}
    (laid : area.Laid geometry reach) : shaped.Laid geometry reach ∧ region.Within shaped.start shaped.brk := by
  cases gives with
  | reused taken =>
    obtain ⟨within, others⟩ := FreeList.takeFirstFit?_within laid.free taken
    exact ⟨{ laid with free := others }, within⟩
  | fresh taken =>
    obtain ⟨-, fits, rfl, rfl⟩ := Space.takeFromBreak?_eq_some_iff.mp taken
    exact ⟨Space.laid_carved laid fits, laid.start_le, Nat.le_add_right .., le_rfl⟩

/-- The region given away is cut from the free regions or added above them. -/
theorem tiles (gives : area.Gives size region shaped) (positive : 0 < size) (ordered : area.start ≤ area.brk)
    {live : List Region} (tiles : Region.Tiles (live ++ area.free) area.start area.brk) :
    Region.Tiles (region :: (live ++ shaped.free)) shaped.start shaped.brk := by
  cases gives with
  | reused taken => exact FreeList.tiles_of_takeFirstFit? tiles positive taken
  | fresh taken =>
    obtain ⟨-, -, rfl, rfl⟩ := Space.takeFromBreak?_eq_some_iff.mp taken
    exact tiles.extend ordered (Nat.lt_add_of_pos_right positive)

end Area.Gives

namespace Space

variable {T : Type} [PageTable T] {space before after : Space T} {geometry : Geometry}

/-- How the addresses of a space are shared out. -/
structure Partitioned (space : Space T) (geometry : Geometry) : Prop where
  laid : space.Laid geometry
  apart : ∀ (id other : Nat) (area rival : Area), space.areas[id]? = some area →
    space.areas[other]? = some rival → id ≠ other → area.claim.Apart rival.claim
  tiled : ∀ (id : Nat) (area : Area), space.areas[id]? = some area →
    Region.Tiles (space.regionsOf id ++ area.free) area.start area.brk

omit [PageTable T] in
/-- What an area claims after it grew is what it claimed before, or lies between its ends. -/
private theorem holds_claim_of_grown {area shaped : Area} (start : shaped.start = area.start)
    (stop_le : area.stop ≤ shaped.stop) {address : Nat} (inside : shaped.claim.Holds address) :
    area.claim.Holds address ∨ area.stop ≤ address ∧ address < shaped.stop := by
  simp only [Region.Holds, Area.claim, Area.claimedStop] at inside ⊢
  split at inside <;> split <;> omega

/-- No claim meets that of an area which was reshaped. -/
theorem Reshapes.claims_apart {id : Nat} {area shaped : Area}
    (reshapes : before.Reshapes geometry id area shaped after) (partitioned : before.Partitioned geometry)
    {place : Nat} {rival : Area} (found : before.areas[place]? = some rival) (away : place ≠ id) :
    shaped.claim.Apart rival.claim := by
  have old := partitioned.apart id place area rival reshapes.found found (Ne.symm away)
  intro address inside meets
  rcases holds_claim_of_grown reshapes.same_start reshapes.stop_le inside with before | ⟨above, below⟩
  · exact old address before meets
  · rcases reshapes.apart with unmoved | apart
    · omega
    · have distinct : rival.id ≠ area.id := by
        rw [partitioned.laid.ids place rival found, partitioned.laid.ids id area reshapes.found]
        exact away
      have overlaps := apart rival (List.mem_of_getElem? found) distinct
      obtain ⟨low, high⟩ : rival.start ≤ address ∧ address < rival.claimedStop := meets
      simp only [Area.overlaps, Bool.and_eq_false_iff, decide_eq_false_iff_not] at overlaps
      omega

/-- A space stays shared out if the area that was reshaped is tiled and the regions of the others stay. -/
theorem Partitioned.of_reshapes {id : Nat} {area shaped : Area}
    (partitioned : before.Partitioned geometry) (reshapes : before.Reshapes geometry id area shaped after)
    (live : ∀ key live, after.live? key = .ok live → before.live? key = .ok live ∨
      live.area = id ∧ live.region.Within shaped.start shaped.brk)
    (tiles : Region.Tiles (after.regionsOf id ++ shaped.free) shaped.start shaped.brk)
    (others : ∀ other, other ≠ id → (before.regionsOf other).Perm (after.regionsOf other)) :
    after.Partitioned geometry := by
  have elsewhere {place : Nat} {rival : Area} (found : after.areas[place]? = some rival) :
      (place = id ∧ rival = shaped) ∨ (place ≠ id ∧ before.areas[place]? = some rival) := by
    rw [reshapes.areas] at found
    by_cases same : place = id
    · subst same
      rw [List.getElem?_set_self reshapes.lt_length] at found
      exact .inl ⟨rfl, (Option.some.inj found).symm⟩
    · rw [List.getElem?_set_ne (Ne.symm same)] at found
      exact .inr ⟨same, found⟩
  refine ⟨reshapes.laid_after partitioned.laid live, ?_, ?_⟩
  · intro one other first second at_one at_other distinct
    rcases elsewhere at_one with ⟨rfl, rfl⟩ | ⟨away, old⟩
    · rcases elsewhere at_other with ⟨same, -⟩ | ⟨away, old⟩
      · exact absurd same.symm distinct
      · exact reshapes.claims_apart partitioned old away
    · rcases elsewhere at_other with ⟨rfl, rfl⟩ | ⟨-, also⟩
      · exact (reshapes.claims_apart partitioned old away).symm
      · exact partitioned.apart one other first second old also distinct
  · intro place rival found
    rcases elsewhere found with ⟨rfl, rfl⟩ | ⟨away, old⟩
    · exact tiles
    · exact (partitioned.tiled place rival old).perm ((others place away).append_right _)

omit [PageTable T] in
theorem regionsOf_congr (regions : after.regions = before.regions) (id : Nat) :
    after.regionsOf id = before.regionsOf id := by
  rw [regionsOf, regionsOf, liveRegions, liveRegions, regions]

omit [PageTable T] in
/-- The regions of an area before one of them is released. -/
theorem regionsOf_released {key : Nat} {live : LiveRegion} (held : space.live? key = .ok live) (id : Nat) :
    (space.regionsOf id).Perm (if live.area = id then live.region :: (space.setRegion key none).regionsOf id
      else (space.setRegion key none).regionsOf id) := by
  rw [live?_eq_ok_iff] at held
  obtain ⟨bound, at_key⟩ := Vector.getElem?_eq_some_iff.mp held
  have unused : (space.setRegion key none).regions[key]? = some none := by
    rw [setRegion, Vector.getElem?_setIfInBounds, if_pos rfl, if_pos bound]
  have restored : ((space.setRegion key none).setRegion key (some live)).regions = space.regions := by
    refine Vector.ext fun index inside => ?_
    simp only [setRegion, Vector.getElem_setIfInBounds]
    split
    · next same =>
      subst same
      exact at_key.symm
    · rfl
  rw [← regionsOf_congr restored]
  exact regionsOf_setRegion unused live id

omit [PageTable T] in
/-- Nothing was carved from an area that is not there. -/
theorem regionsOf_eq_nil {id : Nat} (foreign : ∀ key live, space.live? key = .ok live → live.area ≠ id) :
    space.regionsOf id = [] := by
  rw [regionsOf, List.map_eq_nil_iff, List.filter_eq_nil_iff]
  rintro ⟨key, live⟩ member
  have away := foreign key live (mem_liveRegions.mp member)
  simpa using away

theorem Partitioned.created (partitioned : space.Partitioned geometry) {start : Nat}
    (whole : geometry.isAligned start = true) (below : start < space.reach geometry)
    (apart : ∀ other ∈ space.areas, other.id ≠ space.areas.length → other.overlaps start (start + 1) = false) :
    ({ space with areas := space.areas ++ [Area.empty space.areas.length start] } : Space T).Partitioned geometry := by
  have laid := partitioned.laid
  have claim : (Area.empty space.areas.length start).claim = ⟨start, start + 1⟩ := by
    rw [Area.claim, Area.claimedStop, Area.empty, if_neg (Nat.lt_irrefl _)]
  have away {place : Nat} {rival : Area} (found : space.areas[place]? = some rival) :
      rival.claim.Apart (Area.empty space.areas.length start).claim := by
    have bound := (List.getElem?_eq_some_iff.mp found).1
    have overlaps := apart rival (List.mem_of_getElem? found) (by rw [laid.ids place rival found]; exact bound.ne)
    rw [claim]
    intro address inside meets
    obtain ⟨low, high⟩ : rival.start ≤ address ∧ address < rival.claimedStop := inside
    obtain ⟨above, below⟩ : start ≤ address ∧ address < start + 1 := meets
    simp only [Area.overlaps, Bool.and_eq_false_iff, decide_eq_false_iff_not] at overlaps
    omega
  refine ⟨laid.created ((geometry.isAligned_iff start).mp whole) below, ?_, ?_⟩
  · intro one other first second at_one at_other distinct
    rcases area_of_append at_one with old | ⟨rfl, rfl⟩
    · rcases area_of_append at_other with also | ⟨rfl, rfl⟩
      · exact partitioned.apart one other first second old also distinct
      · exact away old
    · rcases area_of_append at_other with old | ⟨rfl, rfl⟩
      · exact (away old).symm
      · exact absurd rfl distinct
  · intro place area found
    rcases area_of_append found with old | ⟨rfl, rfl⟩
    · exact partitioned.tiled place area old
    · have none : space.regionsOf space.areas.length = [] := by
        refine regionsOf_eq_nil fun key live held => ?_
        obtain ⟨area, at_id, -⟩ := laid.live key live held
        exact (List.getElem?_eq_some_iff.mp at_id).1.ne
      have tiles : Region.Tiles (space.regionsOf space.areas.length ++ []) start start := by
        rw [none]
        exact Region.tiles_nil start
      exact tiles

theorem Move.partitioned (move : Move geometry before after) (partitioned : before.Partitioned geometry) :
    after.Partitioned geometry := by
  have laid := partitioned.laid
  cases move with
  | redrawn outline capacity =>
    refine ⟨laid.of_outline outline capacity, ?_, ?_⟩
    · rw [outline.areas]
      exact partitioned.apart
    · intro id area found
      rw [outline.areas] at found
      rw [regionsOf_congr outline.regions]
      exact partitioned.tiled id area found
  | created whole below apart => exact partitioned.created whole below apart
  | @grown id size bytes stop area found positive growth apart =>
    have area_laid := laid.areas area (List.mem_of_getElem? found)
    obtain ⟨size_le, whole, within⟩ := growth?_eq_some area_laid.stop_whole growth
    have stop_le : area.stop ≤ stop := (Nat.le_add_right ..).trans size_le
    have grown : ({ area with stop } : Area).Laid geometry (before.reach geometry) :=
      { area_laid with stop_whole := whole, brk_le := area_laid.brk_le.trans stop_le, stop_le := within }
    refine partitioned.of_reshapes ⟨found, rfl, rfl, rfl, rfl, rfl, le_rfl, stop_le, grown, .inr ?_⟩
      (fun _ _ held => .inl held) (partitioned.tiled id area found) fun _ _ => .refl _
    rw [laid.ids id area found]
    exact apart
  | @carved id key size area shaped region found positive gives unused =>
    have area_laid := laid.areas area (List.mem_of_getElem? found)
    obtain ⟨same_id, start, stop, brk_le⟩ := gives.shape
    obtain ⟨shaped_laid, within⟩ := gives.laid area_laid
    have stored := regionsOf_setRegion (show (before.setArea id shaped).regions[key]? = some none from unused)
      ⟨id, region⟩
    refine partitioned.of_reshapes ⟨found, rfl, rfl, rfl, same_id, start, brk_le, stop.ge, shaped_laid, .inl stop.symm⟩
      (fun name live held => ?_) ?_ fun other away => ?_
    · rcases live?_of_set (before.setArea id shaped) _ rfl held with ⟨-, same⟩ | old
      · obtain rfl := Option.some.inj same
        exact .inr ⟨rfl, within⟩
      · exact .inl old
    · have tiles := gives.tiles positive area_laid.start_le (partitioned.tiled id area found)
      have listed := stored id
      rw [if_pos rfl] at listed
      exact tiles.perm (listed.symm.append_right _)
    · have listed := stored other
      rw [if_neg (Ne.symm away)] at listed
      exact listed.symm
  | @released key live held =>
    obtain ⟨area, found, within⟩ := laid.live key live held
    have area_laid := laid.areas area (List.mem_of_getElem? found)
    have tiles := partitioned.tiled live.area area found
    have listed := regionsOf_released held live.area
    rw [if_pos rfl] at listed
    have pushed := FreeList.tiles_push (tiles.perm (listed.append_right area.free))
    have areas : (before.areas.modify live.area fun area => { area with free := area.free.push live.region }) =
        before.areas.set live.area { area with free := area.free.push live.region } := by
      rw [List.modify_eq_set, found]
      rfl
    have shaped : ({ area with free := area.free.push live.region } : Area).Laid geometry (before.reach geometry) :=
      { area_laid with free := fun region member => pushed.within (List.mem_append_right _ member) }
    refine partitioned.of_reshapes ⟨found, areas, rfl, rfl, rfl, rfl, le_rfl, le_rfl, shaped, .inl rfl⟩
      (fun name other found => ?_) pushed fun other away => ?_
    · rcases live?_of_set before none rfl found with ⟨-, none⟩ | old
      · contradiction
      · exact .inl old
    · have listed := regionsOf_released held other
      rw [if_neg (Ne.symm away)] at listed
      exact listed

theorem partitioned_ofTable (populate : Populate) (table : T) (geometry : Geometry) :
    (ofTable populate table).Partitioned geometry where
  laid := Host.laid_ofTable populate table geometry
  apart id other area rival found also distinct := by
    have first := (List.getElem?_eq_some_iff.mp found).1
    have second := (List.getElem?_eq_some_iff.mp also).1
    simp only [ofTable, List.length_singleton] at first second
    omega
  tiled id area found := by
    have none : (ofTable populate table).regionsOf id = [] := by
      refine regionsOf_eq_nil fun key live held => ?_
      rw [live?_eq_ok_iff] at held
      obtain ⟨_, at_key⟩ := Vector.getElem?_eq_some_iff.mp held
      unfold ofTable at at_key
      rw [Vector.getElem_replicate] at at_key
      contradiction
    obtain rfl := List.mem_singleton.mp (List.mem_of_getElem? found)
    rw [none]
    exact Region.tiles_nil 0

end Space

namespace Host

/-- Every space is shared out, on a machine of a page size. -/
structure Partitioned (host : Host StandardTable) (geometry : Geometry) : Prop where
  sized : host.machine.Sized geometry
  formed : ∀ number space, host.space? number = some space → LawfulTable.WellFormed space.table
  spaces : ∀ number space, host.space? number = some space → space.Partitioned geometry

namespace Partitioned

variable {host : Host StandardTable} {geometry : Geometry} {number : Nat} {space : Space StandardTable}

theorem put (partitioned : host.Partitioned geometry) (found : host.space? number = some space)
    {stage : Stage StandardTable} (moved : (host.stage space).Moved stage) :
    (host.put number stage).Partitioned geometry := by
  obtain ⟨sized, formed, spaces⟩ := partitioned
  refine ⟨moved.geometry.trans sized, fun other kept present => ?_, fun other kept present => ?_⟩
  · rw [Host.put, space?_set _ _ (lt_length found)] at present
    split at present
    · obtain rfl := Option.some.inj present
      exact moved.formed (formed number space found)
    · exact formed other kept present
  · rw [Host.put, space?_set _ _ (lt_length found)] at present
    split at present
    · obtain rfl := Option.some.inj present
      have moves := moved.moves
      rw [show (host.stage space).devices.geometry = geometry from sized] at moves
      exact moves.keeps (fun _ _ move => move.partitioned) (spaces number space found)
    · exact spaces other kept present

theorem forget (partitioned : host.Partitioned geometry) (found : host.space? number = some space) :
    (host.forget number).Partitioned geometry := by
  obtain ⟨sized, formed, spaces⟩ := partitioned
  have present {other : Nat} {kept : Space StandardTable} (present : (host.forget number).space? other = some kept) :
      host.space? other = some kept := by
    rw [Host.forget, space?_set _ _ (lt_length found)] at present
    split at present
    · contradiction
    · exact present
  exact ⟨sized, fun other kept at_other => formed other kept (present at_other),
    fun other kept at_other => spaces other kept (present at_other)⟩

theorem add (partitioned : host.Partitioned geometry) (populate : Populate) (kind : TableKind) :
    (host.add (Space.ofTable populate kind.empty)).Partitioned geometry := by
  obtain ⟨sized, formed, spaces⟩ := partitioned
  refine ⟨sized, fun other kept present => ?_, fun other kept present => ?_⟩
  · rw [space?_add] at present
    split at present
    · obtain rfl := Option.some.inj present
      exact StandardTable.wellFormed_empty kind
    · exact formed other kept present
  · rw [space?_add] at present
    split at present
    · obtain rfl := Option.some.inj present
      exact Space.partitioned_ofTable populate kind.empty geometry
    · exact spaces other kept present

theorem step (partitioned : host.Partitioned geometry) (operation : Operation) :
    (host.step operation).Partitioned geometry := by
  cases operation with
  | call number call =>
    show (host.run number call.perform).2.Partitioned geometry
    cases found : host.space? number with
    | none =>
      rw [run_absent found]
      exact partitioned
    | some space =>
      rw [run_eq found]
      have formed : LawfulTable.WellFormed (host.stage space).space.table := partitioned.formed number space found
      rcases onStage_of_ends (call.ends_moved formed) with ⟨_, after, ran, moved⟩ | ⟨_, after, ran, moved⟩
      · rw [ran]
        exact partitioned.put found moved
      · rw [ran]
        exact partitioned.put found moved
  | add populate kind => exact partitioned.add populate kind
  | drop number =>
    show (host.drop number).2.Partitioned geometry
    cases found : host.space? number with
    | none =>
      rw [drop, run_absent found]
      exact partitioned
    | some space =>
      rw [drop, run_eq found]
      have ends := Space.steadies_teardown (host.stage space) (host.stage space) (.refl _)
      rcases onStage_of_ends ends with ⟨_, after, ran, steady⟩ | ⟨_, after, ran, -, steady⟩
      · rw [ran]
        exact (partitioned.put found steady.moved).forget (space?_put found after)
      · rw [ran]
        exact (partitioned.put found steady.moved).forget (space?_put found after)
  | activate index =>
    show (host.onMachine (Machine.activate index)).2.Partitioned geometry
    have ends := Machine.maintains_activate index host.machine partitioned.sized
    unfold Ends at ends
    unfold Host.onMachine
    cases ran : Machine.activate index host.machine with
    | ok answer machine =>
      rw [ran] at ends
      exact ⟨ends, partitioned.formed, partitioned.spaces⟩
    | error reason machine =>
      rw [ran] at ends
      exact ⟨ends.2, partitioned.formed, partitioned.spaces⟩

end Partitioned

theorem partitioned_after (machine : Machine) (run : List Operation) :
    ((start machine).after run).Partitioned machine.devices.geometry := by
  have blank : (start machine).Partitioned machine.devices.geometry := by
    refine ⟨rfl, fun _ _ found => ?_, fun _ _ found => ?_⟩
    · rw [space?_start] at found
      contradiction
    · rw [space?_start] at found
      contradiction
  have kept (host : Host StandardTable) (operation : Operation)
      (partitioned : host.Partitioned machine.devices.geometry) :
      (host.step operation).Partitioned machine.devices.geometry := partitioned.step operation
  exact after_induction blank kept run

/-- A machine without memory, on which addresses can be reserved all the same. -/
def bareMachine : Machine where
  devices := { geometry := .standard, ram := { kind := .ram, geometry := .standard, size := 0 }, swaps := [] }

end Host

end DemandPaging
