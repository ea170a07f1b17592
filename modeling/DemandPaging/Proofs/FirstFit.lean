import DemandPaging.Proofs.RegionsTile

/-! # First fit, then the break, then growth

An allocation takes the front of the first free region that holds it. When none does it takes what it needs
at the break of its area, and only when too little is left there the area grows, and then by no more than
whole pages for the new region. The carve after a growth cannot fail: a break stands before the end of its
area, and ends are words. So an allocation that has to grow fails as the growth does. A region that was
released is the first one that the next allocation from its area looks at.
-/

namespace DemandPaging

/-- What is left of a region after its front was taken. -/
def Region.behind (region : Region) (size : Nat) : List Region :=
  if region.size = size then [] else [⟨region.start + size, region.stop⟩]

/-- A free list is cut at its first region that holds `size` bytes. -/
structure FreeList.FirstFit (free : FreeList) (size : Nat) (before : List Region) (whole : Region)
    (after : List Region) : Prop where
  cut : free = before ++ whole :: after
  smaller : ∀ region ∈ before, region.size < size
  fits : size ≤ whole.size

namespace FreeList

variable {free : FreeList} {size : Nat} {before after : List Region} {whole : Region}

theorem exists_firstFit (held : ∃ region ∈ free, size ≤ region.size) :
    ∃ before whole after, free.FirstFit size before whole after := by
  have met : (free.find? fun region => decide (size ≤ region.size)).isSome := by
    simpa [List.find?_isSome] using held
  obtain ⟨whole, found⟩ := Option.isSome_iff_exists.mp met
  obtain ⟨fits, before, after, cut, smaller⟩ := List.find?_eq_some_iff_append.mp found
  refine ⟨before, whole, after, cut, fun region member => ?_, of_decide_eq_true fits⟩
  simpa using smaller region member

/-- The front of the first fit is taken, and the list keeps its order. -/
theorem FirstFit.taken (fit : free.FirstFit size before whole after) :
    free.takeFirstFit? size = some (⟨whole.start, whole.start + size⟩, before ++ (whole.behind size ++ after)) := by
  obtain ⟨rfl, smaller, fits⟩ := fit
  induction before with
  | nil =>
    simp only [List.nil_append, takeFirstFit?, if_pos fits, Region.behind]
    split <;> rfl
  | cons head before ih =>
    rw [List.forall_mem_cons] at smaller
    rw [List.cons_append, takeFirstFit?, if_neg (Nat.not_le.mpr smaller.1), ih smaller.2]
    rfl

end FreeList

/-- An area was reshaped to give a region away, which is stored under an id, and nothing else changed but the log. -/
def Stage.Allotted {T : Type} (before : Stage T) (owner id : Nat) (shaped : Area) (region : Region)
    (after : Stage T) : Prop :=
  ∃ log, after = { before with
    log, space := (before.space.setArea owner shaped).setRegion id (some ⟨owner, region⟩) }

namespace Space

open Paging

/-- The areas after one of them grew by whole pages. -/
structure Grew {T : Type} (before : Stage T) (id size bytes : Nat) (area : Area) (after : Stage T) : Prop where
  rounded : before.devices.geometry.RoundsUp size bytes
  areas : after.space.areas = before.space.areas.set id { area with stop := area.stop + bytes }
  regions : after.space.regions = before.space.regions
  populate : after.space.populate = before.space.populate

variable {T : Type} [PageTable T] {stage : Stage T} {owner id size : Nat} {area : Area}

theorem ends_allocate_of_unused {ok : Nat → Stage T → Prop} {fail : MemoryError → Stage T → Prop}
    (unused : stage.space.regions[id]? = some none) (positive : 0 < size) :
    Ends (allocate owner id size) ok fail stage ↔
      Ends (carve owner size) (fun region after => ok region.start { after with
        log := .regionAllocated id owner region :: after.log
        space := after.space.setRegion id (some ⟨owner, region⟩) }) fail stage := by
  have slot := slot?_eq_ok_iff.mpr unused
  simp only [allocate, ends_bind, ends_space, slot, ends_settle_ok, if_neg positive.ne']
  rfl

theorem ends_carve_of_area {ok : Region → Stage T → Prop} {fail : MemoryError → Stage T → Prop}
    (found : stage.space.areas[owner]? = some area) :
    Ends (carve owner size) ok fail stage ↔
      match area.free.takeFirstFit? size with
      | some (region, free) => ok region { stage with space := stage.space.setArea owner { area with free } }
      | none =>
        match area.takeFromBreak? size with
        | some (region, shaped) => ok region { stage with space := stage.space.setArea owner shaped }
        | none => Ends (carveGrown owner size) ok fail stage := by
  have named : stage.space.area? owner = .ok area := area?_eq_ok_iff.mpr found
  simp only [carve, ends_bind, ends_space, named, ends_settle_ok]
  cases area.free.takeFirstFit? size with
  | some pair => simp only [ends_bind, ends_modifySpace, ends_pure]
  | none =>
    cases area.takeFromBreak? size with
    | some pair => simp only [ends_bind, ends_modifySpace, ends_pure]
    | none => rfl

/-- The first free region that holds the bytes gives up its front. -/
theorem allocate_of_firstFit (found : stage.space.areas[owner]? = some area)
    (unused : stage.space.regions[id]? = some none) (positive : 0 < size) {before rest : List Region}
    {whole : Region} (fit : area.free.FirstFit size before whole rest) :
    ∃ after, allocate owner id size stage = .ok whole.start after ∧
      stage.Allotted owner id { area with free := before ++ (whole.behind size ++ rest) }
        ⟨whole.start, whole.start + size⟩ after := by
  have ends : Ends (allocate owner id size) (fun answer after => answer = whole.start ∧
      stage.Allotted owner id { area with free := before ++ (whole.behind size ++ rest) }
        ⟨whole.start, whole.start + size⟩ after) (fun _ _ => False) stage := by
    rw [ends_allocate_of_unused unused positive, ends_carve_of_area found, fit.taken]
    exact ⟨rfl, _, rfl⟩
  obtain ⟨_, after, answered, rfl, allotted⟩ := ends.exists_ok
  exact ⟨after, answered, allotted⟩

/-- Where no free region holds the bytes they are carved at the break, if they fit below the end. -/
theorem allocate_of_break (found : stage.space.areas[owner]? = some area)
    (unused : stage.space.regions[id]? = some none) (positive : 0 < size)
    (tight : ∀ region ∈ area.free, region.size < size) (ordered : area.brk ≤ area.stop)
    (small : area.stop < Word.limit) (room : size ≤ area.stop - area.brk) :
    ∃ after, allocate owner id size stage = .ok area.brk after ∧
      stage.Allotted owner id { area with brk := area.brk + size } ⟨area.brk, area.brk + size⟩ after := by
  have missed := FreeList.takeFirstFit?_eq_none_iff.mpr tight
  have fits : area.brk + size ≤ area.stop := by omega
  have taken := takeFromBreak?_eq_some_iff.mpr ⟨fits.trans_lt small, fits, rfl, rfl⟩
  have ends : Ends (allocate owner id size) (fun answer after => answer = area.brk ∧
      stage.Allotted owner id { area with brk := area.brk + size } ⟨area.brk, area.brk + size⟩ after)
      (fun _ _ => False) stage := by
    simp only [ends_allocate_of_unused unused positive, ends_carve_of_area found, missed, taken]
    exact ⟨trivial, _, rfl⟩
  obtain ⟨_, after, answered, rfl, allotted⟩ := ends.exists_ok
  exact ⟨after, answered, allotted⟩

/-- The pages that were added hold the region, whatever was left at the break. -/
theorem ends_carveGrown_of_grew {ok : Region → Stage T → Prop} {fail : MemoryError → Stage T → Prop}
    (found : stage.space.areas[owner]? = some area) (ordered : area.brk ≤ area.stop)
    (grows : Ends (grow owner size) (fun _ middle => ∃ bytes, area.stop + bytes < Word.limit ∧
      Grew stage owner size bytes area middle ∧
      ok ⟨area.brk, area.brk + size⟩ { middle with
        space := middle.space.setArea owner { area with stop := area.stop + bytes, brk := area.brk + size } }) fail
      stage) :
    Ends (carveGrown owner size) ok fail stage := by
  rw [carveGrown, ends_bind]
  apply grows.answers
  rintro _ middle ⟨bytes, small, grew, holds⟩
  have bound := (List.getElem?_eq_some_iff.mp found).1
  have named : middle.space.area? owner = .ok { area with stop := area.stop + bytes } := by
    rw [area?_eq_ok_iff, grew.areas, List.getElem?_set_self bound]
  have fits : area.brk + size ≤ area.stop + bytes := Nat.add_le_add ordered grew.rounded.holds
  have taken : ({ area with stop := area.stop + bytes } : Area).takeFromBreak? size =
      some (⟨area.brk, area.brk + size⟩, { area with stop := area.stop + bytes, brk := area.brk + size }) :=
    takeFromBreak?_eq_some_iff.mpr ⟨fits.trans_lt small, fits, rfl, rfl⟩
  simp only [ends_bind, ends_space, named, ends_settle_ok, taken, ends_modifySpace, ends_pure]
  exact holds

/-- Over any table an area grows by whole pages, or all areas stay as they are. -/
theorem ends_grow_grew (owner size : Nat) :
    Ends (grow owner size)
      (fun answer after => ∃ area bytes, stage.space.areas[owner]? = some area ∧ answer = area.stop ∧
        area.stop + bytes < Word.limit ∧ Grew stage owner size bytes area after)
      (fun _ after => stage.space.SameOutline after.space) stage := by
  have same : stage.space.SameOutline stage.space := .refl _
  simp only [grow, ends_bind, ends_ite, ends_throw, ends_space, ends_settle, ends_geometry]
  refine ⟨fun _ => same, fun _ => ⟨fun area found => ?_, fun _ _ => same⟩⟩
  have at_owner := area?_eq_ok_iff.mp found
  cases growth : stage.space.growth? stage.devices.geometry area.stop size with
  | none => exact same
  | some pair =>
    obtain ⟨bytes, stop⟩ := pair
    obtain ⟨aligned, rfl, small, -⟩ := growth?_eq_some_iff.mp growth
    have rounded := Geometry.roundsUp_of_alignUp? aligned
    simp only [ends_bind]
    refine (ends_checkOverlap owner area.stop (area.stop + bytes)).mono ?_ fun _ _ rejected => rejected.toUnmoved.outline
    rintro _ stage ⟨rfl, -⟩
    have grew {after : Stage T} (kept : stage.space.SameOutline after.space) (log : List Event) :
        Grew stage owner size bytes area
          { after with log, space := after.space.setArea owner { area with stop := area.stop + bytes } } :=
      ⟨rounded, congrArg (List.set · owner _) kept.areas, kept.regions, kept.populate⟩
    simp only [ends_ite, ends_bind, ends_modifySpace, ends_emit, ends_pure]
    refine ⟨fun _ => ?_, fun _ => ⟨area, bytes, at_owner, rfl, small, grew same _⟩⟩
    refine (keepsOutline_mapRange area.stop (area.stop + bytes) stage same).mono ?_ fun _ _ failed => failed.2
    exact fun _ after kept => ⟨area, bytes, at_owner, rfl, small, grew kept _⟩

/-- An allocation that has to grow ends as the growth does: the carve after it cannot fail. -/
theorem allocate_of_growth (found : stage.space.areas[owner]? = some area)
    (unused : stage.space.regions[id]? = some none) (positive : 0 < size)
    (tight : ∀ region ∈ area.free, region.size < size) (ordered : area.brk ≤ area.stop)
    (short : area.stop - area.brk < size) :
    Ends (allocate owner id size)
      (fun answer after => answer = area.brk ∧ ∃ middle bytes, grow owner size stage = .ok area.stop middle ∧
        Grew stage owner size bytes area middle ∧
        middle.Allotted owner id { area with stop := area.stop + bytes, brk := area.brk + size }
          ⟨area.brk, area.brk + size⟩ after)
      (fun reason after => grow owner size stage = .error reason after) stage := by
  have missed := FreeList.takeFirstFit?_eq_none_iff.mpr tight
  have blocked : area.takeFromBreak? size = none := by
    rw [Option.eq_none_iff_forall_ne_some]
    rintro ⟨region, shaped⟩ taken
    have fits := (takeFromBreak?_eq_some_iff.mp taken).2.1
    omega
  simp only [ends_allocate_of_unused unused positive, ends_carve_of_area found, missed, blocked]
  apply ends_carveGrown_of_grew found ordered
  apply ((ends_grow_grew owner size).and (.self _ _)).mono
  · rintro _ middle ⟨⟨_, bytes, also, rfl, small, grew⟩, grown⟩
    obtain rfl := Option.some.inj (found.symm.trans also)
    exact ⟨bytes, small, grew, rfl, middle, bytes, grown, grew, _, rfl⟩
  · exact fun _ _ failed => failed.2

/-- How an allocation of `size` bytes from an area under an unused id ends. -/
structure PlacesFirstFit (stage : Stage T) (owner id size : Nat) (area : Area) : Prop where
  /-- The first free region that holds the bytes gives up its front. -/
  fitted : (∃ region ∈ area.free, size ≤ region.size) →
    ∃ before whole rest after, area.free.FirstFit size before whole rest ∧
      allocate owner id size stage = .ok whole.start after ∧
      stage.Allotted owner id { area with free := before ++ (whole.behind size ++ rest) }
        ⟨whole.start, whole.start + size⟩ after
  /-- Else they are carved at the break, if they fit below the end. -/
  carved : (∀ region ∈ area.free, region.size < size) → size ≤ area.stop - area.brk →
    ∃ after, allocate owner id size stage = .ok area.brk after ∧
      stage.Allotted owner id { area with brk := area.brk + size } ⟨area.brk, area.brk + size⟩ after
  /-- Else the area has to grow, and what stands in the way of that stands in the way of the allocation. -/
  refused : (∀ region ∈ area.free, region.size < size) → area.stop - area.brk < size → ∀ reason after,
    (allocate owner id size stage = .error reason after ↔ grow owner size stage = .error reason after) ∧
      (grow owner size stage = .error reason after → Unmoved stage after)
  /-- Once it has grown, the bytes are carved at the break. -/
  grown : (∀ region ∈ area.free, region.size < size) → area.stop - area.brk < size → ∀ answer middle,
    grow owner size stage = .ok answer middle →
      ∃ bytes after, answer = area.stop ∧ Grew stage owner size bytes area middle ∧
        allocate owner id size stage = .ok area.brk after ∧
        middle.Allotted owner id { area with stop := area.stop + bytes, brk := area.brk + size }
          ⟨area.brk, area.brk + size⟩ after

section Growth

variable [TotalTable T] {reserved : Set Home}

theorem places_firstFit (custody : stage.memory.Custody reserved) (laid : stage.space.Laid stage.devices.geometry)
    (found : stage.space.areas[owner]? = some area) (unused : stage.space.regions[id]? = some none)
    (positive : 0 < size) : PlacesFirstFit stage owner id size area := by
  have area_laid := laid.areas area (List.mem_of_getElem? found)
  have small := area_laid.stop_le.trans_lt (reach_lt _ _)
  constructor
  case fitted =>
    intro held
    obtain ⟨before, whole, rest, fit⟩ := FreeList.exists_firstFit held
    obtain ⟨after, answered, allotted⟩ := allocate_of_firstFit found unused positive fit
    exact ⟨before, whole, rest, after, fit, answered, allotted⟩
  case carved =>
    intro tight room
    exact allocate_of_break found unused positive tight area_laid.brk_le small room
  case refused =>
    intro tight short reason after
    have ends := allocate_of_growth found unused positive tight area_laid.brk_le short
    refine ⟨⟨fun failed => ends.of_error failed, fun failed => ?_⟩, fun failed => ?_⟩
    · have fails : Ends (allocate owner id size) (fun _ _ => False) (fun reason after =>
          grow owner size stage = .error reason after) stage := by
        refine ends.mono ?_ fun _ _ same => same
        rintro _ _ ⟨-, middle, bytes, grown, -⟩
        rw [grown] at failed
        contradiction
      obtain ⟨_, _, ran, same⟩ := fails.exists_error
      obtain ⟨rfl, rfl⟩ := EStateM.Result.error.inj (same.symm.trans failed)
      exact ran
    · exact ((ends_grow custody laid owner size).of_error failed).toUnmoved
  case grown =>
    intro tight short answer middle answered
    have never (reason after) (failed : grow owner size stage = .error reason after) : False := by
      rw [failed] at answered
      contradiction
    obtain ⟨_, after, ran, rfl, grown, bytes, same, grew, allotted⟩ :=
      ((allocate_of_growth found unused positive tight area_laid.brk_le short).mono (fun _ _ done => done)
        never).exists_ok
    obtain ⟨rfl, rfl⟩ := EStateM.Result.ok.inj (same.symm.trans answered)
    exact ⟨bytes, after, rfl, grew, ran, allotted⟩

end Growth

/-- A live region goes back to its area, and what is allocated there next is cut from its front. -/
structure Reuses (stage : Stage T) (key : Nat) (live : LiveRegion) (area : Area) (after : Stage T) : Prop where
  released : release key stage = .ok live.region after
  areas : after.space.areas = stage.space.areas.set live.area { area with free := area.free.push live.region }
  vacant : after.space.regions[key]? = some none
  reused : ∀ id size, after.space.regions[id]? = some none → 0 < size → size ≤ live.region.size →
    ∃ last, allocate live.area id size after = .ok live.region.start last ∧
      after.Allotted live.area id { area with free := live.region.behind size ++ area.free }
        ⟨live.region.start, live.region.start + size⟩ last

theorem reuses_of_live {key : Nat} {live : LiveRegion} (held : stage.space.live? key = .ok live)
    (found : stage.space.areas[live.area]? = some area) : ∃ after, Reuses stage key live area after := by
  have areas : stage.space.areas.modify live.area (fun area => { area with free := area.free.push live.region }) =
      stage.space.areas.set live.area { area with free := area.free.push live.region } := by
    rw [List.modify_eq_set, found]
    rfl
  have ends : Ends (release key) (fun answer after => answer = live.region ∧
      after.space.areas = stage.space.areas.set live.area { area with free := area.free.push live.region } ∧
      after.space.regions = stage.space.regions.setIfInBounds key none) (fun _ _ => False) stage := by
    simp only [release, ends_bind, ends_space, held, ends_settle_ok, ends_modifySpace, ends_emit, ends_pure]
    exact ⟨trivial, areas, rfl⟩
  obtain ⟨_, after, released, rfl, areas, regions⟩ := ends.exists_ok
  have bound := (Vector.getElem?_eq_some_iff.mp (live?_eq_ok_iff.mp held)).1
  have inside := (List.getElem?_eq_some_iff.mp found).1
  have vacant : after.space.regions[key]? = some none := by
    rw [regions, Vector.getElem?_setIfInBounds, if_pos rfl, if_pos bound]
  have placed : after.space.areas[live.area]? = some { area with free := area.free.push live.region } := by
    rw [areas, List.getElem?_set_self inside]
  refine ⟨after, released, areas, vacant, fun id size unused positive fits => ?_⟩
  have fit : (area.free.push live.region).FirstFit size [] live.region area.free := by
    refine ⟨?_, List.forall_mem_nil _, fits⟩
    rw [FreeList.push, if_neg (positive.trans_le fits).ne']
    rfl
  exact allocate_of_firstFit placed unused positive fit

end Space

namespace Host

variable {config : MemoryConfig} {machine : Machine} {number : Nat} {space : Space StandardTable}

theorem allocations_first_fit (built : config.build = .ok machine) (word : config.ramSize < Word.limit)
    (run : List Operation) (found : ((start machine).after run).space? number = some space) :
    (∀ owner id size area, space.areas[owner]? = some area → space.regions[id]? = some none → 0 < size →
      Space.PlacesFirstFit (((start machine).after run).stage space) owner id size area) ∧
    ∀ key live, space.live? key = .ok live → ∃ area after, space.areas[live.area]? = some area ∧
      Space.Reuses (((start machine).after run).stage space) key live area after := by
  have custody := custody_after built word run
  have laid := custody.laid number space found
  constructor
  · intro owner id size area placed unused positive
    exact Space.places_firstFit (custody.stage found) laid placed unused positive
  · intro key live held
    obtain ⟨area, placed, -⟩ := laid.live key live held
    have reused : ∃ after, Space.Reuses (((start machine).after run).stage space) key live area after :=
      Space.reuses_of_live held placed
    obtain ⟨after, reuses⟩ := reused
    exact ⟨area, after, placed, reuses⟩

private theorem space_after_carving_cramped :
    ∃ machine, MemoryConfig.cramped.build = .ok machine ∧
      (((start machine).after carvingRun).space? 0).map (fun space =>
        (space.areas, space.regions[0]?, space.live? 1)) =
        some ([⟨0, 0, 768, 570, [⟨100, 300⟩]⟩], some none, .ok ⟨0, ⟨300, 320⟩⟩) :=
  ⟨_, rfl, by decide +kernel⟩

/-- 200 bytes are free below the break, and a region of 20 bytes lies above them. -/
theorem allocations_first_fit_of_carving :
    ∃ machine space, MemoryConfig.cramped.build = .ok machine ∧
      ((start machine).after carvingRun).space? 0 = some space ∧
      (∃ after, Space.allocate 0 0 150 (((start machine).after carvingRun).stage space) = .ok 100 after) ∧
      ∃ area after, space.areas[0]? = some area ∧
        Space.Reuses (((start machine).after carvingRun).stage space) 1 ⟨0, ⟨300, 320⟩⟩ area after := by
  obtain ⟨machine, built, carved⟩ := space_after_carving_cramped
  obtain ⟨space, found, same⟩ := Option.map_eq_some_iff.mp carved
  obtain ⟨areas, rest⟩ := Prod.mk.inj same
  obtain ⟨unused, held⟩ := Prod.mk.inj rest
  have placed : space.areas[0]? = some ⟨0, 0, 768, 570, [⟨100, 300⟩]⟩ := by
    rw [areas]
    rfl
  obtain ⟨places, reuses⟩ := allocations_first_fit built (by decide) carvingRun found
  refine ⟨machine, space, built, found, ?_, reuses 1 _ held⟩
  obtain ⟨before, whole, rest, after, fit, answered, -⟩ :=
    (places 0 0 150 _ placed unused (by decide)).fitted ⟨_, List.mem_singleton_self _, by decide⟩
  rcases List.append_eq_singleton_iff.mp fit.cut.symm with ⟨-, same⟩ | ⟨-, none⟩
  · obtain ⟨rfl, -⟩ := List.cons.inj same
    exact ⟨after, answered⟩
  · exact (List.cons_ne_nil _ _ none).elim

end Host

end DemandPaging
