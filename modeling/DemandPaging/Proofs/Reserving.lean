import DemandPaging.Proofs.Layout

/-! # Reservations from outside

Growing an area, allocating from it, releasing a region and creating an area keep the layout of a space.
Growth covers pages that were in no area, and under eager population it maps exactly these; all else is
bookkeeping. Once an area has grown for an allocation the carve cannot fail, so each of the operations
fails before it changes anything.
-/

namespace DemandPaging.Space

open Paging

variable {T : Type} [PageTable T]

theorem growth?_eq_some_iff {space : Space T} {geometry : Geometry} {oldStop size bytes newStop : Nat} :
    space.growth? geometry oldStop size = some (bytes, newStop) ↔
      geometry.alignUp? size = some bytes ∧ oldStop + bytes = newStop ∧ newStop < Word.limit ∧
        newStop ≤ space.reach geometry := by
  unfold growth?
  constructor
  · intro grown
    obtain ⟨rounded, aligned, grown⟩ := Option.bind_eq_some_iff.mp grown
    obtain ⟨sum, added, grown⟩ := Option.bind_eq_some_iff.mp grown
    rw [Option.ite_none_right_eq_some] at grown
    obtain ⟨within, same⟩ := grown
    obtain ⟨rfl, rfl⟩ := Prod.mk.inj (Option.some.inj same)
    obtain ⟨small, rfl⟩ := Word.add?_eq_some_iff.mp added
    exact ⟨aligned, rfl, small, within⟩
  · rintro ⟨aligned, rfl, small, within⟩
    have added := Word.add?_eq_some_iff.mpr ⟨small, rfl⟩
    simp only [aligned, Option.bind_eq_bind, Option.bind_some, added, if_pos within]

theorem growth?_eq_some {space : Space T} {geometry : Geometry} {oldStop size bytes newStop : Nat}
    (whole : oldStop % geometry.pageSize = 0)
    (grown : space.growth? geometry oldStop size = some (bytes, newStop)) :
    oldStop + size ≤ newStop ∧ newStop % geometry.pageSize = 0 ∧ newStop ≤ space.reach geometry := by
  obtain ⟨aligned, rfl, -, within⟩ := growth?_eq_some_iff.mp grown
  have rounded := Geometry.roundsUp_of_alignUp? aligned
  refine ⟨Nat.add_le_add_left rounded.holds _, ?_, within⟩
  rw [Nat.add_mod, whole, (geometry.isAligned_iff _).mp rounded.whole, Nat.zero_mod]

/-- Of the table only the capacity matters to growth. -/
theorem growth?_congr {one other : Space T}
    (capacity : PageTable.capacity other.table = PageTable.capacity one.table) (geometry : Geometry)
    (oldStop size : Nat) : other.growth? geometry oldStop size = one.growth? geometry oldStop size := by
  rw [growth?, growth?, reach, reach, capacity]

/-- A growth ends within the reach of the table, whether or not it starts at a page. -/
theorem stop_of_growth? {space : Space T} {geometry : Geometry} {oldStop size bytes newStop : Nat}
    (grown : space.growth? geometry oldStop size = some (bytes, newStop)) :
    oldStop ≤ newStop ∧ newStop ≤ PageTable.capacity space.table * geometry.pageSize := by
  obtain ⟨-, rfl, -, within⟩ := growth?_eq_some_iff.mp grown
  exact ⟨Nat.le_add_right .., within.trans (reach_le space geometry)⟩

omit [PageTable T] in
/-- The pages of a range that ends below a limit lie below the limit. -/
theorem lt_of_mem_pagesBetween {geometry : Geometry} {start stop limit page : Nat} (ordered : start ≤ stop)
    (below : stop ≤ limit * geometry.pageSize) (inside : page ∈ pagesBetween geometry start stop) : page < limit := by
  have positive := geometry.pageSize_pos
  rw [pagesBetween, List.mem_range'_1, Geometry.shiftRight_eq, Address.distance] at inside
  have first := geometry.pageOf_mul_le start
  have length := Nat.div_mul_le_self (stop - start) geometry.pageSize
  have last : (geometry.pageOf start + (stop - start) / geometry.pageSize) * geometry.pageSize ≤
      limit * geometry.pageSize := by
    rw [Nat.add_mul]
    omega
  exact inside.2.trans_le (Nat.le_of_mul_le_mul_right last positive)

omit [PageTable T] in
theorem area?_eq_ok_iff {space : Space T} {id : Nat} {area : Area} :
    space.area? id = .ok area ↔ space.areas[id]? = some area := by
  unfold area?
  cases space.areas[id]? <;> simp

omit [PageTable T] in
theorem ends_checkOverlap {stage : Stage T} (id start stop : Nat) :
    Ends (checkOverlap id start stop)
      (fun _ after => after = stage ∧
        ∀ other ∈ stage.space.areas, other.id ≠ id → other.overlaps start stop = false)
      (fun reason after => Rejected stage reason after) stage := by
  simp only [checkOverlap, ends_bind, ends_space]
  cases met : stage.space.areas.find? fun area => area.id != id && area.overlaps start stop with
  | some area => exact ⟨⟨rfl, .refl _, rfl⟩, rfl⟩
  | none =>
    refine ⟨rfl, fun other member distinct => ?_⟩
    have apart := List.find?_eq_none.mp met other member
    simpa [distinct] using apart

/-- The pages that an area is given frames for when it grows. -/
def eagerPages (space : Space T) (geometry : Geometry) (oldStop newStop : Nat) : List Nat :=
  if space.populate = .eager then pagesBetween geometry oldStop newStop else []

/-- An area was reshaped, and the pages by which it grew were mapped if that is done at once. -/
structure Regrown [LawfulTable T] (before : Stage T) (reserved : Set Home) (id : Nat) (area shaped : Area)
    (after : Stage T) : Prop where
  reshapes : before.space.Reshapes before.devices.geometry id area shaped after.space
  mapped : Mapped before reserved
    (before.space.eagerPages before.devices.geometry area.stop shaped.stop) after

variable [TotalTable T] {stage : Stage T} {reserved : Set Home}

theorem Mapped.of_memory {after : Stage T} (custody : stage.memory.Custody reserved)
    (memory : after.memory = stage.memory)
    (resident : after.space.resident.toList = stage.space.resident.toList) :
    Mapped stage reserved [] after where
  custody := by
    rwa [memory, homesOf_nil, Set.empty_union]
  keeps := by
    rw [memory]
    exact .refl _
  resident := by rw [resident, List.append_nil]
  homeOf _ none := (List.not_mem_nil none).elim
  clean _ none := (List.not_mem_nil none).elim
  blank _ none := (List.not_mem_nil none).elim
  others _ _ := by rw [memory]
  free := by rw [show after.devices = stage.devices from congrArg Memory.devices memory, List.length_nil, Nat.add_zero]

/-- Only the memory and the queue matter to a mapping. -/
theorem Mapped.onto {pages : List Nat} {after next : Stage T} (mapped : Mapped stage reserved pages after)
    (memory : next.memory = after.memory) (resident : next.space.resident = after.space.resident) :
    Mapped stage reserved pages next where
  custody := by
    rw [memory]
    exact mapped.custody
  keeps := by
    rw [memory]
    exact mapped.keeps
  resident := by
    rw [resident]
    exact mapped.resident
  homeOf := by
    rw [memory]
    exact mapped.homeOf
  clean := by
    rw [memory]
    exact mapped.clean
  blank := by
    rw [memory]
    exact mapped.blank
  others := by
    rw [memory]
    exact mapped.others
  free := by
    rw [show next.devices = after.devices from congrArg Memory.devices memory]
    exact mapped.free

/-- Only the areas and the policy matter besides. -/
theorem Regrown.onto {id : Nat} {area shaped : Area} {after next : Stage T}
    (regrown : Regrown stage reserved id area shaped after) (memory : next.memory = after.memory)
    (resident : next.space.resident = after.space.resident) (areas : next.space.areas = after.space.areas)
    (populate : next.space.populate = after.space.populate) : Regrown stage reserved id area shaped next where
  mapped := regrown.mapped.onto memory resident
  reshapes := { regrown.reshapes with
    areas := areas.trans regrown.reshapes.areas
    populate := populate.trans regrown.reshapes.populate
    capacity := (congrArg Memory.capacity memory).trans regrown.reshapes.capacity }

/-- What comes after the pages of a growth were mapped, or need not be. -/
private theorem ends_afterMapping {α : Type} {rest : Paging T α} {ok : α → Stage T → Prop}
    {fail : MemoryError → Stage T → Prop} {start stop : Nat} (custody : stage.memory.Custody reserved)
    (fits : ∀ page ∈ pagesBetween stage.devices.geometry start stop, page < stage.memory.capacity)
    (mapped : ∀ after, stage.space.SameOutline after.space →
      Mapped stage reserved (stage.space.eagerPages stage.devices.geometry start stop) after →
        Ends rest ok fail after)
    (refused : ∀ reason after, Rejected stage reason after → fail reason after) :
    Ends (if stage.space.populate = .eager then mapRange start stop >>= fun _ => rest else rest)
      ok fail stage := by
  rw [ends_ite, ends_bind]
  constructor
  · intro eager
    rw [eagerPages, if_pos eager] at mapped
    exact (ends_mapRange custody fits).mono (fun _ after done => mapped after done.1 done.2)
      fun _ _ failed => refused _ _ failed.2
  · intro onDemand
    rw [eagerPages, if_neg onDemand] at mapped
    exact mapped stage (.refl _) (.of_memory custody rfl rfl)

theorem ends_grow (custody : stage.memory.Custody reserved) (laid : stage.space.Laid stage.devices.geometry)
    (id size : Nat) :
    Ends (grow id size)
      (fun answer after => ∃ area shaped, answer = area.stop ∧ shaped = { area with stop := shaped.stop } ∧
        area.stop + size ≤ shaped.stop ∧ Regrown stage reserved id area shaped after ∧
        after.space.regions = stage.space.regions)
      (fun reason after => Rejected stage reason after) stage := by
  simp only [grow, ends_bind, ends_ite, ends_throw, ends_space, ends_settle, ends_geometry]
  refine ⟨fun _ => .refl rfl, fun _ => ⟨fun area found => ?_, fun _ failed => .refl (area?_notStale failed)⟩⟩
  cases grown : stage.space.growth? stage.devices.geometry area.stop size with
  | none => exact .refl rfl
  | some pair =>
    obtain ⟨bytes, newStop⟩ := pair
    simp only [ends_bind]
    apply (ends_checkOverlap id area.stop newStop).answers
    rintro _ stage ⟨rfl, apart⟩
    have at_id := area?_eq_ok_iff.mp found
    have area_laid := laid.areas area (List.mem_of_getElem? at_id)
    have area_id := laid.ids id area at_id
    obtain ⟨size_le, whole, within⟩ := growth?_eq_some area_laid.stop_whole grown
    have fits : ∀ page ∈ pagesBetween stage.devices.geometry area.stop newStop, page < stage.memory.capacity := by
      intro page member
      have below := ((mem_pagesBetween area_laid.stop_whole whole).mp member).2
      exact Nat.lt_of_mul_lt_mul_right (below.trans_le (within.trans (reach_le _ _)))
    refine ends_afterMapping custody fits (fun after outline mapped => ?_) fun _ _ rejected => rejected
    simp only [ends_bind, ends_modifySpace, ends_emit, ends_pure]
    refine ⟨area, { area with stop := newStop }, rfl, rfl, size_le, ⟨?_, ?_⟩, outline.regions⟩
    · refine ⟨at_id, congrArg (List.set · id _) outline.areas, outline.populate, mapped.keeps.capacity, rfl, rfl,
        le_rfl, ?_, ?_, .inr ?_⟩
      · exact (Nat.le_add_right ..).trans size_le
      · exact { area_laid with
          stop_whole := whole
          brk_le := area_laid.brk_le.trans ((Nat.le_add_right ..).trans size_le)
          stop_le := within }
      · rw [area_id]
        exact apart
    · exact mapped.onto rfl rfl

omit [PageTable T] in
theorem eagerPages_self (space : Space T) (geometry : Geometry) (stop : Nat) :
    space.eagerPages geometry stop stop = [] := by
  simp [eagerPages, pagesBetween, Address.distance]

/-- An area that ends where it did is put in place. -/
private theorem regrown_setArea {id : Nat} {area : Area} (shaped : Area) (custody : stage.memory.Custody reserved)
    (found : stage.space.areas[id]? = some area) (same_id : shaped.id = area.id)
    (same_start : shaped.start = area.start) (same_stop : shaped.stop = area.stop)
    (brk_le : area.brk ≤ shaped.brk)
    (laid : shaped.Laid stage.devices.geometry (stage.space.reach stage.devices.geometry)) :
    Regrown stage reserved id area shaped { stage with space := stage.space.setArea id shaped } where
  reshapes := ⟨found, rfl, rfl, rfl, same_id, same_start, brk_le, same_stop.ge, laid, .inl same_stop.symm⟩
  mapped := by
    rw [same_stop, eagerPages_self]
    exact .of_memory custody rfl rfl

theorem takeFromBreak?_eq_some_iff {area shaped : Area} {size : Nat} {region : Region} :
    area.takeFromBreak? size = some (region, shaped) ↔
      area.brk + size < Word.limit ∧ area.brk + size ≤ area.stop ∧
        region = ⟨area.brk, area.brk + size⟩ ∧ shaped = { area with brk := area.brk + size } := by
  unfold Area.takeFromBreak?
  cases sum : Word.add? area.brk size with
  | none =>
    have large := Word.add?_eq_none_iff.mp sum
    simp only [reduceCtorEq, false_iff]
    omega
  | some stop =>
    obtain ⟨fits, rfl⟩ := Word.add?_eq_some_iff.mp sum
    simp only [Option.ite_none_left_eq_some, Nat.not_lt, Option.some.injEq, Prod.mk.injEq, fits, true_and,
      eq_comm (b := region), eq_comm (b := shaped)]

/-- The area laid out after a carve at its break. -/
theorem laid_carved {area : Area} {geometry : Geometry} {reach size : Nat} (laid : area.Laid geometry reach)
    (fits : area.brk + size ≤ area.stop) :
    ({ area with brk := area.brk + size } : Area).Laid geometry reach :=
  { laid with
    start_le := laid.start_le.trans (Nat.le_add_right ..)
    brk_le := fits
    free := fun region member => (laid.free region member).mono (Nat.le_add_right ..) }

theorem ends_carveGrown (custody : stage.memory.Custody reserved)
    (laid : stage.space.Laid stage.devices.geometry) (id size : Nat) :
    Ends (carveGrown id size)
      (fun region after => ∃ area shaped, Regrown stage reserved id area shaped after ∧
        region.Within shaped.start shaped.brk ∧ after.space.regions = stage.space.regions)
      (fun reason after => Rejected stage reason after) stage := by
  rw [carveGrown, ends_bind]
  apply (ends_grow custody laid id size).answers
  rintro _ middle ⟨area, shaped, rfl, same, room, grown, regions⟩
  have brk : shaped.brk = area.brk := by rw [same]
  have brk_le := (laid.areas area (List.mem_of_getElem? grown.reshapes.found)).brk_le
  have fits : shaped.brk + size ≤ shaped.stop := by omega
  have small : shaped.brk + size < Word.limit :=
    (fits.trans grown.reshapes.laid.stop_le).trans_lt (reach_lt _ _)
  have taken := takeFromBreak?_eq_some_iff.mpr ⟨small, fits, rfl, rfl⟩
  have placed : middle.space.area? id = .ok shaped := by
    rw [area?_eq_ok_iff, grown.reshapes.areas, List.getElem?_set_self grown.reshapes.lt_length]
  simp only [ends_bind, ends_space, placed, ends_settle_ok, taken, ends_modifySpace, ends_pure]
  refine ⟨area, { shaped with brk := shaped.brk + size }, ⟨?_, ?_⟩, ?_, regions⟩
  · have areas : middle.space.areas.set id { shaped with brk := shaped.brk + size } =
        stage.space.areas.set id { shaped with brk := shaped.brk + size } := by
      rw [grown.reshapes.areas, List.set_set]
    exact { grown.reshapes with
      areas := areas
      brk_le := brk.ge.trans (Nat.le_add_right ..)
      laid := laid_carved grown.reshapes.laid fits }
  · exact grown.mapped.onto rfl rfl
  · refine ⟨?_, Nat.le_add_right .., le_rfl⟩
    exact grown.reshapes.laid.start_le

theorem ends_carve (custody : stage.memory.Custody reserved)
    (laid : stage.space.Laid stage.devices.geometry) (id size : Nat) :
    Ends (carve id size)
      (fun region after => ∃ area shaped, Regrown stage reserved id area shaped after ∧
        region.Within shaped.start shaped.brk ∧ after.space.regions = stage.space.regions)
      (fun reason after => Rejected stage reason after) stage := by
  simp only [carve, ends_bind, ends_space, ends_settle]
  refine ⟨fun area found => ?_, fun _ failed => .refl (area?_notStale failed)⟩
  have at_id := area?_eq_ok_iff.mp found
  have area_laid := laid.areas area (List.mem_of_getElem? at_id)
  cases fit : area.free.takeFirstFit? size with
  | some pair =>
    obtain ⟨region, free⟩ := pair
    obtain ⟨within, free_within⟩ := FreeList.takeFirstFit?_within area_laid.free fit
    simp only [ends_bind, ends_modifySpace, ends_pure]
    refine ⟨area, { area with free }, regrown_setArea _ custody at_id rfl rfl rfl le_rfl ?_, within, rfl⟩
    exact { area_laid with free := free_within }
  | none =>
    cases taken : area.takeFromBreak? size with
    | none => exact ends_carveGrown custody laid id size
    | some pair =>
      obtain ⟨region, shaped⟩ := pair
      obtain ⟨small, fits, rfl, rfl⟩ := takeFromBreak?_eq_some_iff.mp taken
      simp only [ends_bind, ends_modifySpace, ends_pure]
      refine ⟨area, _, regrown_setArea _ custody at_id rfl rfl rfl (Nat.le_add_right ..) ?_, ?_, rfl⟩
      · exact laid_carved area_laid fits
      · exact ⟨area_laid.start_le, Nat.le_add_right .., le_rfl⟩

/-- What reserving operations leave behind: the layout is kept, and the pages that were mapped are pages
that no area had before. -/
structure Extended (before : Stage T) (reserved : Set Home) (pages : List Nat) (after : Stage T) : Prop where
  mapped : Mapped before reserved pages after
  laid : after.space.Laid before.devices.geometry
  populate : after.space.populate = before.space.populate
  covers : ∀ page, before.space.Covers before.devices.geometry page →
    after.space.Covers before.devices.geometry page
  nodup : pages.Nodup
  fresh : ∀ page ∈ pages, ¬ before.space.Covers before.devices.geometry page
  covered : ∀ page ∈ pages, after.space.Covers before.devices.geometry page

theorem Regrown.extended {id : Nat} {area shaped : Area} {after : Stage T}
    (regrown : Regrown stage reserved id area shaped after) (laid : stage.space.Laid stage.devices.geometry)
    (live : ∀ key live, after.space.live? key = .ok live → stage.space.live? key = .ok live ∨
      live.area = id ∧ live.region.Within shaped.start shaped.brk) :
    Extended stage reserved (stage.space.eagerPages stage.devices.geometry area.stop shaped.stop) after where
  mapped := regrown.mapped
  laid := regrown.reshapes.laid_after laid live
  populate := regrown.reshapes.populate
  covers _ := regrown.reshapes.covers
  nodup := by
    unfold eagerPages
    split
    · exact List.nodup_range' 1
    · exact List.nodup_nil
  fresh page member := by
    unfold eagerPages at member
    split at member
    · exact regrown.reshapes.fresh laid member
    · contradiction
  covered page member := by
    unfold eagerPages at member
    split at member
    · exact regrown.reshapes.covered laid member
    · contradiction

omit [PageTable T] [TotalTable T] in
/-- A slot of the region table was set. -/
theorem live?_of_set (before : Space T) {after : Space T} {id key : Nat} (slot : Option LiveRegion)
    {live : LiveRegion} (regions : after.regions = before.regions.setIfInBounds id slot)
    (found : after.live? key = .ok live) :
    (key = id ∧ slot = some live) ∨ before.live? key = .ok live := by
  rw [live?_eq_ok_iff, regions] at found
  rw [live?_eq_ok_iff]
  obtain ⟨bound, at_key⟩ := Vector.getElem?_eq_some_iff.mp found
  rw [Vector.getElem_setIfInBounds] at at_key
  split at at_key
  · next same => exact .inl ⟨same.symm, at_key⟩
  · exact .inr (Vector.getElem?_eq_some_iff.mpr ⟨bound, at_key⟩)

theorem ends_grow_extended (custody : stage.memory.Custody reserved)
    (laid : stage.space.Laid stage.devices.geometry) (id size : Nat) :
    Ends (grow id size)
      (fun _ after => ∃ area shaped, Regrown stage reserved id area shaped after ∧
        Extended stage reserved (stage.space.eagerPages stage.devices.geometry area.stop shaped.stop) after)
      (fun reason after => Rejected stage reason after) stage := by
  apply (ends_grow custody laid id size).answers
  rintro _ after ⟨area, shaped, -, -, -, regrown, regions⟩
  refine ⟨area, shaped, regrown, regrown.extended laid fun key live found => .inl ?_⟩
  rw [live?_eq_ok_iff] at found ⊢
  rwa [regions] at found

theorem ends_allocate (custody : stage.memory.Custody reserved)
    (laid : stage.space.Laid stage.devices.geometry) (owner id size : Nat) :
    Ends (allocate owner id size)
      (fun _ after => ∃ area shaped, Regrown stage reserved owner area shaped after ∧
        Extended stage reserved (stage.space.eagerPages stage.devices.geometry area.stop shaped.stop) after)
      (fun reason after => Rejected stage reason after) stage := by
  simp only [allocate, ends_bind, ends_space, ends_settle]
  refine ⟨fun slot _ => ?_, fun _ failed => .refl (slot?_notStale failed)⟩
  cases slot with
  | some live => exact .refl rfl
  | none =>
    simp only [ends_ite, ends_bind, ends_throw]
    refine ⟨fun _ => .refl rfl, fun _ => ?_⟩
    apply (ends_carve custody laid owner size).answers
    rintro region middle ⟨area, shaped, regrown, within, regions⟩
    simp only [ends_bind, ends_modifySpace, ends_emit, ends_pure]
    refine ⟨area, shaped, regrown.onto rfl rfl rfl rfl, ?_⟩
    refine Regrown.extended (regrown.onto rfl rfl rfl rfl) laid ?_
    intro key live found
    rcases live?_of_set middle.space _ rfl found with ⟨rfl, same⟩ | old
    · obtain rfl := Option.some.inj same
      exact .inr ⟨rfl, within⟩
    · rw [live?_eq_ok_iff, regions, ← live?_eq_ok_iff] at old
      exact .inl old

theorem ends_releaseRegion (custody : stage.memory.Custody reserved)
    (laid : stage.space.Laid stage.devices.geometry) (id : Nat) :
    Ends (release id) (fun _ after => Extended stage reserved [] after)
      (fun reason after => Rejected stage reason after) stage := by
  simp only [release, ends_bind, ends_space, ends_settle]
  refine ⟨fun live found => ?_, fun _ failed => .refl (live?_notStale failed)⟩
  simp only [ends_bind, ends_modifySpace, ends_emit, ends_pure]
  obtain ⟨area, at_id, within⟩ := laid.live id live found
  have area_laid := laid.areas area (List.mem_of_getElem? at_id)
  have free : ∀ region ∈ area.free.push live.region, region.Within area.start area.brk := by
    unfold FreeList.push
    split
    · exact area_laid.free
    · exact List.forall_mem_cons.mpr ⟨within, area_laid.free⟩
  have put := regrown_setArea { area with free := area.free.push live.region } custody at_id rfl rfl rfl
    le_rfl { area_laid with free }
  have areas : stage.space.areas.modify live.area (fun area => { area with free := area.free.push live.region }) =
      stage.space.areas.set live.area { area with free := area.free.push live.region } := by
    rw [List.modify_eq_set, at_id]
    rfl
  have regrown (log : List Event) : Regrown stage reserved live.area area _
      ⟨{ stage.toMachine with log }, (stage.space.setRegion id none).modifyArea live.area fun area =>
        { area with free := area.free.push live.region }⟩ := put.onto rfl rfl areas rfl
  have extended := (regrown (.regionReleased id live.region :: stage.log)).extended laid fun key held found => by
    rcases live?_of_set stage.space none rfl found with ⟨-, none⟩ | old
    · contradiction
    · exact .inl old
  rwa [eagerPages_self] at extended

omit [TotalTable T] in
/-- An area was appended. -/
theorem area_of_append {areas : List Area} {new area : Area} {index : Nat}
    (found : (areas ++ [new])[index]? = some area) :
    areas[index]? = some area ∨ index = areas.length ∧ area = new := by
  rcases Nat.lt_or_ge index areas.length with old | beyond
  · rw [List.getElem?_append_left old] at found
    exact .inl found
  · rw [List.getElem?_append_right beyond, List.getElem?_singleton] at found
    split at found
    · next first =>
      exact .inr ⟨Nat.le_antisymm (Nat.le_of_sub_eq_zero first) beyond, (Option.some.inj found).symm⟩
    · contradiction

omit [TotalTable T] in
theorem Laid.created {space : Space T} {geometry : Geometry} (laid : space.Laid geometry) {start : Nat}
    (whole : start % geometry.pageSize = 0) (below : start < space.reach geometry) :
    ({ space with areas := space.areas ++ [Area.empty space.areas.length start] } : Space T).Laid geometry where
  ids index area found := by
    rcases area_of_append found with old | ⟨rfl, rfl⟩
    · exact laid.ids index area old
    · rfl
  areas area member := by
    rcases List.mem_append.mp member with old | new
    · exact laid.areas area old
    · obtain rfl := List.mem_singleton.mp new
      exact ⟨whole, whole, le_rfl, le_rfl, below.le, List.forall_mem_nil _⟩
  live key live held := by
    obtain ⟨area, at_id, within⟩ := laid.live key live held
    have bound := (List.getElem?_eq_some_iff.mp at_id).1
    exact ⟨area, (List.getElem?_append_left bound).trans at_id, within⟩

theorem ends_createArea (custody : stage.memory.Custody reserved)
    (laid : stage.space.Laid stage.devices.geometry) (start : Nat) :
    Ends (createArea start) (fun _ after => Extended stage reserved [] after)
      (fun reason after => Rejected stage reason after) stage := by
  simp only [createArea, ends_bind, ends_geometry, ends_space, ends_ite, ends_throw]
  refine ⟨fun _ => .refl rfl, fun whole => ⟨fun _ => .refl rfl, fun below => ?_⟩⟩
  apply (ends_checkOverlap _ _ _).answers
  rintro _ stage ⟨rfl, apart⟩
  simp only [ends_bind, ends_modifySpace, ends_emit, ends_pure]
  refine ⟨.of_memory custody rfl rfl, laid.created ?_ (Nat.lt_of_not_le below), rfl, ?_, ?_, ?_, ?_⟩
  · simpa [Geometry.isAligned] using whole
  · rintro page ⟨area, member, within⟩
    exact ⟨area, List.mem_append_left _ member, within⟩
  · exact List.nodup_nil
  · exact List.forall_mem_nil _
  · exact List.forall_mem_nil _

end DemandPaging.Space
