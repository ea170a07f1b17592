import DemandPaging.Proofs.Mapping

/-! # The layout of a space

A space is laid out when its areas are numbered by their places and made of whole pages within the reach
of the table, the break of each stands between its ends, and its free and live regions lie below the
break. The pages of a laid out space are below the capacity of its table, and an access through a live
region meets a page of an area. Reshaping one area keeps the layout as long as its break does not fall.
-/

namespace DemandPaging

namespace Region

/-- Whether a region lies between two addresses. -/
structure Within (region : Region) (low high : Nat) : Prop where
  low_le : low ≤ region.start
  ordered : region.start ≤ region.stop
  le_high : region.stop ≤ high

theorem Within.mono {region : Region} {low high higher : Nat} (within : region.Within low high)
    (le : high ≤ higher) : region.Within low higher := ⟨within.low_le, within.ordered, within.le_high.trans le⟩

end Region

theorem FreeList.takeFirstFit?_within {size low high : Nat} {free rest : FreeList} {region : Region}
    (within : ∀ held ∈ free, held.Within low high) (taken : takeFirstFit? size free = some (region, rest)) :
    region.Within low high ∧ ∀ held ∈ rest, held.Within low high := by
  induction free generalizing rest with
  | nil => contradiction
  | cons head tail ih =>
    rw [List.forall_mem_cons] at within
    obtain ⟨low_le, ordered, le_high⟩ := within.1
    simp only [takeFirstFit?] at taken
    split at taken
    · next fits =>
      unfold Region.size at fits
      have carved : (⟨head.start, head.start + size⟩ : Region).Within low high := by
        refine ⟨low_le, ?_, ?_⟩ <;> simp only <;> omega
      split at taken
      · obtain ⟨rfl, rfl⟩ := Prod.mk.inj (Option.some.inj taken)
        exact ⟨carved, within.2⟩
      · obtain ⟨rfl, rfl⟩ := Prod.mk.inj (Option.some.inj taken)
        refine ⟨carved, List.forall_mem_cons.mpr ⟨⟨?_, ?_, le_high⟩, within.2⟩⟩ <;> simp only <;> omega
    · obtain ⟨⟨carved, others⟩, fit, same⟩ := Option.map_eq_some_iff.mp taken
      obtain ⟨rfl, rfl⟩ := Prod.mk.inj same
      obtain ⟨region_within, others_within⟩ := ih within.2 fit
      exact ⟨region_within, List.forall_mem_cons.mpr ⟨within.1, others_within⟩⟩

namespace Area

/-- Whether a page lies in the area. -/
def Covers (area : Area) (geometry : Geometry) (page : Nat) : Prop :=
  area.start ≤ page * geometry.pageSize ∧ page * geometry.pageSize < area.stop

structure Laid (area : Area) (geometry : Geometry) (reach : Nat) : Prop where
  start_whole : area.start % geometry.pageSize = 0
  stop_whole : area.stop % geometry.pageSize = 0
  start_le : area.start ≤ area.brk
  brk_le : area.brk ≤ area.stop
  stop_le : area.stop ≤ reach
  free : ∀ region ∈ area.free, region.Within area.start area.brk

end Area

namespace Space

theorem mem_pagesBetween {geometry : Geometry} {start stop page : Nat}
    (start_whole : start % geometry.pageSize = 0) (stop_whole : stop % geometry.pageSize = 0) :
    page ∈ pagesBetween geometry start stop ↔
      start ≤ page * geometry.pageSize ∧ page * geometry.pageSize < stop := by
  have positive := geometry.pageSize_pos
  rw [← Geometry.pageOf_mul start_whole, ← Geometry.pageOf_mul stop_whole, pagesBetween, Address.distance,
    Geometry.shiftRight_eq, ← Nat.sub_mul, Nat.mul_div_cancel _ positive,
    Geometry.pageOf_eq_div _ (_ * _), Nat.mul_div_cancel _ positive, List.mem_range'_1,
    Nat.mul_le_mul_right_iff positive, Nat.mul_lt_mul_right positive]
  omega

variable {T : Type}

/-- Whether a page lies in some area. -/
def Covers (space : Space T) (geometry : Geometry) (page : Nat) : Prop :=
  ∃ area ∈ space.areas, area.Covers geometry page

variable [PageTable T]

structure Laid (space : Space T) (geometry : Geometry) : Prop where
  ids : ∀ (index : Nat) (area : Area), space.areas[index]? = some area → area.id = index
  areas : ∀ area ∈ space.areas, area.Laid geometry (space.reach geometry)
  live : ∀ (id : Nat) (live : LiveRegion), space.live? id = .ok live →
    ∃ area, space.areas[live.area]? = some area ∧ live.region.Within area.start area.brk

variable {space next : Space T} {geometry : Geometry}

theorem reach_lt (space : Space T) (geometry : Geometry) : space.reach geometry < Word.limit := by
  unfold reach
  cases product : Word.mul? (PageTable.capacity space.table) geometry.pageSize with
  | none => exact (by decide : Word.max < Word.limit)
  | some whole =>
    obtain ⟨fits, rfl⟩ := Word.mul?_eq_some_iff.mp product
    exact fits

theorem reach_le (space : Space T) (geometry : Geometry) :
    space.reach geometry ≤ PageTable.capacity space.table * geometry.pageSize := by
  unfold reach
  cases product : Word.mul? (PageTable.capacity space.table) geometry.pageSize with
  | none =>
    have large := Word.mul?_eq_none_iff.mp product
    have last : Word.max < Word.limit := by decide
    exact (last.trans_le large).le
  | some whole => exact (Word.mul?_eq_some_iff.mp product).2.ge

omit [PageTable T] in
theorem slot?_eq_ok_iff {id : Nat} {slot : Option LiveRegion} :
    space.slot? id = .ok slot ↔ space.regions[id]? = some slot := by
  unfold slot?
  cases space.regions[id]? <;> simp

omit [PageTable T] in
theorem live?_eq_ok_iff {id : Nat} {live : LiveRegion} :
    space.live? id = .ok live ↔ space.regions[id]? = some (some live) := by
  unfold live? slot?
  cases space.regions[id]? with
  | none => simp [bind, Except.bind]
  | some slot => cases slot <;> simp [bind, Except.bind, pure, Except.pure, throw, throwThe, MonadExceptOf.throw]

omit [PageTable T] in
theorem address?_eq_some {id offset address : Nat} (named : space.address? id offset = some address) :
    ∃ live, space.live? id = .ok live ∧ offset < live.region.size ∧ live.region.start + offset = address := by
  unfold address? region? at named
  cases found : space.live? id with
  | error reason => simp [found, bind, Except.bind] at named
  | ok live =>
    simp only [found, bind, Except.bind, pure, Except.pure, Option.ite_none_right_eq_some,
      Option.some.injEq] at named
    exact ⟨live, rfl, named⟩

omit [PageTable T] in
/-- A range is accepted if it starts at a page, ends at a word and lies in one area. -/
theorem pageRange_eq_ok_iff {space : Space T} {geometry : Geometry} {start pages first : Nat} :
    space.pageRange geometry start pages = .ok first ↔
      geometry.isAligned start = true ∧ first = geometry.pageOf start ∧
        start + pages * geometry.pageSize < Word.limit ∧
        ∃ area ∈ space.areas, area.start ≤ start ∧ start + pages * geometry.pageSize ≤ area.stop := by
  have covers (stop : Nat) : (space.areas.any fun area => area.contains start stop) = true ↔
      ∃ area ∈ space.areas, area.start ≤ start ∧ stop ≤ area.stop := by
    simp only [List.any_eq_true, Area.contains, Bool.and_eq_true, decide_eq_true_eq]
  have ends : (Word.mul? pages geometry.pageSize).bind (Word.add? start) =
      if start + pages * geometry.pageSize < Word.limit then some (start + pages * geometry.pageSize) else none := by
    unfold Word.mul?
    split
    · rfl
    · next large => rw [if_neg fun fits => large (Nat.lt_of_le_of_lt (Nat.le_add_left ..) fits), Option.bind_none]
  unfold pageRange
  cases whole : geometry.isAligned start with
  | false => simp [bind, Except.bind, throw, throwThe, MonadExceptOf.throw]
  | true =>
    by_cases fits : start + pages * geometry.pageSize < Word.limit
    · rw [if_pos fits] at ends
      rw [ends]
      by_cases inside : (space.areas.any fun area => area.contains start (start + pages * geometry.pageSize)) = true
      · simp [covered, inside, fits, ← covers, eq_comm]
      · simp [covered, inside, ← covers]
    · rw [if_neg fits] at ends
      simp [ends, fits]

omit [PageTable T] in
/-- An accepted range lies in one area. -/
theorem pageRange_eq_ok {space : Space T} {geometry : Geometry} {start pages first : Nat}
    (range : space.pageRange geometry start pages = .ok first) : first = geometry.pageOf start ∧
      ∃ area ∈ space.areas, area.start ≤ start ∧ start + pages * geometry.pageSize ≤ area.stop := by
  obtain ⟨-, same, -, inside⟩ := pageRange_eq_ok_iff.mp range
  exact ⟨same, inside⟩

namespace Laid

theorem lt_capacity (laid : space.Laid geometry) {page : Nat} (covered : space.Covers geometry page) :
    page < PageTable.capacity space.table := by
  obtain ⟨area, member, -, below⟩ := covered
  have reach := (laid.areas area member).stop_le.trans (space.reach_le geometry)
  exact Nat.lt_of_mul_lt_mul_right (below.trans_le reach)

/-- Only the areas, the regions and the capacity of the table matter to the layout. -/
theorem of_outline (laid : space.Laid geometry) (outline : space.SameOutline next)
    (capacity : PageTable.capacity next.table = PageTable.capacity space.table) : next.Laid geometry where
  ids := by rw [outline.areas]; exact laid.ids
  areas := by
    rw [outline.areas, reach, capacity]
    exact laid.areas
  live id live found := by
    rw [outline.areas]
    refine laid.live id live ?_
    rw [live?_eq_ok_iff] at found ⊢
    rwa [outline.regions] at found

theorem covers_of_address (laid : space.Laid geometry) {id offset address : Nat}
    (named : space.address? id offset = some address) : space.Covers geometry (geometry.pageOf address) := by
  obtain ⟨live, found, within, rfl⟩ := address?_eq_some named
  obtain ⟨area, at_id, low_le, -, le_brk⟩ := laid.live id live found
  have area_laid := laid.areas area (List.mem_of_getElem? at_id)
  have brk_le := area_laid.brk_le
  unfold Region.size at within
  refine ⟨area, List.mem_of_getElem? at_id, ?_, ?_⟩
  · have start := Geometry.pageOf_mul area_laid.start_whole
    rw [← start]
    exact Nat.mul_le_mul_right _ (Geometry.pageOf_le_pageOf (by omega))
  · have base := Geometry.pageOf_mul_le geometry (live.region.start + offset)
    omega

end Laid

/-- Area `id` was replaced by one that starts where it did and reaches at least as far. -/
structure Reshapes (before : Space T) (geometry : Geometry) (id : Nat) (area shaped : Area)
    (after : Space T) : Prop where
  found : before.areas[id]? = some area
  areas : after.areas = before.areas.set id shaped
  populate : after.populate = before.populate
  capacity : PageTable.capacity after.table = PageTable.capacity before.table
  same_id : shaped.id = area.id
  same_start : shaped.start = area.start
  brk_le : area.brk ≤ shaped.brk
  stop_le : area.stop ≤ shaped.stop
  laid : shaped.Laid geometry (before.reach geometry)
  apart : area.stop = shaped.stop ∨
    ∀ other ∈ before.areas, other.id ≠ area.id → other.overlaps area.stop shaped.stop = false

namespace Reshapes

variable {id : Nat} {area shaped : Area} {before after : Space T}
  (reshapes : before.Reshapes geometry id area shaped after)
include reshapes

theorem lt_length : id < before.areas.length := (List.getElem?_eq_some_iff.mp reshapes.found).1

theorem shaped_mem : shaped ∈ after.areas := by
  rw [reshapes.areas]
  exact List.mem_set reshapes.lt_length shaped

theorem covers {page : Nat} (covered : before.Covers geometry page) : after.Covers geometry page := by
  obtain ⟨other, member, above, below⟩ := covered
  obtain ⟨index, found⟩ := List.mem_iff_getElem?.mp member
  by_cases same : index = id
  · subst same
    obtain rfl : other = area := Option.some.inj (found.symm.trans reshapes.found)
    exact ⟨shaped, reshapes.shaped_mem, reshapes.same_start ▸ above, below.trans_le reshapes.stop_le⟩
  · refine ⟨other, ?_, above, below⟩
    rw [reshapes.areas]
    refine List.mem_iff_getElem?.mpr ⟨index, ?_⟩
    rw [List.getElem?_set_ne (Ne.symm same), found]

theorem mem_pagesBetween_iff (laid : before.Laid geometry) {page : Nat} :
    page ∈ pagesBetween geometry area.stop shaped.stop ↔
      area.stop ≤ page * geometry.pageSize ∧ page * geometry.pageSize < shaped.stop :=
  mem_pagesBetween (laid.areas area (List.mem_of_getElem? reshapes.found)).stop_whole reshapes.laid.stop_whole

/-- The pages by which an area grows were in no area. -/
theorem fresh (laid : before.Laid geometry) {page : Nat}
    (member : page ∈ pagesBetween geometry area.stop shaped.stop) : ¬ before.Covers geometry page := by
  obtain ⟨above, below⟩ := (reshapes.mem_pagesBetween_iff laid).mp member
  rintro ⟨other, inside, low, high⟩
  rcases reshapes.apart with unmoved | apart
  · omega
  · obtain ⟨index, found⟩ := List.mem_iff_getElem?.mp inside
    by_cases same : other.id = area.id
    · rw [laid.ids index other found, laid.ids id area reshapes.found] at same
      subst same
      obtain rfl : other = area := Option.some.inj (found.symm.trans reshapes.found)
      omega
    · have meets := apart other inside same
      have claimed : other.claimedStop = other.stop := if_pos (low.trans_lt high)
      simp only [Area.overlaps, claimed, Bool.and_eq_false_iff, decide_eq_false_iff_not] at meets
      omega

theorem covered (laid : before.Laid geometry) {page : Nat}
    (member : page ∈ pagesBetween geometry area.stop shaped.stop) : after.Covers geometry page := by
  obtain ⟨above, below⟩ := (reshapes.mem_pagesBetween_iff laid).mp member
  have area_laid := laid.areas area (List.mem_of_getElem? reshapes.found)
  refine ⟨shaped, reshapes.shaped_mem, ?_, below⟩
  rw [reshapes.same_start]
  exact (area_laid.start_le.trans area_laid.brk_le).trans above

/-- The layout is kept if every live region is an old one or lies in the reshaped area. -/
theorem laid_after (laid : before.Laid geometry)
    (live : ∀ key live, after.live? key = .ok live → before.live? key = .ok live ∨
      live.area = id ∧ live.region.Within shaped.start shaped.brk) : after.Laid geometry where
  ids index other found := by
    rw [reshapes.areas] at found
    by_cases same : index = id
    · subst same
      rw [List.getElem?_set_self reshapes.lt_length] at found
      obtain rfl := Option.some.inj found
      rw [reshapes.same_id, laid.ids index area reshapes.found]
    · rw [List.getElem?_set_ne (Ne.symm same)] at found
      exact laid.ids index other found
  areas other member := by
    rw [reach, reshapes.capacity, ← reach]
    rw [reshapes.areas] at member
    rcases List.mem_or_eq_of_mem_set member with kept | rfl
    · exact laid.areas other kept
    · exact reshapes.laid
  live key held found := by
    have at_id : after.areas[id]? = some shaped := by
      rw [reshapes.areas, List.getElem?_set_self reshapes.lt_length]
    rcases live key held found with old | ⟨rfl, within⟩
    · obtain ⟨owner, owned, within⟩ := laid.live key held old
      by_cases same : held.area = id
      · rw [same] at owned ⊢
        obtain rfl : owner = area := Option.some.inj (owned.symm.trans reshapes.found)
        exact ⟨shaped, at_id, reshapes.same_start ▸ within.mono reshapes.brk_le⟩
      · refine ⟨owner, ?_, within⟩
        rw [reshapes.areas, List.getElem?_set_ne (Ne.symm same), owned]
    · exact ⟨shaped, at_id, within⟩

end Reshapes

end Space

end DemandPaging
