import DemandPaging.Proofs.Tracking

/-! # Operations on mirrored spaces

Every operation is the same on two mirrored spaces, unless the one with fewer pages fails at its limit. That is
decided before anything is done: reservations compare the new end with the reach of the table, and a fault looks
at the capacity first. After that only pages below the limit are written, as the pages with entries, and so the
victims of evictions and whatever a rollback restores, lie there. A table shows its entries in ascending order,
whatever it is made of, so a teardown also gives back frames and slots in the same order on both sides.
-/

namespace DemandPaging

/-- Whether a failure is one of too few pages in the table. -/
def MemoryError.isLimit : MemoryError → Bool
  | .spaceExhausted _ _ | .table _ => true
  | _ => false

namespace Space

open Paging

variable {T : Type} [PageTable T] {size : Geometry} {limit : Nat} {excuse : MemoryError → Prop}

/-- A table of more pages reaches further. -/
theorem reach_le_reach {one other : Space T} (more : PageTable.capacity one.table ≤ PageTable.capacity other.table)
    (geometry : Geometry) : one.reach geometry ≤ other.reach geometry := by
  have grown := Nat.mul_le_mul_right geometry.pageSize more
  have bound := one.reach_lt geometry
  unfold reach at *
  cases product : Word.mul? (PageTable.capacity other.table) geometry.pageSize with
  | none =>
    have last : Word.limit = Word.max + 1 := by decide
    rw [Option.getD_none]
    omega
  | some whole =>
    obtain ⟨fits, rfl⟩ := Word.mul?_eq_some_iff.mp product
    rw [Word.mul?_eq_some_iff.mpr ⟨grown.trans_lt fits, rfl⟩]
    exact grown

theorem growth?_of_capacity_le {one other : Space T}
    (more : PageTable.capacity one.table ≤ PageTable.capacity other.table) {geometry : Geometry} {oldStop size : Nat}
    {pair : Nat × Nat} (grown : one.growth? geometry oldStop size = some pair) :
    other.growth? geometry oldStop size = some pair := by
  obtain ⟨bytes, newStop⟩ := pair
  obtain ⟨aligned, sum, small, within⟩ := growth?_eq_some_iff.mp grown
  exact growth?_eq_some_iff.mpr ⟨aligned, sum, small, within.trans (reach_le_reach more geometry)⟩

section Reserving

variable [TotalTable T]

theorem mirrored_setArea (id : Nat) (area : Area) :
    Mirrored (T := T) size limit excuse (fun _ => True) (modifySpace fun space => space.setArea id area) :=
  mirrored_modifySpace (fun _ _ same => ⟨same.populate, congrArg (List.set · id area) same.areas, same.regions⟩)
    (fun _ _ same => same) fun _ => rfl

theorem mirrored_checkOverlap (id start stop : Nat) :
    Mirrored (T := T) size limit excuse (fun _ => True) (checkOverlap id start stop) := by
  refine mirrored_bind_space fun one other mirrors => ?_
  rw [mirrors.outline.areas]
  cases one.areas.find? fun area => area.id != id && area.overlaps start stop with
  | none => exact .pure trivial
  | some area => exact (mirrored_emit _).bind fun _ _ => .throw _

theorem mirrored_mapZeroed {page : Nat} (fits : page < limit) (frame : Nat) :
    Mirrored (T := T) size limit excuse (fun _ => True) (mapZeroed page frame) :=
  (mirrored_onMachine (Machine.logless_zeroFrame frame)).bind fun _ _ => mirrored_write _ (.inl fits)

theorem mirrored_reportingRelease (id : DeviceId) (frame : Nat) (event : MemoryError → Event) :
    Mirrored (T := T) size limit excuse (fun _ => True) (reporting (onMachine (Machine.release id frame)) event) :=
  mirrored_reporting event (mirrored_onMachine (Machine.logless_release id frame))

/-- What was mapped before a failure is cleared again; all of it lies below the limit. -/
theorem mirrored_mapRange {start stop : Nat} (fits : ∀ page ∈ pagesBetween size start stop, page < limit) :
    Mirrored (T := T) size limit excuse (fun _ => True) (mapRange start stop) := by
  refine mirrored_bind_geometry ?_
  refine (mirrored_onMachine (Machine.logless_acquireMany .ram _)).bind fun drawn _ => ?_
  cases drawn with
  | error reason => exact (mirrored_emit _).bind fun _ _ => .throw _
  | ok frames =>
    have below (pair : Nat × Nat) (member : pair ∈ (pagesBetween size start stop).zip frames) : pair.1 < limit :=
      fits pair.1 (List.of_mem_zip member).1
    refine (mirrored_eachUntilFailure fun pair member => mirrored_mapZeroed (below pair member) pair.2).bind ?_
    rintro ⟨done, failure⟩ inside
    cases failure with
    | none => exact (mirrored_queue (·.pushAll _)).bind fun _ _ => mirrored_emit _
    | some failed =>
      refine .bind (.forM fun pair member => ?_) fun _ _ =>
        .bind (.forM fun frame _ => mirrored_reportingRelease _ _ _) fun _ _ => .throw _
      exact mirrored_reporting _ (mirrored_write _ (.inl (below pair (inside member))))

variable (limits : ∀ stop bytes, excuse (.spaceExhausted stop bytes))
include limits

theorem mirrored_grow (id bytes : Nat) : Mirrored (T := T) size limit excuse (fun _ => True) (grow id bytes) := by
  unfold Mirrored grow
  split
  · exact .throw_bind _
  refine mirrored_bind_space fun one other mirrors => ?_
  rw [mirrors.outline.area?]
  refine .bind_settle fun area _ => mirrored_bind_geometry ?_
  cases growth : one.growth? size area.stop bytes with
  | none => exact .throw_of_excused (limits _ _)
  | some pair =>
    obtain ⟨rounded, newStop⟩ := pair
    obtain ⟨ordered, below⟩ := stop_of_growth? growth
    have more : PageTable.capacity one.table ≤ PageTable.capacity other.table :=
      mirrors.limited.trans_le mirrors.roomy
    rw [growth?_of_capacity_le more growth, mirrors.outline.populate]
    rw [mirrors.limited] at below
    have finish : Mirrored (T := T) size limit excuse (fun _ => True) (do
        modifySpace fun space => space.setArea id { area with stop := newStop }
        emit (.areaGrown id rounded area.stop newStop)
        return area.stop) :=
      (mirrored_setArea _ _).bind fun _ _ => (mirrored_emit _).bind fun _ _ => .pure trivial
    refine (mirrored_checkOverlap _ _ _).bind fun _ _ => ?_
    split
    · exact (mirrored_mapRange fun page => lt_of_mem_pagesBetween ordered below).bind fun _ _ => finish
    · exact finish

theorem mirrored_carveGrown (id bytes : Nat) :
    Mirrored (T := T) size limit excuse (fun _ => True) (carveGrown id bytes) := by
  refine (mirrored_grow limits id bytes).bind fun _ _ => mirrored_bind_space fun one other mirrors => ?_
  rw [mirrors.outline.area?]
  refine .bind_settle fun area _ => ?_
  cases area.takeFromBreak? bytes with
  | none => exact .throw _
  | some pair => exact (mirrored_setArea _ _).bind fun _ _ => .pure trivial

theorem mirrored_carve (id bytes : Nat) : Mirrored (T := T) size limit excuse (fun _ => True) (carve id bytes) := by
  refine mirrored_bind_space fun one other mirrors => ?_
  rw [mirrors.outline.area?]
  refine .bind_settle fun area _ => ?_
  cases area.free.takeFirstFit? bytes with
  | some pair => exact (mirrored_setArea _ _).bind fun _ _ => .pure trivial
  | none =>
    cases area.takeFromBreak? bytes with
    | some pair => exact (mirrored_setArea _ _).bind fun _ _ => .pure trivial
    | none => exact mirrored_carveGrown limits id bytes

theorem mirrored_allocate (owner id bytes : Nat) :
    Mirrored (T := T) size limit excuse (fun _ => True) (allocate owner id bytes) := by
  refine mirrored_bind_space fun one other mirrors => ?_
  rw [slot?, slot?, mirrors.outline.regions]
  refine .bind_settle fun slot _ => ?_
  cases slot with
  | some live => exact .throw _
  | none =>
    simp only
    split
    · exact .throw_bind _
    · refine (mirrored_carve limits owner bytes).bind fun region _ => ?_
      refine .bind (mirrored_modifySpace ?_ (fun _ _ same => same) fun _ => rfl) fun _ _ =>
        (mirrored_emit _).bind fun _ _ => .pure trivial
      intro one other same
      exact ⟨same.populate, same.areas, congrArg (Vector.setIfInBounds · id _) same.regions⟩

theorem mirrored_createArea (start : Nat) :
    Mirrored (T := T) size limit excuse (fun _ => True) (createArea start) := by
  refine mirrored_bind_geometry ?_
  split
  · exact .throw_bind _
  refine mirrored_bind_space fun one other mirrors => ?_
  have more : PageTable.capacity one.table ≤ PageTable.capacity other.table := mirrors.limited.trans_le mirrors.roomy
  rw [mirrors.outline.areas]
  have further := reach_le_reach more size
  simp only
  split
  · exact .throw_bind_of_excused (limits _ _)
  · next within =>
    rw [if_neg (fun beyond => within (further.trans beyond))]
    refine (mirrored_checkOverlap _ _ _).bind fun _ _ => ?_
    refine .bind (mirrored_modifySpace ?_ (fun _ _ same => same) fun _ => rfl) fun _ _ =>
      (mirrored_emit _).bind fun _ _ => .pure trivial
    intro one other same
    exact ⟨same.populate, congrArg (· ++ _) same.areas, same.regions⟩

omit limits in
theorem mirrored_release (id : Nat) : Mirrored (T := T) size limit excuse (fun _ => True) (release id) := by
  refine mirrored_bind_space fun one other mirrors => ?_
  rw [live?, live?, slot?, slot?, mirrors.outline.regions]
  refine .bind_settle fun live _ => ?_
  refine .bind (mirrored_modifySpace ?_ (fun _ _ same => same) fun _ => rfl) fun _ _ =>
    (mirrored_emit _).bind fun _ _ => .pure trivial
  intro one other same
  exact ⟨same.populate, congrArg (List.modify · live.area _) same.areas,
    congrArg (Vector.setIfInBounds · id _) same.regions⟩

end Reserving

section Faulting

variable [TotalTable T]

theorem mirrored_writeOut {page : Nat} (fits : page < limit) (frame device slot : Nat) :
    Mirrored (T := T) size limit excuse (fun _ => True) (writeOut page frame device slot) :=
  (mirrored_onMachine (Machine.logless_copyFrame .ram frame (.swap device) slot)).bind fun _ _ =>
    mirrored_write _ (.inl fits)

theorem mirrored_swapOut {page : Nat} (fits : page < limit) (frame : Nat) :
    Mirrored (T := T) size limit excuse (fun _ => True) (swapOut page frame) := by
  refine (mirrored_onMachine Machine.logless_activeSwap).bind fun device _ => ?_
  refine (mirrored_onMachine (Machine.logless_acquire (.swap device))).bind fun drawn _ => ?_
  cases drawn with
  | none => exact .throw _
  | some slot =>
    refine (mirrored_writeOut fits frame device slot).attempt.bind fun outcome _ => ?_
    cases outcome with
    | ok _ => exact .pure trivial
    | error reason => exact (mirrored_reportingRelease _ _ _).bind fun _ _ => .throw _

/-- The victim had a frame, so it lies below the limit. -/
theorem mirrored_evictOldest :
    Mirrored (T := T) size limit excuse (fun eviction => eviction.victim < limit) evictOldest := by
  refine mirrored_bind_space fun one other mirrors => ?_
  rw [mirrors.resident]
  cases one.resident.takeOldest? with
  | none => exact .throw _
  | some pair =>
    obtain ⟨victim, rest⟩ := pair
    refine (mirrored_queue fun _ => rest).bind fun _ _ => mirrored_bind_lookup fun entry below => ?_
    cases framed : entry.frame? with
    | none => exact (mirrored_emit _).bind fun _ _ => .throw _
    | some frame =>
      have fits : victim < limit := below (by rintro rfl; contradiction)
      refine (mirrored_swapOut fits frame).attempt.bind fun outcome _ => ?_
      cases outcome with
      | ok copy => exact (mirrored_emit _).bind fun _ _ => .pure fits
      | error reason => exact (mirrored_queue (·.putBack victim)).bind fun _ _ => .throw _

theorem mirrored_claimFrame : Mirrored (T := T) size limit excuse
    (fun claimed => ∀ eviction, claimed.2 = some eviction → eviction.victim < limit) claimFrame := by
  refine (mirrored_onMachine (Machine.logless_acquire .ram)).bind fun drawn _ => ?_
  cases drawn with
  | some frame => exact .pure nofun
  | none =>
    refine mirrored_evictOldest.bind fun eviction fits => .pure ?_
    rintro _ ⟨⟩
    exact fits

theorem mirrored_fill (source : Option SwapSlot) (frame : Nat) :
    Mirrored (T := T) size limit excuse (fun _ => True) (fill source frame) := by
  cases source with
  | none => exact mirrored_onMachine (Machine.logless_zeroFrame frame)
  | some copy => exact mirrored_onMachine (Machine.logless_copyFrame _ _ _ _)

theorem mirrored_undoFault (frame : Nat) {eviction : Option Eviction}
    (fits : ∀ made, eviction = some made → made.victim < limit) :
    Mirrored (T := T) size limit excuse (fun _ => True) (undoFault frame eviction) := by
  cases eviction with
  | none => exact mirrored_reportingRelease _ _ _
  | some made =>
    refine (mirrored_onMachine (Machine.logless_copyFrame _ _ _ _)).attempt.bind fun outcome _ => ?_
    cases outcome with
    | ok _ =>
      refine (mirrored_reporting _ (mirrored_write _ (.inl (fits made rfl)))).bind fun _ _ => ?_
      exact (mirrored_reportingRelease _ _ _).bind fun _ _ => mirrored_queue (·.putBack made.victim)
    | error reason => exact (mirrored_emit _).bind fun _ _ => mirrored_reportingRelease _ _ _

theorem mirrored_enlist (page frame : Nat) (source : Option SwapSlot) :
    Mirrored (T := T) size limit excuse (fun _ => True) (enlist page frame source) := by
  cases source with
  | none => exact (mirrored_emit _).bind fun _ _ => mirrored_queue (·.push page)
  | some copy =>
    exact (mirrored_reportingRelease _ _ _).bind fun _ _ => (mirrored_emit _).bind fun _ _ =>
      mirrored_queue (·.push page)

variable (ranges : ∀ refusal, excuse (.table refusal))
include ranges

theorem mirrored_faultIn (page : Nat) (source : Option SwapSlot) :
    Mirrored (T := T) size limit excuse (fun _ => True) (faultIn page source) := by
  refine mirrored_bind_space fun one other mirrors => ?_
  simp only [mirrors.limited]
  split
  · exact .throw_bind_of_excused (ranges _)
  · next within =>
    have fits := Nat.lt_of_not_le within
    rw [if_neg (fun beyond => within (mirrors.roomy.trans beyond))]
    refine mirrored_claimFrame.bind ?_
    rintro ⟨frame, eviction⟩ below
    have furnish : Mirrored (T := T) size limit (fun _ => False) (fun _ => True)
        (do fill source frame; install page frame) :=
      (mirrored_fill source frame).bind fun _ _ => mirrored_write _ (.inl fits)
    refine furnish.attempt.bind fun outcome _ => ?_
    cases outcome with
    | ok _ => exact (mirrored_enlist page frame source).bind fun _ _ => .pure trivial
    | error reason =>
      exact (mirrored_emit _).bind fun _ _ => (mirrored_undoFault frame below).bind fun _ _ => .throw _

theorem mirrored_resolve (page : Nat) : Mirrored (T := T) size limit excuse (fun _ => True) (resolve page) := by
  refine mirrored_bind_lookup fun entry _ => ?_
  cases entry.state with
  | present frame written => exact (mirrored_emit _).bind fun _ _ => .pure trivial
  | absent => exact mirrored_faultIn ranges page none
  | swapped device slot => exact mirrored_faultIn ranges page _

theorem mirrored_locate (id offset : Nat) :
    Mirrored (T := T) size limit excuse (fun _ => True) (locate id offset) := by
  refine mirrored_bind_space fun one other mirrors => ?_
  rw [mirrors.outline.region?]
  refine .bind_settle fun region _ => ?_
  split
  · exact .throw_bind _
  · exact mirrored_bind_geometry ((mirrored_resolve ranges _).bind fun _ _ => .pure trivial)

theorem mirrored_readByte (id offset : Nat) :
    Mirrored (T := T) size limit excuse (fun _ => True) (readByte id offset) :=
  (mirrored_locate ranges id offset).bind fun _ _ => (mirrored_onMachine (Machine.logless_read .ram _)).bind
    fun _ _ => (mirrored_emit _).bind fun _ _ => .pure trivial

theorem mirrored_writeByte (id offset : Nat) (value : UInt8) :
    Mirrored (T := T) size limit excuse (fun _ => True) (writeByte id offset value) :=
  (mirrored_locate ranges id offset).bind fun _ _ => (mirrored_onMachine (Machine.logless_write .ram _ _)).bind
    fun _ _ => (mirrored_markDirty _).bind fun _ _ => mirrored_emit _

theorem mirrored_stamp (count page : Nat) :
    Mirrored (T := T) size limit excuse (fun _ => True) (stamp count page) := by
  refine mirrored_bind_lookup fun entry _ => ?_
  cases entry.state with
  | absent => exact (mirrored_write _ (.inr ranges)).bind fun _ _ => .pure trivial
  | present frame written => exact .pure trivial
  | swapped device slot => exact .pure trivial

theorem mirrored_installPattern (start pages : Nat) :
    Mirrored (T := T) size limit excuse (fun _ => True) (installPattern start pages) := by
  refine mirrored_bind_space fun one other mirrors => mirrored_bind_geometry ?_
  rw [mirrors.outline.pageRange]
  refine .bind_settle fun first _ => ?_
  exact .bind (.foldlM (fun page _ count => mirrored_stamp ranges count page) 0) fun _ _ =>
    (mirrored_emit _).bind fun _ _ => .pure trivial

end Faulting

section Evicting

variable [TotalTable T]

theorem mirrored_writeOutAll (device : Nat) {pairs : List (ResidentPage × Nat)}
    (fits : ∀ pair ∈ pairs, pair.1.page < limit) :
    Mirrored (T := T) size limit excuse (fun _ => True) (writeOutAll device pairs) := by
  refine (mirrored_eachUntilFailure fun pair member => mirrored_writeOut (fits pair member) _ _ _).bind ?_
  rintro ⟨done, failure⟩ inside
  cases failure with
  | none => exact .pure trivial
  | some failed =>
    refine (mirrored_emit _).bind fun _ _ => .bind (.forM fun pair member => ?_) fun _ _ =>
      .bind (.forM fun pair _ => mirrored_reportingRelease _ _ _) fun _ _ => .throw _
    exact mirrored_reporting _ (mirrored_write _ (.inl (fits pair (inside member))))

theorem mirrored_evictPages (start pages : Nat) :
    Mirrored (T := T) size limit excuse (fun _ => True) (evictPages start pages) := by
  refine mirrored_bind_space fun one other mirrors => mirrored_bind_geometry ?_
  rw [mirrors.outline.pageRange]
  refine .bind_settle fun first _ => mirrored_bind_space fun one other mirrors => ?_
  have same : residentIn other.table first pages = residentIn one.table first pages := by
    simp only [residentIn, mirrors.lookup]
  have fits (held : ResidentPage) (member : held ∈ residentIn one.table first pages) : held.page < limit :=
    mirrors.lt_of_frame (mem_residentIn member)
  simp only [same]
  split
  · exact .pure trivial
  refine (mirrored_onMachine Machine.logless_activeSwap).bind fun device _ => ?_
  refine (mirrored_onMachine (Machine.logless_acquireMany (.swap device) _)).bind fun drawn _ => ?_
  cases drawn with
  | error reason => exact .throw _
  | ok slots =>
    refine (mirrored_writeOutAll device fun pair member => fits pair.1 (List.of_mem_zip member).1).bind fun _ _ => ?_
    refine (mirrored_queue (·.without _)).bind fun _ _ => .bind (.forM fun pair _ => ?_) fun _ _ => .pure trivial
    exact (mirrored_reportingRelease _ _ _).bind fun _ _ => mirrored_emit _

theorem mirrored_dumpTable (start stop : Nat) :
    Mirrored (T := T) size limit excuse (fun _ => True) (dumpTable start stop) := by
  refine mirrored_bind_geometry (mirrored_bind_space fun one other mirrors => ?_)
  simp only [mirrors.mapped]
  refine .bind (.modify fun _ _ mirrors => ?_) fun _ _ => .pure trivial
  exact ⟨mirrors.toMirrors, mirrors.machine.devices, mirrors.machine.sized⟩

theorem mirrored_teardown : Mirrored (T := T) size limit excuse (fun _ => True) teardown := by
  refine mirrored_bind_space fun one other mirrors => ?_
  simp only [mirrors.mapped]
  refine .bind (.forM fun slot member => ?_) fun _ _ => (mirrored_queue fun _ => ∅).bind fun _ _ => mirrored_emit _
  obtain ⟨page, entry⟩ := slot
  obtain ⟨read, nonzero⟩ := (LawfulTable.mem_mapped_iff mirrors.formed).mp member
  have fits := mirrors.lt_of_lookup (read.trans_ne nonzero)
  unfold releaseEntry
  cases home? entry with
  | none => exact .pure trivial
  | some home =>
    exact (mirrored_reportingRelease _ _ _).bind fun _ _ => mirrored_reporting _ (mirrored_write _ (.inl fits))

end Evicting

end Space

/-- A call is answered by the space with fewer pages as it is by the other one. -/
theorem Call.mirrored_perform {T : Type} [PageTable T] [TotalTable T] {size : Geometry} {limit : Nat} (call : Call) :
    Paging.Mirrored (T := T) size limit (fun reason => reason.isLimit = true) (fun _ => True) call.perform := by
  have limits (stop bytes : Nat) : (MemoryError.spaceExhausted stop bytes).isLimit = true := rfl
  have ranges (refusal : TableError) : (MemoryError.table refusal).isLimit = true := rfl
  have settled {α : Type} {wrap : α → Answer} {outcome : Space T → Except MemoryError α}
      (same : ∀ one other : Space T, one.SameOutline other → outcome other = outcome one) :
      Paging.Mirrored (T := T) size limit (fun reason => reason.isLimit = true) (fun _ => True)
        (do return wrap (← settle (outcome (← Paging.space)))) := by
    refine Paging.mirrored_bind_space fun one other mirrors => ?_
    rw [same _ _ mirrors.outline]
    exact .bind (.settle _) fun _ _ => .pure trivial
  cases call with
  | allocate owner id bytes => exact (Space.mirrored_allocate limits owner id bytes).map
  | release id => exact (Space.mirrored_release id).map
  | grow id bytes => exact (Space.mirrored_grow limits id bytes).map
  | createArea start => exact (Space.mirrored_createArea limits start).map
  | resolve page => exact (Space.mirrored_resolve ranges page).map
  | readByte id offset => exact (Space.mirrored_readByte ranges id offset).map
  | writeByte id offset value => exact (Space.mirrored_writeByte ranges id offset value).map
  | evictPages start pages => exact (Space.mirrored_evictPages start pages).map
  | installPattern start pages => exact (Space.mirrored_installPattern ranges start pages).map
  | usage id => exact settled fun _ _ same => same.usage id
  | region id => exact settled fun _ _ same => same.region? id
  | area id => exact settled fun _ _ same => same.area? id
  | dumpTable start stop => exact (Space.mirrored_dumpTable start stop).map

end DemandPaging
