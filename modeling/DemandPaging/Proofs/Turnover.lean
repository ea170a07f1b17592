import DemandPaging.Proofs.CallEndings

/-! # Turnover of the resident pages

A stage is tidy when its queue lists the resident pages once each and every page with a home lies in an
area. Operations that resolve only pages in areas keep a stage tidy, and each turns over the queue in one
way: some pages leave it, the others keep their order, and the pages that come in stand at the end. A fault
lets at most the oldest page go, a range eviction takes pages from anywhere, and growth lets no page go. A
fault that fails leaves the queue as it was, since the head of a tidy queue is never stale.
-/

namespace DemandPaging

variable {T : Type} [PageTable T]

/-- Whether a page has a RAM frame. -/
def Memory.Resident (memory : Memory T) (page : Nat) : Prop := ∃ frame, memory.homeOf page = some (.ram, frame)

theorem Memory.resident_iff {memory : Memory T} {page : Nat} :
    memory.Resident page ↔ (memory.lookup page).frame? ≠ none := by
  rw [Resident, ← Option.isSome_iff_ne_none, Option.isSome_iff_exists]
  simp only [homeOf_eq_ram_iff]

theorem Memory.not_resident_of_swapped {memory : Memory T} {page device slot : Nat}
    (swapped : memory.homeOf page = some (.swap device, slot)) : ¬ memory.Resident page := by
  rintro ⟨frame, held⟩
  cases held.symm.trans swapped

structure Stage.Tidy (stage : Stage T) : Prop where
  nodup : stage.space.resident.toList.Nodup
  listed : ∀ page, page ∈ stage.space.resident.toList ↔ stage.memory.Resident page
  covered : ∀ page, stage.memory.homeOf page ≠ none → stage.space.Covers stage.devices.geometry page

/-- The pages `gone` left the queue and the pages `come` joined it, and the stage is still tidy. -/
structure Turned (before : Stage T) (gone come : List Nat) (after : Stage T) : Prop where
  tidy : after.Tidy
  resident : after.space.resident.toList = before.space.resident.toList.filter (fun page => page ∉ gone) ++ come

/-- What happens to single pages when the pages `gone` leave and the pages `come` come in. -/
structure Swaps (before : Stage T) (gone come : List Nat) (after : Stage T) : Prop where
  geometry : after.devices.geometry = before.devices.geometry
  covers : ∀ page, before.space.Covers before.devices.geometry page →
    after.space.Covers before.devices.geometry page
  resident : after.space.resident.toList = before.space.resident.toList.filter (fun page => page ∉ gone) ++ come
  nodup : come.Nodup
  away : ∀ page ∈ come, ¬ before.memory.Resident page
  held : ∀ page ∈ gone, before.memory.Resident page
  arrived : ∀ page ∈ come, after.memory.Resident page
  left : ∀ page ∈ gone, ¬ after.memory.Resident page
  covered : ∀ page ∈ come, after.space.Covers before.devices.geometry page
  others : ∀ page, page ∉ gone → page ∉ come → after.memory.homeOf page = before.memory.homeOf page

namespace Stage.Tidy

variable {before middle after : Stage T} {gone come : List Nat} (tidy : before.Tidy)
include tidy

theorem queued : ∀ page ∈ before.space.resident.toList, (before.memory.lookup page).frame? ≠ none :=
  fun page member => Memory.resident_iff.mp ((tidy.listed page).mp member)

theorem turned (swaps : Swaps before gone come after) : Turned before gone come after where
  resident := swaps.resident
  tidy := {
    nodup := by
      rw [swaps.resident]
      refine List.nodup_append.mpr ⟨tidy.nodup.filter _, swaps.nodup, fun page member other new same => ?_⟩
      have resident := (tidy.listed page).mp (List.mem_of_mem_filter member)
      exact swaps.away page (same ▸ new) resident
    listed := fun page => by
      rw [swaps.resident, List.mem_append, List.mem_filter, decide_eq_true_eq, tidy.listed]
      by_cases new : page ∈ come
      · exact iff_of_true (.inr new) (swaps.arrived page new)
      · by_cases old : page ∈ gone
        · refine iff_of_false ?_ (swaps.left page old)
          rintro (⟨-, kept⟩ | joined)
          · exact kept old
          · exact new joined
        · rw [or_iff_left new, and_iff_left old, Memory.Resident, Memory.Resident, swaps.others page old new]
    covered := fun page homed => by
      rw [swaps.geometry]
      by_cases new : page ∈ come
      · exact swaps.covered page new
      · refine swaps.covers page (tidy.covered page ?_)
        by_cases old : page ∈ gone
        · obtain ⟨frame, held⟩ := swaps.held page old
          rw [held]
          exact Option.some_ne_none _
        · rwa [← swaps.others page old new] }

/-- A stage with the same queue, the same homes and the same areas. -/
theorem turned_of_homes (geometry : after.devices.geometry = before.devices.geometry)
    (areas : after.space.areas = before.space.areas)
    (resident : after.space.resident.toList = before.space.resident.toList)
    (homeOf : ∀ page, after.memory.homeOf page = before.memory.homeOf page) : Turned before [] [] after := by
  refine tidy.turned ⟨geometry, fun page covered => ?_, ?_, List.nodup_nil, ?_, ?_, ?_, ?_, ?_,
    fun page _ _ => homeOf page⟩
  · unfold Space.Covers
    rwa [areas]
  · simp [resident]
  all_goals exact List.forall_mem_nil _

theorem turned_of_unmoved (unmoved : Space.Unmoved before after) : Turned before [] [] after := by
  have devices : after.devices = before.devices := congrArg Memory.devices unmoved.memory
  exact tidy.turned_of_homes (by rw [devices]) unmoved.outline.areas unmoved.resident fun page => by
    rw [unmoved.memory]

end Stage.Tidy

theorem Turned.same {before middle after : Stage T} {gone come : List Nat} (turned : Turned before gone come middle)
    (same : Turned middle [] [] after) : Turned before gone come after where
  tidy := same.tidy
  resident := by
    rw [← turned.resident, same.resident]
    simp

namespace Space

/-- The page that is to come in when a page is asked for: that page, unless it is resident. -/
def faultOn (space : Space T) (page : Nat) : List Nat :=
  if (PageTable.lookup space.table page).frame? = none then [page] else []

/-- The pages that are to come in when an area has grown. -/
def grownPages (before after : Space T) (geometry : Geometry) (id : Nat) : List Nat :=
  match before.areas[id]?, after.areas[id]? with
  | some area, some shaped => before.eagerPages geometry area.stop shaped.stop
  | _, _ => []

theorem Reshapes.grownPages_eq {before after : Space T} {geometry : Geometry} {id : Nat} {area shaped : Area}
    (reshapes : before.Reshapes geometry id area shaped after) :
    before.grownPages after geometry id = before.eagerPages geometry area.stop shaped.stop := by
  have now : after.areas[id]? = some shaped := by
    rw [reshapes.areas, List.getElem?_set_self reshapes.lt_length]
  simp only [grownPages, reshapes.found, now]

variable [TotalTable T] {before after : Stage T} {reserved : Set Home} {page frame : Nat}

omit [TotalTable T] in
/-- A page of an area came in. -/
theorem PagedIn.turned {victim : Option Nat} (paged : PagedIn before page frame victim after) (tidy : before.Tidy)
    (keeps : before.Keeps reserved ∅ after) (named : after.memory.homeOf page = some (.ram, frame))
    (inside : before.space.Covers before.devices.geometry page) : Turned before victim.toList [page] after := by
  obtain ⟨rest, queue, queue_after⟩ := paged.resident
  have nodup := tidy.nodup
  rw [queue, List.nodup_append] at nodup
  have covers (other : Nat) (covered : before.space.Covers before.devices.geometry other) :
      after.space.Covers before.devices.geometry other := by
    unfold Space.Covers
    rwa [keeps.outline.areas]
  refine tidy.turned ⟨keeps.memory.geometry, covers, ?_, ?_, ?_, ?_, ?_, ?_, ?_, ?_⟩
  · have kept : rest.filter (fun other => other ∉ victim.toList) = rest := by
      refine List.filter_eq_self.mpr fun other member => decide_eq_true fun gone => ?_
      exact nodup.2.2 other gone other member rfl
    have left : victim.toList.filter (fun other => other ∉ victim.toList) = [] := by
      refine List.filter_eq_nil_iff.mpr fun other gone => ?_
      simpa using gone
    rw [queue_after, queue, List.filter_append, left, kept, List.nil_append]
  · exact List.nodup_cons.mpr ⟨List.not_mem_nil, List.nodup_nil⟩
  · intro other new
    rw [List.mem_singleton.mp new, Memory.resident_iff, not_not]
    exact paged.away
  · intro other gone
    exact paged.held other (Option.mem_toList.mp gone)
  · intro other new
    exact ⟨frame, List.mem_singleton.mp new ▸ named⟩
  · intro other gone
    obtain ⟨slot, swapped⟩ := paged.swapped other (Option.mem_toList.mp gone)
    exact Memory.not_resident_of_swapped swapped
  · intro other new
    exact List.mem_singleton.mp new ▸ covers page inside
  · intro other kept elsewhere
    have lookup := paged.others other (by simpa using elsewhere) fun same => kept (Option.mem_toList.mpr same)
    rw [Memory.homeOf, lookup, Memory.homeOf]

/-- A page of an area was asked for, and no page but the oldest had to leave. -/
theorem Resolved.turned (resolved : Resolved before reserved page frame after) (tidy : before.Tidy)
    (inside : before.space.Covers before.devices.geometry page) :
    ∃ gone, Turned before gone (before.space.faultOn page) after ∧
      gone.length ≤ 1 ∧ gone <+: before.space.resident.toList := by
  rcases resolved.change with unmoved | ⟨victim, paged⟩
  · have held : before.memory.Resident page := ⟨frame, unmoved.memory ▸ resolved.homeOf⟩
    have none : before.space.faultOn page = [] := if_neg (Memory.resident_iff.mp held)
    rw [none]
    exact ⟨[], tidy.turned_of_unmoved unmoved, Nat.zero_le _, List.nil_prefix⟩
  · have missing : before.space.faultOn page = [page] := if_pos paged.away
    rw [missing]
    obtain ⟨rest, queue, -⟩ := paged.resident
    refine ⟨victim.toList, paged.turned tidy resolved.keeps resolved.homeOf inside, ?_, rest, queue.symm⟩
    cases victim with
    | none => exact Nat.zero_le 1
    | some old => exact le_rfl

theorem Written.turned {address : Nat} {value : UInt8} (written : Written before reserved address value after)
    (tidy : before.Tidy)
    (inside : before.space.Covers before.devices.geometry (before.devices.geometry.pageOf address)) :
    ∃ gone, Turned before gone (before.space.faultOn (before.devices.geometry.pageOf address)) after ∧
      gone.length ≤ 1 ∧ gone <+: before.space.resident.toList := by
  obtain ⟨frame, middle, resolved, homeOf, resident⟩ := written.resolved
  obtain ⟨gone, turned, oldest⟩ := resolved.turned tidy inside
  refine ⟨gone, turned.same (turned.tidy.turned_of_homes ?_ ?_ ?_ homeOf), oldest⟩
  · exact written.memory.geometry.trans resolved.keeps.memory.geometry.symm
  · exact written.outline.areas.trans resolved.keeps.outline.areas.symm
  · rw [resident]

omit [TotalTable T] in
/-- On a tidy stage a fault is not declined because of a stale queue. -/
theorem Declined.turned {reason : MemoryError} (declined : Declined before page reason after) (tidy : before.Tidy) :
    Turned before [] [] after ∧ reason.isStale = false := by
  cases declined with
  | outOfRange beyond => exact ⟨tidy.turned_of_unmoved ⟨rfl, .refl _, rfl⟩, rfl⟩
  | noRoom _ _ full refused =>
    obtain ⟨starved, unmoved⟩ := refused.starved_of_queued tidy.queued
    constructor
    · exact tidy.turned_of_unmoved unmoved
    · cases starved with
      | noVictim idle => rfl
      | noSlot _ short => exact DeviceSet.notStale_of_shortage? short

theorem Stamped.turned (stamped : Stamped before reserved after) (tidy : before.Tidy) : Turned before [] [] after :=
  tidy.turned_of_homes stamped.keeps.memory.geometry stamped.keeps.outline.areas (by rw [stamped.resident])
    stamped.homeOf

theorem RangeEvicted.turned {gone : List Nat} (evicted : RangeEvicted before reserved gone after)
    (tidy : before.Tidy) : Turned before gone [] after := by
  refine tidy.turned ⟨evicted.keeps.memory.geometry, fun page covered => ?_, ?_, List.nodup_nil, ?_, evicted.held,
    ?_, fun page member => ?_, ?_, fun page kept _ => ?_⟩
  · unfold Space.Covers
    rwa [evicted.keeps.outline.areas]
  · rw [evicted.resident, List.append_nil]
  · exact List.forall_mem_nil _
  · exact List.forall_mem_nil _
  · obtain ⟨slot, swapped⟩ := evicted.swapped page member
    exact Memory.not_resident_of_swapped swapped
  · exact List.forall_mem_nil _
  · rw [Memory.homeOf, evicted.others page kept, Memory.homeOf]

/-- The pages by which an area grew had no home, as they were in no area. -/
theorem Extended.turned {pages : List Nat} (extended : Extended before reserved pages after) (tidy : before.Tidy) :
    Turned before [] pages after := by
  refine tidy.turned ⟨extended.mapped.keeps.geometry, extended.covers, ?_, extended.nodup, fun page new => ?_, ?_,
    extended.mapped.homeOf, ?_, extended.covered, fun page _ kept => ?_⟩
  · rw [extended.mapped.resident]
    simp
  · rintro ⟨place, held⟩
    refine extended.fresh page new (tidy.covered page ?_)
    rw [held]
    exact Option.some_ne_none _
  · exact List.forall_mem_nil _
  · exact List.forall_mem_nil _
  · rw [Memory.homeOf, extended.mapped.others page kept, Memory.homeOf]

end Space

namespace Call

/-- The page that a call resolves by its number. -/
def resolves? : Call → Option Nat
  | .resolve page => some page
  | _ => none

/-- A page that a call resolves by its number lies in an area. -/
def InArea (call : Call) (space : Space T) (geometry : Geometry) : Prop :=
  ∀ page ∈ call.resolves?, space.Covers geometry page

/-- The pages that a call brings in when it succeeds, in the order in which they come. -/
def pagesIn (call : Call) (before after : Space T) (geometry : Geometry) : List Nat :=
  match call with
  | .allocate id _ _ | .grow id _ => before.grownPages after geometry id
  | .resolve page => before.faultOn page
  | .readByte id offset | .writeByte id offset _ =>
    match before.address? id offset with
    | some address => before.faultOn (geometry.pageOf address)
    | none => []
  | _ => []

theorem pagesIn_of_looks {call : Call} (looks : call.looks = true) (before after : Space T) (geometry : Geometry) :
    call.pagesIn before after geometry = [] := by
  cases call <;> first | rfl | contradiction

/-- Whether a call evicts a range. -/
def evicts : Call → Bool
  | .evictPages _ _ => true
  | _ => false

variable [TotalTable T] {stage : Stage T} {reserved : Set Home}

/-- Every call turns over the queue of a tidy stage, and none finds it stale. -/
theorem ends_turned (custody : stage.memory.Custody reserved) (laid : stage.space.Laid stage.devices.geometry)
    (tidy : stage.Tidy) (call : Call) (inside : call.InArea stage.space stage.devices.geometry) :
    Ends call.perform
      (fun _ after => ∃ gone,
        Turned stage gone (call.pagesIn stage.space after.space stage.devices.geometry) after ∧
        (call.evicts = false → gone.length ≤ 1 ∧ gone <+: stage.space.resident.toList))
      (fun reason after => Turned stage [] [] after ∧ reason.isStale = false) stage := by
  have quiet {come : List Nat} {after : Stage T} (turned : Turned stage [] come after) :
      ∃ gone, Turned stage gone come after ∧
        (call.evicts = false → gone.length ≤ 1 ∧ gone <+: stage.space.resident.toList) :=
    ⟨[], turned, fun _ => ⟨Nat.zero_le _, List.nil_prefix⟩⟩
  apply (ends_done custody laid call).mono
  · intro _ after done
    cases done with
    | allocated regrown extended | grown regrown extended =>
      rw [pagesIn, regrown.reshapes.grownPages_eq]
      exact quiet (extended.turned tidy)
    | released extended | created extended => exact quiet (extended.turned tidy)
    | resolved resolved =>
      obtain ⟨gone, turned, oldest⟩ := resolved.turned tidy (inside _ rfl)
      exact ⟨gone, turned, fun _ => oldest⟩
    | read named resolved =>
      obtain ⟨gone, turned, oldest⟩ := resolved.turned tidy (laid.covers_of_address named)
      simp only [pagesIn, named]
      exact ⟨gone, turned, fun _ => oldest⟩
    | written named written =>
      obtain ⟨gone, turned, oldest⟩ := written.turned tidy (laid.covers_of_address named)
      simp only [pagesIn, named]
      exact ⟨gone, turned, fun _ => oldest⟩
    | evicted evicted => exact ⟨_, evicted.turned tidy, fun never => Bool.noConfusion never⟩
    | stamped stamped => exact quiet (stamped.turned tidy)
    | looked looks unmoved =>
      rw [pagesIn_of_looks looks]
      exact quiet (tidy.turned_of_unmoved unmoved)
  · intro reason after failed
    cases failed with
    | rejected rejected => exact ⟨tidy.turned_of_unmoved rejected.toUnmoved, rejected.notStale⟩
    | declined declined => exact declined.turned tidy
    | stamped stamped notStale => exact ⟨stamped.turned tidy, notStale⟩

end Call

end DemandPaging
