import DemandPaging.Proofs.NoLeaks

/-! # What growth costs a page that is already there

A page can be resolved before any area has it. Growth puts a new frame behind every page that it adds
under eager population, without looking whether the page is there already. If it is, its old frame or
slot stays in use with no entry that names it, so nothing can ever give it back, and a page that was
resident stands on the queue twice. That is the only way in which growth upsets the books: when no added
page has a home or a place on the queue, they are as right after the growth as they were before.
-/

namespace DemandPaging

/-- Two frames of RAM and two swap slots. -/
def MemoryConfig.roomy : MemoryConfig := { ramSize := 512, swapSizes := [512] }

/-- The area that a call may grow. -/
def Call.grows? : Call → Option Nat
  | .allocate id _ _ | .grow id _ => some id
  | _ => none

/-- What a call that may grow an area did, in the pages that it mapped. -/
theorem Call.ends_growth {T : Type} [PageTable T] [TotalTable T] {stage : Stage T} {reserved : Set Home}
    (custody : stage.memory.Custody reserved) (laid : stage.space.Laid stage.devices.geometry) {call : Call} {id : Nat}
    (grows : call.grows? = some id) :
    Ends call.perform
      (fun _ after =>
        Space.Extended stage reserved (stage.space.grownPages after.space stage.devices.geometry id) after)
      (fun _ _ => True) stage := by
  apply (ends_done custody laid call).mono
  · intro _ after done
    cases done with
    | allocated regrown extended | grown regrown extended =>
      obtain rfl := Option.some.inj grows
      rwa [regrown.reshapes.grownPages_eq]
    | looked looks _ => cases call <;> contradiction
    | _ => contradiction
  · intros
    trivial

namespace Host

/-- Every frame and slot in use is named by exactly one entry, and every resident page is on the queue of
its space exactly once. -/
structure Accounted (host : Host StandardTable) : Prop where
  named : ∀ home, host.machine.devices.InUse home → ∃! index, host.homeOf index = some home
  queued : ∀ number space page, host.space? number = some space →
    (PageTable.lookup space.table page).frame? ≠ none → space.resident.toList.count page = 1

/-- The page has no frame and no slot, and the queue does not list it. -/
def Untouched (space : Space StandardTable) (page : Nat) : Prop :=
  Space.home? (PageTable.lookup space.table page) = none ∧ page ∉ space.resident.toList

variable {host : Host StandardTable} {number : Nat} {space : Space StandardTable} {pages : List Nat}
  {after : Stage StandardTable}

/-- The home that a page had before it was mapped again belongs to nobody. -/
theorem Custody.homeOf_ne_of_lost (custody : host.Custody) (found : host.space? number = some space)
    (mapped : Space.Mapped (host.stage space) (host.elsewhere number) pages after) {page : Nat}
    (member : page ∈ pages) {home : Home} (named : host.homeOf (number, page) = some home) (index : Nat × Nat) :
    (host.put number after).homeOf index ≠ some home := by
  intro held
  have lost : home ∈ Space.homesOf (host.stage space).memory pages ∪ host.elsewhere number :=
    .inl ⟨page, member, (homeOf_stage found page).trans named⟩
  rw [homeOf_put found] at held
  split at held
  · exact mapped.custody.accounts.apart _ _ held lost
  · next away => exact away (congrArg Prod.fst (custody.unshared _ _ _ held named))

theorem inUse_of_lost (found : host.space? number = some space)
    (mapped : Space.Mapped (host.stage space) (host.elsewhere number) pages after) {page : Nat}
    (member : page ∈ pages) {home : Home} (named : host.homeOf (number, page) = some home) : after.devices.InUse home :=
  mapped.custody.accounts.inUse_of_mem (.inl ⟨page, member, (homeOf_stage found page).trans named⟩)

/-- Growth over a page with a home, or over a page on the queue, is not accounted for. -/
theorem Custody.untouched_of_accounted (custody : host.Custody) (found : host.space? number = some space)
    (mapped : Space.Mapped (host.stage space) (host.elsewhere number) pages after)
    (accounted : (host.put number after).Accounted) {page : Nat} (member : page ∈ pages) : Untouched space page := by
  constructor
  · by_contra homed
    obtain ⟨home, named⟩ := Option.ne_none_iff_exists'.mp homed
    have owned : host.homeOf (number, page) = some home := homeOf_eq_some_iff.mpr ⟨space, found, named⟩
    obtain ⟨index, held, -⟩ := accounted.named home (inUse_of_lost found mapped member owned)
    exact custody.homeOf_ne_of_lost found mapped member owned index held
  · intro listed
    obtain ⟨frame, framed⟩ := mapped.homeOf page member
    have resident := Memory.resident_iff.mp ⟨frame, framed⟩
    have once := accounted.queued number after.space page (space?_put found after) resident
    have before := List.one_le_count_iff.mpr listed
    have again := List.one_le_count_iff.mpr member
    rw [mapped.resident, List.count_append] at once
    have kept : List.count page (host.stage space).space.resident.toList = List.count page space.resident.toList := rfl
    omega

theorem homesOf_eq_empty_of_untouched (untouched : ∀ page ∈ pages, Untouched space page) :
    Space.homesOf (host.stage space).memory pages = ∅ := by
  apply Set.eq_empty_iff_forall_notMem.mpr
  rintro home ⟨page, member, named⟩
  have blank : (host.stage space).memory.homeOf page = none := (untouched page member).1
  rw [blank] at named
  contradiction

/-- Growth over pages that have no home and are not on the queue is accounted for. -/
theorem Accounted.put (accounted : host.Accounted) (custody : (host.put number after).Custody)
    (found : host.space? number = some space)
    (mapped : Space.Mapped (host.stage space) (host.elsewhere number) pages after) (nodup : pages.Nodup)
    (untouched : ∀ page ∈ pages, Untouched space page) : (host.put number after).Accounted where
  named home held := by
    have kept := mapped.custody
    rw [homesOf_eq_empty_of_untouched untouched, Set.empty_union] at kept
    have named : host.Named := fun home used => (accounted.named home used).exists
    obtain ⟨index, owned⟩ := named.put found kept home held
    exact ⟨index, owned, fun other same => custody.unshared _ _ _ same owned⟩
  queued other kept page present resident := by
    rw [Host.put, space?_set _ _ (lt_length found)] at present
    split at present
    · obtain rfl := Option.some.inj present
      rw [mapped.resident, List.count_append]
      by_cases member : page ∈ pages
      · have first := List.count_eq_zero.mpr (untouched page member).2
        have once := List.count_eq_one_of_mem nodup member
        show space.resident.toList.count page + pages.count page = 1
        omega
      · have same : PageTable.lookup after.space.table page = PageTable.lookup space.table page :=
          mapped.others page member
        rw [same] at resident
        have before := accounted.queued number space page found resident
        have none_new := List.count_eq_zero.mpr member
        show space.resident.toList.count page + pages.count page = 1
        omega
    · exact accounted.queued other kept page present resident

/-- After growth the books are right exactly when every page that it mapped was untouched before. -/
theorem Custody.accounted_step_iff (custody : host.Custody) {id : Nat} {call : Call} {answer : Answer}
    (grows : call.grows? = some id) (found : host.space? number = some space)
    (done : host.answer? number call = some (.ok answer)) (accounted : host.Accounted) :
    ∃ grown, (host.step (.call number call)).space? number = some grown ∧
      ((host.step (.call number call)).Accounted ↔
        ∀ page ∈ space.grownPages grown host.machine.devices.geometry id, Untouched space page) := by
  have custody_now := custody.step (.call number call)
  rw [answer?, run_eq found, Option.some.injEq] at done
  rw [Host.step, run_eq found] at custody_now ⊢
  have ends := call.ends_growth (custody.stage found) (custody.laid number space found) grows
  rcases onStage_of_ends ends with ⟨_, after, ran, extended⟩ | ⟨reason, after, ran, -⟩
  · rw [ran] at custody_now ⊢
    refine ⟨after.space, space?_put found after, ?_, ?_⟩
    · intro books page member
      exact custody.untouched_of_accounted found extended.mapped books member
    · exact accounted.put custody_now found extended.mapped extended.nodup
  · rw [ran] at done
    contradiction

variable {config : MemoryConfig} {machine : Machine}

/-- Whatever happened before, growth keeps the books right exactly when it maps only untouched pages. -/
theorem accounted_after_growth_iff (built : config.build = .ok machine) (word : config.ramSize < Word.limit)
    (run : List Operation) {number id : Nat} {call : Call} {space : Space StandardTable}
    (grows : call.grows? = some id) (found : ((start machine).after run).space? number = some space)
    (done : ∃ answer, ((start machine).after run).answer? number call = some (.ok answer))
    (accounted : ((start machine).after run).Accounted) :
    ∃ grown, ((start machine).after (run ++ [.call number call])).space? number = some grown ∧
      (((start machine).after (run ++ [.call number call])).Accounted ↔
        ∀ page ∈ space.grownPages grown ((start machine).after run).machine.devices.geometry id,
          Untouched space page) := by
  obtain ⟨answer, done⟩ := done
  rw [after_concat]
  exact (custody_after built word run).accounted_step_iff grows found done accounted

/-- The books are right when one page is all there is. -/
theorem Custody.accounted_of_single (custody : host.Custody) (frame : Nat) (index : Nat × Nat)
    (ram : host.machine.devices.ram.pool.inUse.toList = [frame])
    (swaps : ∀ device ∈ host.machine.devices.swaps, device.pool.inUse.toList = [])
    (named : host.homeOf index = some (.ram, frame))
    (queue : (host.space? index.1).map (fun space => space.resident.toList) = some [index.2]) : host.Accounted := by
  have only {home : Home} (used : host.machine.devices.InUse home) : home = (.ram, frame) := by
    obtain ⟨id, place⟩ := home
    obtain ⟨device, found, member⟩ := used
    rw [← Std.ExtTreeSet.mem_toList] at member
    cases id with
    | ram =>
      cases found
      rw [ram] at member
      exact congrArg (Prod.mk DeviceId.ram) (List.mem_singleton.mp member)
    | swap slot =>
      rw [swaps device (List.mem_of_getElem? found)] at member
      contradiction
  constructor
  · intro home used
    rw [only used]
    exact ⟨index, named, fun other same => custody.unshared _ _ _ same named⟩
  · intro number space page found resident
    obtain ⟨place, framed⟩ := Option.ne_none_iff_exists'.mp resident
    have owned : host.homeOf (number, page) = some (.ram, place) := by
      rw [← homeOf_stage found]
      exact Memory.homeOf_eq_ram_iff.mpr framed
    have same := only (custody.inUse _ _ owned)
    rw [same] at owned
    obtain rfl := custody.unshared _ _ _ owned named
    rw [found] at queue
    have listed : space.resident.toList = [page] := Option.some.inj queue
    rw [listed, List.count_singleton_self]

/-- A page was mapped by growth. -/
def grownRun : List Operation := [.add .eager (.flat 4), .call 0 (.grow 0 256)]

theorem accounted_after_growth_iff_of_grown :
    ∃ machine space, MemoryConfig.roomy.build = .ok machine ∧
      ((start machine).after grownRun).space? 0 = some space ∧
      ((start machine).after grownRun).answer? 0 (.grow 0 256) = some (.ok (.number 256)) ∧
      ((start machine).after grownRun).Accounted ∧
      ∃ grown, ((start machine).after (grownRun ++ [.call 0 (.grow 0 256)])).space? 0 = some grown ∧
        (((start machine).after (grownRun ++ [.call 0 (.grow 0 256)])).Accounted ↔
          ∀ page ∈ space.grownPages grown ((start machine).after grownRun).machine.devices.geometry 0,
            Untouched space page) := by
  have built : MemoryConfig.roomy.build = .ok _ := rfl
  have accounted := (custody_after built (by decide) grownRun).accounted_of_single 0 (0, 0) (by decide +kernel)
    (by decide +kernel) (by decide +kernel) (by decide +kernel)
  refine ⟨_, _, built, rfl, by decide +kernel, accounted, ?_⟩
  exact accounted_after_growth_iff built (by decide) grownRun rfl rfl ⟨.number 256, by decide +kernel⟩ accounted

/-- A page was resolved before any area had it. -/
def aheadRun : List Operation := [.add .eager (.flat 4), .call 0 (.resolve 0)]

/-- Growth over that page leaves its old frame in use without a name. -/
theorem not_accounted_after_growth_ahead :
    ∃ machine, MemoryConfig.roomy.build = .ok machine ∧ ((start machine).after aheadRun).Accounted ∧
      ((start machine).after aheadRun).answer? 0 (.grow 0 256) = some (.ok (.number 0)) ∧
      ¬ ((start machine).after (aheadRun ++ [.call 0 (.grow 0 256)])).Accounted := by
  have built : MemoryConfig.roomy.build = .ok _ := rfl
  have custody := custody_after built (by decide)
  have accounted := (custody aheadRun).accounted_of_single 0 (0, 0) (by decide +kernel) (by decide +kernel)
    (by decide +kernel) (by decide +kernel)
  refine ⟨_, built, accounted, by decide +kernel, ?_⟩
  intro books
  obtain ⟨index, named, -⟩ := books.named (.ram, 0) ⟨_, rfl, by decide +kernel⟩
  have listed := (custody _).mem_framesOn_iff.mpr ⟨index, named⟩
  revert listed
  decide +kernel

end Host

end DemandPaging
