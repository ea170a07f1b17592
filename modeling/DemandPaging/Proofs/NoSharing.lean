import DemandPaging.Proofs.Starts

/-! # No frame or slot is shared

In every state that a run can reach, what a table entry names is there, is in use, is not free, and is
named by no other entry of any space. A frame or slot that was given back is thus named by no entry until
it is handed out again.
-/

namespace DemandPaging.Host

variable {config : MemoryConfig} {machine : Machine}

/-- The frame of a present entry, or the slot of a swapped one, belongs to that entry alone. -/
theorem named_home_held_once (built : config.build = .ok machine) (word : config.ramSize < Word.limit)
    (run : List Operation) {number page frame : Nat} {id : DeviceId} {space : Space StandardTable}
    (found : ((start machine).after run).space? number = some space)
    (named : Space.home? (PageTable.lookup space.table page) = some (id, frame)) :
    (∃ device, ((start machine).after run).machine.devices.get? id = some device ∧
      frame < device.frames ∧ frame ∈ device.pool.inUse ∧ frame ∉ device.pool.free) ∧
    ∀ otherNumber otherPage otherSpace, ((start machine).after run).space? otherNumber = some otherSpace →
      Space.home? (PageTable.lookup otherSpace.table otherPage) = some (id, frame) →
        otherNumber = number ∧ otherPage = page := by
  have custody := custody_after built word run
  have named_in_host {number page : Nat} {space : Space StandardTable}
      (found : ((start machine).after run).space? number = some space)
      (named : Space.home? (PageTable.lookup space.table page) = some (id, frame)) :
      ((start machine).after run).homeOf (number, page) = some (id, frame) :=
    homeOf_eq_some_iff.mpr ⟨space, found, named⟩
  constructor
  · obtain ⟨device, at_id, held⟩ := custody.inUse _ _ (named_in_host found named)
    have pool := custody.sound.pools id device at_id
    exact ⟨device, at_id, pool.inUse_lt frame held, held, fun free => ((pool.mem_free_iff frame).mp free).2 held⟩
  · intro otherNumber otherPage otherSpace present same
    have shared := custody.unshared _ _ _ (named_in_host present same) (named_in_host found named)
    exact Prod.mk.inj shared

/-- Two pages were resolved on a machine of one frame, so the first one is swapped. -/
def crowdedRun : List Operation :=
  [.add .onDemand (.flat 4), .call 0 (.resolve 0), .call 0 (.resolve 1)]

theorem named_home_held_once_of_crowded :
    ∃ machine space, MemoryConfig.cramped.build = .ok machine ∧
      ((start machine).after crowdedRun).space? 0 = some space ∧
      Space.home? (PageTable.lookup space.table 0) = some (.swap 0, 0) ∧
      (∃ device, ((start machine).after crowdedRun).machine.devices.get? (.swap 0) = some device ∧
        0 < device.frames ∧ 0 ∈ device.pool.inUse ∧ 0 ∉ device.pool.free) ∧
      ∀ otherNumber otherPage otherSpace,
        ((start machine).after crowdedRun).space? otherNumber = some otherSpace →
          Space.home? (PageTable.lookup otherSpace.table otherPage) = some (.swap 0, 0) →
            otherNumber = 0 ∧ otherPage = 0 :=
  ⟨_, _, rfl, rfl, rfl, named_home_held_once (show MemoryConfig.cramped.build = .ok _ from rfl) (by decide)
    crowdedRun rfl rfl⟩

end DemandPaging.Host
