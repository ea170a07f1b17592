import DemandPaging.Proofs.Disciplined
import DemandPaging.Syscall

/-! # Running out of memory

An access to a live region needs a frame for its page, and a frame may need a slot for the page that has
to leave. On a tidy stage nothing else can be missing: the table has the page, and the oldest page of the
queue is resident. So an access fails for want of a frame, a victim or a slot, and a program hears that
memory has run out. There is one exception. A machine without any swap device is a machine without a slot,
but a fault on it asks for the device first and hears that it does not exist, which is told as a failure
of a device.
-/

namespace DemandPaging

/-- A program is told that memory has run out. -/
structure MemoryError.Exhausts (reason : MemoryError) : Prop where
  kind : reason.kind = .resourceExhausted
  status : (SyscallError.memory reason).status = -3000

theorem MemoryError.Exhausts.of_kind {reason : MemoryError} (kind : reason.kind = .resourceExhausted) :
    reason.Exhausts where
  kind := kind
  status := if_pos kind

section Stages

variable {T : Type} [PageTable T] {stage after : Stage T} {page : Nat} {reason : MemoryError}

/-- Only a missing device is told as something else. -/
theorem DeviceSet.exhausts_of_shortage? {devices : DeviceSet} {slots : Nat}
    (short : devices.shortage? slots = some reason) : reason.Exhausts ∨
      devices.get? (.swap devices.active) = none ∧ reason = .device (.noSuchSwapDevice devices.active) := by
  unfold shortage? at short
  split at short
  · next missing => exact .inr ⟨missing, (Option.some.inj short).symm⟩
  · split at short
    · obtain rfl := Option.some.inj short
      exact .inl (.of_kind rfl)
    · contradiction

/-- What declines a fault on a page of the table is want of memory, or there is no device to evict to. -/
theorem Space.Declined.exhausts (declined : Declined stage page reason after) (tidy : stage.Tidy)
    (fits : page < stage.memory.capacity) : reason.Exhausts ∨
      stage.devices.get? (.swap stage.devices.active) = none ∧
        reason = .device (.noSuchSwapDevice stage.devices.active) := by
  cases declined with
  | outOfRange beyond => exact absurd beyond (Nat.not_le.mpr fits)
  | noRoom _ _ _ refused =>
    obtain ⟨starved, -⟩ := refused.starved_of_queued tidy.queued
    cases starved with
    | noVictim idle => exact .inl (.of_kind rfl)
    | noSlot _ short => exact DeviceSet.exhausts_of_shortage? short

end Stages

namespace Host

section Steering

/-- Swap devices of these sizes are configured, and the active one is among them or the first of none. -/
structure Steered (sizes : List Nat) (host : Host StandardTable) : Prop where
  configured : host.machine.devices.layout.swapSizes = sizes
  active : host.machine.devices.active < max 1 sizes.length

variable {sizes : List Nat} {host : Host StandardTable}

theorem Steered.length (steered : host.Steered sizes) : host.machine.devices.swaps.length = sizes.length := by
  rw [← steered.configured]
  exact (List.length_map Device.size).symm

theorem Steered.step (steered : host.Steered sizes) (custody : host.Custody) (operation : Operation) :
    (host.step operation).Steered sizes := by
  obtain ⟨active, layout, chosen⟩ := custody.layout_step operation
  have same : (host.step operation).machine.devices.active = active := congrArg DeviceSet.Layout.active layout
  have length := steered.length
  have before := steered.active
  constructor
  · rw [layout]
    exact steered.configured
  · omega

/-- The active device is missing only where there are none. -/
theorem Steered.eq_nil_of_missing (steered : host.Steered sizes)
    (missing : host.machine.devices.get? (.swap host.machine.devices.active) = none) :
    sizes = [] ∧ host.machine.devices.active = 0 := by
  have beyond := List.getElem?_eq_none_iff.mp missing
  have length := steered.length
  have active := steered.active
  have none : sizes.length = 0 := by omega
  constructor
  · exact List.length_eq_zero_iff.mp none
  · omega

variable {config : MemoryConfig} {machine : Machine}

theorem steered_start (built : config.build = .ok machine) : (start machine).Steered config.swapSizes where
  configured := by
    show machine.devices.swaps.map Device.size = config.swapSizes
    rw [(MemoryConfig.devices_of_build built).2.2]
    exact List.map_map.trans (List.map_id config.swapSizes)
  active := by
    show machine.devices.active < _
    rw [(MemoryConfig.devices_of_build built).2.2]
    show 0 < max 1 _
    omega

theorem steered_after (built : config.build = .ok machine) (word : config.ramSize < Word.limit) {run : List Operation}
    (disciplined : (start machine).Disciplined run) :
    ((start machine).after run).Tidy ∧ ((start machine).after run).Steered config.swapSizes := by
  apply disciplined_induction (motive := fun _ host => host.Tidy ∧ host.Steered config.swapSizes) _ _ disciplined
  · exact ⟨tidy_start built word, steered_start built⟩
  · intro run operation held inside
    rw [after_concat]
    exact ⟨held.1.step inside, held.2.step held.1.custody operation⟩

end Steering

/-- An access was made, memory has run out, or there is no swap device at all. -/
inductive Served (sizes : List Nat) (expected : Answer → Prop) : Option (Except MemoryError Answer) → Prop where
  | made {answer : Answer} (good : expected answer) : Served sizes expected (some (.ok answer))
  | exhausted {reason : MemoryError} (exhausts : reason.Exhausts) : Served sizes expected (some (.error reason))
  | unswapped (none : sizes = []) : Served sizes expected (some (.error (.device (.noSuchSwapDevice 0))))

theorem served_of_ends {host : Host StandardTable} {sizes : List Nat} (tidy : host.Tidy)
    (steered : host.Steered sizes) {number : Nat} {space : Space StandardTable}
    (found : host.space? number = some space) {page : Nat} (covered : space.Covers host.machine.devices.geometry page)
    {call : Call} {expected : Answer → Prop}
    (ends : Ends call.perform (fun answer _ => expected answer)
      (fun reason after => Space.Declined (host.stage space) page reason after) (host.stage space)) :
    Served sizes expected (host.answer? number call) := by
  have fits := (tidy.custody.laid number space found).lt_capacity covered
  rw [answer?, run_eq found]
  rcases onStage_of_ends ends with ⟨answer, after, ran, good⟩ | ⟨reason, after, ran, declined⟩
  · rw [ran]
    exact .made good
  · rw [ran]
    obtain exhausts | ⟨missing, rfl⟩ := declined.exhausts (tidy.spaces number space found) fits
    · exact .exhausted exhausts
    · obtain ⟨none, first⟩ := steered.eq_nil_of_missing missing
      show Served sizes expected (some (.error (.device (.noSuchSwapDevice host.machine.devices.active))))
      rw [first]
      exact .unswapped none

/-- Every access to a byte of a live region is made or fails for want of memory, if there is a swap device. -/
theorem access_served {config : MemoryConfig} {machine : Machine} (built : config.build = .ok machine)
    (word : config.ramSize < Word.limit) {run : List Operation} (disciplined : (start machine).Disciplined run)
    {number : Nat} {space : Space StandardTable} (found : ((start machine).after run).space? number = some space)
    {id offset : Nat} {region : Region} (live : space.region? id = .ok region) (inside : offset < region.size) :
    Served config.swapSizes (fun answer => ∃ value, answer = .byte value)
        (((start machine).after run).answer? number (.readByte id offset)) ∧
      ∀ value, Served config.swapSizes (fun answer => answer = .done)
        (((start machine).after run).answer? number (.writeByte id offset value)) := by
  obtain ⟨tidy, steered⟩ := steered_after built word disciplined
  generalize (start machine).after run = host at found tidy steered
  have custody := tidy.custody.stage found
  have named : (host.stage space).space.address? id offset = some (region.start + offset) := by
    show space.address? id offset = _
    simp only [Space.address?, live, inside, if_true]
  have covered := (tidy.custody.laid number space found).covers_of_address named
  constructor
  · apply served_of_ends tidy steered found covered
    rw [Call.perform, ends_map]
    apply (Space.ends_readByte_of_named custody named).answers
    exact fun value _ _ => ⟨value, rfl⟩
  · intro value
    apply served_of_ends tidy steered found covered
    rw [Call.perform, ends_map]
    apply (Space.ends_writeByte_of_named custody named value).answers
    exact fun _ _ _ => rfl

/-- Three pages on a frame and two slots: the third one took the last slot. -/
def fullRun : List Operation :=
  [.add .onDemand (.flat 4), .call 0 (.allocate 0 0 768), .call 0 (.writeByte 0 0 7), .call 0 (.writeByte 0 256 8),
    .call 0 (.writeByte 0 512 9)]

theorem access_served_of_full :
    ∃ machine space, MemoryConfig.cramped.build = .ok machine ∧ (start machine).Disciplined fullRun ∧
      ((start machine).after fullRun).space? 0 = some space ∧ space.region? 0 = .ok ⟨0, 768⟩ ∧
      ((start machine).after fullRun).answer? 0 (.readByte 0 0) = some (.error (.swapExhausted 0)) ∧
      Served [512] (fun answer => ∃ value, answer = .byte value)
        (((start machine).after fullRun).answer? 0 (.readByte 0 0)) ∧
      ∀ value, Served [512] (fun answer => answer = .done)
        (((start machine).after fullRun).answer? 0 (.writeByte 0 0 value)) := by
  obtain ⟨machine, built, disciplined, live, answer⟩ :
      ∃ machine, MemoryConfig.cramped.build = .ok machine ∧ (start machine).Disciplined fullRun ∧
        (((start machine).after fullRun).space? 0).map (fun space => space.region? 0) = some (.ok ⟨0, 768⟩) ∧
        ((start machine).after fullRun).answer? 0 (.readByte 0 0) = some (.error (.swapExhausted 0)) :=
    ⟨_, rfl, by decide +kernel, by decide +kernel, by decide +kernel⟩
  obtain ⟨space, found, live⟩ := Option.map_eq_some_iff.mp live
  exact ⟨machine, space, built, disciplined, found, live, answer,
    access_served built (by decide) disciplined found live (by decide)⟩

end Host

/-- One frame of RAM and nowhere to evict to. -/
def MemoryConfig.unswapped : MemoryConfig := { ramSize := 256, swapSizes := [] }

/-- The first page has the only frame. -/
def Host.halfRun : List Operation :=
  [.add .onDemand (.flat 4), .call 0 (.allocate 0 0 512), .call 0 (.writeByte 0 0 7)]

/-- Without swap devices a program that needs a second frame is told of a device that failed. -/
theorem Host.access_failed_of_unswapped :
    ∃ machine space reason, MemoryConfig.unswapped.validate = .ok () ∧ MemoryConfig.unswapped.build = .ok machine ∧
      (start machine).Disciplined halfRun ∧ ((start machine).after halfRun).space? 0 = some space ∧
      space.region? 0 = .ok ⟨0, 512⟩ ∧
      ((start machine).after halfRun).answer? 0 (.readByte 0 256) = some (.error reason) ∧
      reason = .device (.noSuchSwapDevice 0) ∧ reason.kind = .ioFailure ∧ (SyscallError.memory reason).status = -1 ∧
      ¬ reason.Exhausts := by
  obtain ⟨machine, built, disciplined, live, answer⟩ :
      ∃ machine, MemoryConfig.unswapped.build = .ok machine ∧ (start machine).Disciplined halfRun ∧
        (((start machine).after halfRun).space? 0).map (fun space => space.region? 0) = some (.ok ⟨0, 512⟩) ∧
        ((start machine).after halfRun).answer? 0 (.readByte 0 256) =
          some (.error (.device (.noSuchSwapDevice 0))) :=
    ⟨_, rfl, by decide +kernel, by decide +kernel, by decide +kernel⟩
  obtain ⟨space, found, live⟩ := Option.map_eq_some_iff.mp live
  refine ⟨machine, space, _, by decide, built, disciplined, found, live, answer, rfl, rfl, by decide, ?_⟩
  intro exhausts
  exact absurd exhausts.kind (by decide)

end DemandPaging
