import DemandPaging.Proofs.NoLeaks
import DemandPaging.Proofs.Solo

/-! # Enough memory

A space that has a machine to itself never runs out of room while it reserves fewer pages than the machine has
frames and slots. A fault can be declined only when RAM and the active swap device are both full, and each
frame and slot in use keeps a page of its own that lies in an area. So with one swap device every access
through a live region succeeds as long as a frame or slot is left over, whatever was evicted, whatever failed
and whatever was given back before. The spare one is needed: the page that comes in keeps its slot until the
victim has found another one.
-/

namespace DemandPaging

namespace Space

variable {T : Type}

/-- Pages that the areas of a space reserve together. -/
def reservedPages (space : Space T) (geometry : Geometry) : Nat :=
  (space.areas.map fun area => geometry.pageOf (Address.distance area.start area.stop)).sum

def pagesOfAreas (space : Space T) (geometry : Geometry) : List Nat :=
  space.areas.flatMap fun area => pagesBetween geometry area.start area.stop

theorem length_pagesOfAreas (space : Space T) (geometry : Geometry) :
    (space.pagesOfAreas geometry).length = space.reservedPages geometry := by
  rw [pagesOfAreas, List.length_flatMap, reservedPages]
  congr 1
  apply List.map_congr_left
  intro area _
  exact List.length_range'

theorem Laid.mem_pagesOfAreas [PageTable T] {space : Space T} {geometry : Geometry} (laid : space.Laid geometry)
    {page : Nat} (covered : space.Covers geometry page) : page ∈ space.pagesOfAreas geometry := by
  obtain ⟨area, member, bounds⟩ := covered
  have area_laid := laid.areas area member
  apply List.mem_flatMap.mpr
  exact ⟨area, member, (mem_pagesBetween area_laid.start_whole area_laid.stop_whole).mpr bounds⟩

end Space

section Stages

variable {T : Type} [PageTable T] {stage : Stage T}

/-- Two devices keep no more pages together than the areas reserve. -/
theorem Stage.Tidy.ncard_add_ncard_le (tidy : stage.Tidy) (laid : stage.space.Laid stage.devices.geometry)
    {one other : DeviceId} (distinct : one ≠ other) :
    {page | stage.memory.deviceOf page = some one}.ncard + {page | stage.memory.deviceOf page = some other}.ncard ≤
      stage.space.reservedPages stage.devices.geometry := by
  let pages := stage.space.pagesOfAreas stage.devices.geometry
  have inside (id : DeviceId) : {page | stage.memory.deviceOf page = some id} ⊆ ↑pages.toFinset := by
    intro page on
    have homed : stage.memory.homeOf page ≠ none := by
      intro blank
      rw [Set.mem_ofPred_eq, Memory.deviceOf, blank] at on
      contradiction
    rw [Finset.mem_coe, List.mem_toFinset]
    exact laid.mem_pagesOfAreas (tidy.covered page homed)
  have finite (id : DeviceId) := pages.toFinset.finite_toSet.subset (inside id)
  have apart : Disjoint {page | stage.memory.deviceOf page = some one}
      {page | stage.memory.deviceOf page = some other} := by
    rw [Set.disjoint_left]
    intro page here there
    exact distinct (Option.some.inj (here.symm.trans there))
  calc
    _ = ({page | stage.memory.deviceOf page = some one} ∪ {page | stage.memory.deviceOf page = some other}).ncard :=
      (Set.ncard_union_eq apart (finite one) (finite other)).symm
    _ ≤ (↑pages.toFinset : Set Nat).ncard :=
      Set.ncard_le_ncard (Set.union_subset (inside one) (inside other)) pages.toFinset.finite_toSet
    _ = pages.toFinset.card := Set.ncard_coe_finset _
    _ ≤ pages.length := pages.toFinset_card_le
    _ = _ := Space.length_pagesOfAreas _ _

variable [LawfulTable T]

/-- A device without free frames keeps a page in each of them. -/
theorem Memory.Custody.ncard_of_full {memory : Memory T} (custody : memory.Custody ∅) {id : DeviceId} {device : Device}
    (found : memory.devices.get? id = some device) (full : memory.devices.freeOf id = []) :
    {page | memory.deviceOf page = some id}.ncard = device.frames := by
  have counted := custody.length_freeOf_add found
  rwa [full, List.length_nil, Nat.zero_add] at counted

variable {reason : MemoryError} {after : Stage T} {page : Nat}

/-- When RAM is full, a page of it can be evicted. -/
theorem Stage.Tidy.resident_ne_nil (tidy : stage.Tidy) (custody : stage.memory.Custody ∅)
    (some_frame : 0 < stage.devices.ram.frames) (full : stage.devices.freeOf .ram = []) :
    stage.space.resident.toList ≠ [] := by
  intro idle
  have at_ram : stage.memory.devices.get? .ram = some stage.devices.ram := rfl
  have counted := custody.ncard_of_full at_ram full
  have kept : {page | stage.memory.deviceOf page = some .ram} = ∅ := by
    apply Set.eq_empty_iff_forall_notMem.mpr
    intro page on
    have listed := (tidy.listed page).mpr (Memory.resident_iff_deviceOf.mpr on)
    rw [idle] at listed
    contradiction
  rw [kept, Set.ncard_empty] at counted
  omega

/-- With a frame or slot to spare no fault on a page of an area is declined. -/
theorem Space.Declined.false_of_spare (declined : Declined stage page reason after) (tidy : stage.Tidy)
    (custody : stage.memory.Custody ∅) (laid : stage.space.Laid stage.devices.geometry)
    (covered : stage.space.Covers stage.devices.geometry page) (some_frame : 0 < stage.devices.ram.frames)
    {swap : Device} (found : stage.devices.get? (.swap stage.devices.active) = some swap)
    (spare : stage.space.reservedPages stage.devices.geometry < stage.devices.ram.frames + swap.frames) : False := by
  cases declined with
  | outOfRange beyond => exact Nat.not_lt.mpr beyond (laid.lt_capacity covered)
  | noRoom _ _ full refused =>
    have busy := tidy.resident_ne_nil custody some_frame full
    obtain ⟨starved, -⟩ := refused.starved_of_queued tidy.queued
    cases starved with
    | noVictim idle => exact busy idle
    | noSlot _ short =>
      have none_free : stage.devices.freeOf (.swap stage.devices.active) = [] := by
        simp only [DeviceSet.shortage?, found, Option.ite_none_right_eq_some] at short
        exact List.length_eq_zero_iff.mp (by omega)
      have at_ram : stage.memory.devices.get? .ram = some stage.devices.ram := rfl
      have on_ram := custody.ncard_of_full at_ram full
      have on_swap := custody.ncard_of_full found none_free
      have fit := tidy.ncard_add_ncard_le laid (DeviceId.noConfusion : DeviceId.ram ≠ .swap stage.devices.active)
      omega

end Stages

def Operation.adds : Operation → Bool
  | .add _ _ => true
  | .call _ _ | .drop _ | .activate _ => false

namespace Host

/-- A host with devices of one layout on which only the space of number zero can be. -/
structure Lone (layout : DeviceSet.Layout) (host : Host StandardTable) : Prop where
  tidy : host.Tidy
  named : host.Named
  layout : host.machine.devices.layout = layout
  only : ∀ number space, host.space? number = some space → number = 0

namespace Lone

variable {layout : DeviceSet.Layout} {host : Host StandardTable} {space : Space StandardTable} (lone : host.Lone layout)
include lone

/-- All that is in use is that of the one space. -/
theorem custody (found : host.space? 0 = some space) : (host.stage space).memory.Custody ∅ := by
  have none_elsewhere : host.elsewhere 0 = ∅ := by
    apply Set.eq_empty_iff_forall_notMem.mpr
    rintro home ⟨used, unnamed⟩
    obtain ⟨⟨number, page⟩, owned⟩ := lone.named home used
    obtain ⟨kept, present, -⟩ := homeOf_eq_some_iff.mp owned
    obtain rfl := lone.only number kept present
    exact unnamed page owned
  have custody := lone.tidy.custody.stage found
  rwa [none_elsewhere] at custody

/-- With one swap device the active one stays the same. -/
theorem layout_step (single : layout.swapSizes.length = 1) (first : layout.active = 0) (operation : Operation) :
    (host.step operation).machine.devices.layout = layout := by
  obtain ⟨active, stepped, chosen⟩ := lone.tidy.custody.layout_step operation
  have swaps : host.machine.devices.swaps.length = 1 := by
    rw [← single, ← lone.layout]
    exact (List.length_map Device.size).symm
  have zero : host.machine.devices.active = 0 := (congrArg DeviceSet.Layout.active lone.layout).trans first
  have same : active = host.machine.devices.active := by omega
  rw [stepped, same]
  exact lone.layout

theorem step (single : layout.swapSizes.length = 1) (first : layout.active = 0) {operation : Operation}
    (inside : host.InArea operation) (alone : operation.adds = false) : (host.step operation).Lone layout where
  tidy := lone.tidy.step inside
  named := lone.named.step lone.tidy operation
  layout := lone.layout_step single first operation
  only number space present := by
    cases lone.tidy.custody.origin present with
    | kept found _ => exact lone.only number space found
    | called found _ => exact lone.only number _ found
    | added _ => contradiction

end Lone

variable {config : MemoryConfig} {machine : Machine}

theorem lone_add (built : config.build = .ok machine) (word : config.ramSize < Word.limit) (populate : Populate)
    (kind : TableKind) : ((start machine).step (.add populate kind)).Lone machine.devices.layout where
  tidy := (tidy_start built word).step trivial
  named := by
    have unused : (start machine).Named := fun home held => (MemoryConfig.not_inUse_of_build built home held).elim
    exact unused.step (tidy_start built word) _
  layout := rfl
  only number space present := by
    cases (tidy_start built word).custody.origin present with
    | kept found _ =>
      rw [space?_start] at found
      contradiction
    | added new => exact new

theorem lone_after (built : config.build = .ok machine) (word : config.ramSize < Word.limit) {swap : Device}
    (single : machine.devices.swaps = [swap]) {populate : Populate} {kind : TableKind} {run : List Operation}
    (alone : ∀ operation ∈ run, operation.adds = false)
    (disciplined : (start machine).Disciplined (.add populate kind :: run)) :
    ((start machine).after (.add populate kind :: run)).Lone machine.devices.layout := by
  have one : machine.devices.layout.swapSizes.length = 1 := by
    show (machine.devices.swaps.map Device.size).length = 1
    rw [single]
    rfl
  have first : machine.devices.layout.active = 0 := by
    rw [(MemoryConfig.devices_of_build built).2.2]
    rfl
  refine disciplined_induction
    (motive := fun run host => (∀ operation ∈ run, operation.adds = false) → host.Lone machine.devices.layout)
    (fun _ => lone_add built word populate kind) ?_ disciplined.2 alone
  intro run operation lone inside alone
  rw [after_concat]
  rw [List.forall_mem_append] at alone
  exact (lone alone.1).step one first inside (alone.2 operation (List.mem_singleton_self operation))

/-- A fault on a page of an area is not declined while a frame or slot is to spare. -/
theorem Lone.not_declined_of_spare {host : Host StandardTable} (lone : host.Lone machine.devices.layout)
    (built : config.build = .ok machine) (word : config.ramSize < Word.limit) {swap : Device}
    (single : machine.devices.swaps = [swap]) {space : Space StandardTable} (found : host.space? 0 = some space)
    (spare : space.reservedPages machine.devices.geometry ≤ machine.devices.ram.frames + swap.frames - 1) {page : Nat}
    (covered : space.Covers host.machine.devices.geometry page) (reason : MemoryError) (after : Stage StandardTable) :
    ¬ Space.Declined (host.stage space) page reason after := by
  intro declined
  have fresh := MemoryConfig.sound_of_build built word
  have first : host.machine.devices.active = 0 := by
    have kept := congrArg DeviceSet.Layout.active lone.layout
    rw [(MemoryConfig.devices_of_build built).2.2] at kept
    exact kept
  have configured : machine.devices.get? (.swap host.machine.devices.active) = some swap := by
    rw [first, DeviceSet.get?, single]
    rfl
  have sound := lone.tidy.custody.sound
  have at_ram : machine.devices.get? .ram = some machine.devices.ram := rfl
  obtain ⟨ram, same, ram_frames⟩ := fresh.mirrored sound lone.layout at_ram
  obtain ⟨mirror, present, swap_frames⟩ := fresh.mirrored sound lone.layout configured
  obtain rfl := Option.some.inj same
  have some_frame := MemoryConfig.frames_pos_of_build built at_ram
  have geometry : host.machine.devices.geometry = machine.devices.geometry :=
    congrArg DeviceSet.Layout.geometry lone.layout
  apply declined.false_of_spare (lone.tidy.spaces 0 space found) (lone.custody found)
    (lone.tidy.custody.laid 0 space found) covered (ram_frames ▸ some_frame) present
  show space.reservedPages host.machine.devices.geometry < host.machine.devices.ram.frames + mirror.frames
  rw [geometry, ram_frames, swap_frames]
  omega

/-- With at most as many pages reserved as there are frames and slots less one, every byte of a live region can be
read and written. -/
theorem access_ok_of_spare (built : config.build = .ok machine) (word : config.ramSize < Word.limit) {swap : Device}
    (single : machine.devices.swaps = [swap]) {populate : Populate} {kind : TableKind} {run : List Operation}
    (alone : ∀ operation ∈ run, operation.adds = false)
    (disciplined : (start machine).Disciplined (.add populate kind :: run)) {space : Space StandardTable}
    (found : ((start machine).after (.add populate kind :: run)).space? 0 = some space)
    (spare : space.reservedPages machine.devices.geometry ≤ machine.devices.ram.frames + swap.frames - 1)
    {id offset : Nat} {region : Region} (live : space.region? id = .ok region) (inside : offset < region.size) :
    (∃ value, ((start machine).after (.add populate kind :: run)).answer? 0 (.readByte id offset) =
        some (.ok (.byte value))) ∧
      ∀ value, ((start machine).after (.add populate kind :: run)).answer? 0 (.writeByte id offset value) =
        some (.ok .done) := by
  have lone := lone_after built word single alone disciplined
  generalize (start machine).after (.add populate kind :: run) = host at found lone
  have custody := lone.custody found
  have named : (host.stage space).space.address? id offset = some (region.start + offset) := by
    show space.address? id offset = _
    simp only [Space.address?, live, inside, if_true]
  have covered := (lone.tidy.custody.laid 0 space found).covers_of_address named
  have never := lone.not_declined_of_spare built word single found spare covered
  constructor
  · have ends := Space.ends_readByte_of_named custody named
    have read : Ends (Call.perform (.readByte id offset)) (fun answer _ => ∃ value, answer = .byte value)
        (fun _ _ => False) (host.stage space) := by
      rw [Call.perform, ends_map]
      exact ends.mono (fun value _ _ => ⟨value, rfl⟩) fun reason after declined => never reason after declined
    rcases onStage_of_ends read with ⟨_, _, ran, value, rfl⟩ | ⟨_, _, _, failed⟩
    · exact ⟨value, by rw [answer?, run_eq found, ran]⟩
    · exact failed.elim
  · intro value
    have ends := Space.ends_writeByte_of_named custody named value
    have written : Ends (Call.perform (.writeByte id offset value)) (fun answer _ => answer = .done)
        (fun _ _ => False) (host.stage space) := by
      rw [Call.perform, ends_map]
      exact ends.mono (fun _ _ _ => rfl) fun reason after declined => never reason after declined
    rcases onStage_of_ends written with ⟨_, _, ran, rfl⟩ | ⟨_, _, _, failed⟩
    · rw [answer?, run_eq found, ran]
    · exact failed.elim

/-- Two pages take turns in the only frame, once both are in the two slots, and the calls in between that go too
far are refused. -/
def packedRun : List Operation :=
  [.call 0 (.allocate 0 0 512), .call 0 (.writeByte 0 0 7), .call 0 (.writeByte 0 256 9), .call 0 (.evictPages 0 2),
    .call 0 (.readByte 0 0), .call 0 (.evictPages 0 9), .call 0 (.grow 0 2048), .activate 3, .call 0 (.resolve 1)]

/-- Two pages are reserved then, one less than there are frames and slots. -/
private theorem space_after_packed : ∃ machine swap, MemoryConfig.cramped.build = .ok machine ∧
    machine.devices.swaps = [swap] ∧ machine.devices.ram.frames + swap.frames = 3 ∧
    (start machine).Disciplined (.add .onDemand (.flat 4) :: packedRun) ∧
    (((start machine).after (.add .onDemand (.flat 4) :: packedRun)).space? 0).map (fun space =>
      (space.reservedPages machine.devices.geometry, space.region? 0)) = some (2, .ok ⟨0, 512⟩) :=
  ⟨_, _, rfl, rfl, by decide +kernel, by decide +kernel, by decide +kernel⟩

theorem access_ok_of_packed :
    ∃ machine swap space, MemoryConfig.cramped.build = .ok machine ∧ machine.devices.swaps = [swap] ∧
      (start machine).Disciplined (.add .onDemand (.flat 4) :: packedRun) ∧
      ((start machine).after (.add .onDemand (.flat 4) :: packedRun)).space? 0 = some space ∧
      space.reservedPages machine.devices.geometry ≤ machine.devices.ram.frames + swap.frames - 1 ∧
      space.region? 0 = .ok ⟨0, 512⟩ ∧
      (∃ value, ((start machine).after (.add .onDemand (.flat 4) :: packedRun)).answer? 0 (.readByte 0 10) =
        some (.ok (.byte value))) ∧
      ∀ value, ((start machine).after (.add .onDemand (.flat 4) :: packedRun)).answer? 0 (.writeByte 0 10 value) =
        some (.ok .done) := by
  obtain ⟨machine, swap, built, single, frames, disciplined, ended⟩ := space_after_packed
  obtain ⟨space, found, same⟩ := Option.map_eq_some_iff.mp ended
  obtain ⟨reserved, live⟩ := Prod.mk.inj same
  have spare : space.reservedPages machine.devices.geometry ≤ machine.devices.ram.frames + swap.frames - 1 := by
    rw [reserved, frames]
  exact ⟨machine, swap, space, built, single, disciplined, found, spare, live,
    access_ok_of_spare built (by decide) single (by decide) disciplined found spare live (by decide)⟩

end Host

end DemandPaging
