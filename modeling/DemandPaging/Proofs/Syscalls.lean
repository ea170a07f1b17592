import DemandPaging.Proofs.KernelCustody
import DemandPaging.Proofs.ReadBack

/-! # System calls change all or nothing

A system call that fails leaves its registers, the queues, every space and the devices as they were; only the log
grows. One that succeeds changes at most the memory of the first process with its id, and at most the third
register, where a read of RAM leaves its byte. What a region shows is the same before and after, whatever moved
between RAM and swap: a bulk operation on one space keeps the bytes of its areas, and the homes of the other
spaces are reserved for them. Only a write to RAM by its physical address can be seen through a region.
-/

namespace DemandPaging

/-- A space is the same but for how its queue is kept. -/
structure Space.Same {T : Type} (one other : Space T) : Prop extends one.SameOutline other where
  table : other.table = one.table
  resident : other.resident.toList = one.resident.toList

theorem Space.Same.refl {T : Type} (space : Space T) : space.Same space := ⟨.refl space, rfl, rfl⟩

namespace Space

variable {T : Type} [PageTable T] [TotalTable T] {stage : Stage T} {reserved : Set Home}

/-- A space keeps its regions and the bytes of its areas. -/
structure Discreet (before : Stage T) (reserved : Set Home) (after : Stage T) : Prop where
  regions : after.space.regions = before.space.regions
  effect : ∃ mapped, Effect before reserved none mapped after

theorem Discreet.of_keeps {after : Stage T} (custody : after.memory.Custody reserved)
    (keeps : stage.Keeps reserved ∅ after) (laid : stage.space.Laid stage.devices.geometry) :
    Discreet stage reserved after := ⟨keeps.outline.regions, [], .of_keeps custody keeps laid⟩

variable (custody : stage.memory.Custody reserved) (laid : stage.space.Laid stage.devices.geometry)
include custody laid

theorem discreet_installPattern (start pages : Nat) :
    Ends (installPattern start pages) (fun _ after => Discreet stage reserved after)
      (fun _ after => Unmoved stage after) stage := by
  cases range : stage.space.pageRange stage.devices.geometry start pages with
  | error reason =>
    refine (ends_installPattern_of_refused range).mono (fun _ _ never => never.elim) ?_
    rintro _ _ ⟨rfl, rfl⟩
    exact ⟨rfl, .refl _, rfl⟩
  | ok first =>
    refine (ends_installPattern_of_pageRange custody range).mono ?_ ?_
    · intro _ after stamped
      exact .of_keeps stamped.custody stamped.keeps laid
    · rintro reason after ⟨-, -, page, inside, beyond⟩
      exact absurd (laid.lt_capacity_of_pageRange range inside) (Nat.not_lt.mpr beyond)

theorem discreet_grow (id size : Nat) :
    Ends (grow id size) (fun _ after => Discreet stage reserved after) (fun _ after => Unmoved stage after) stage := by
  refine (ends_grow custody laid id size).mono ?_ fun _ _ rejected => rejected.toUnmoved
  rintro _ after ⟨area, shaped, -, -, -, regrown, regions⟩
  have extended := regrown.extended laid fun key live found => by
    rw [live?_eq_ok_iff, regions, ← live?_eq_ok_iff] at found
    exact .inl found
  exact ⟨regions, _, .of_extended extended⟩

theorem discreet_evictPages (start pages : Nat) :
    Ends (evictPages start pages) (fun _ after => Discreet stage reserved after)
      (fun _ after => Unmoved stage after) stage := by
  refine (ends_evictPages custody start pages).mono ?_ fun _ _ rejected => rejected.toUnmoved
  rintro _ after ⟨gone, evicted⟩
  exact .of_keeps evicted.custody evicted.keeps laid

end Space

namespace Kernel

variable {T : Type}

/-- Nothing changed but the log. -/
structure Unchanged (kernel next : Kernel T) : Prop where
  devices : next.devices = kernel.devices
  places : next.scheduler.places = kernel.scheduler.places
  memories : ∀ (number : Nat) (process : Process (Space T)), kernel.scheduler.processes[number]? = some process →
    ∃ again, next.scheduler.processes[number]? = some again ∧ process.memory.Same again.memory

/-- At most the memory of the first process with an id is another. -/
structure Confined (pid : Nat) (kernel next : Kernel T) : Prop where
  places : next.scheduler.places = kernel.scheduler.places
  memory : ∃ number process memory, kernel.scheduler.Place pid process number ∧
    next.scheduler.processes = kernel.scheduler.processes.set number { process with memory }

/-- The memory of a process on the devices of its kernel. -/
def memoryOf (kernel : Kernel T) (process : Process (Space T)) : Memory T := ⟨kernel.devices, process.memory.table⟩

/-- What a process reads through a region. -/
def read [PageTable T] (kernel : Kernel T) (process : Process (Space T)) (id offset : Nat) : Except MemoryError UInt8 :=
  (Host.onStage (Space.readByte id offset) { kernel.toMachine with space := process.memory }).1

/-- A process cannot tell two kernels apart by what it reads. -/
structure Legible [PageTable T] (kernel next : Kernel T) (process again : Process (Space T)) : Prop where
  address? : ∀ id offset, again.memory.address? id offset = process.memory.address? id offset
  byteAt : ∀ id offset address, process.memory.address? id offset = some address →
    (next.memoryOf again).byteAt address = (kernel.memoryOf process).byteAt address
  read : ∀ id offset value other, kernel.read process id offset = .ok value → next.read again id offset = .ok other →
    other = value

/-- No process can tell two kernels apart by what it reads. -/
def AllLegible [PageTable T] (kernel next : Kernel T) : Prop :=
  ∀ (number : Nat) (process : Process (Space T)), kernel.scheduler.processes[number]? = some process →
    ∃ again, next.scheduler.processes[number]? = some again ∧ kernel.Legible next process again

theorem Unchanged.of_scheduler {kernel next : Kernel T} (devices : next.devices = kernel.devices)
    (scheduler : next.scheduler = kernel.scheduler) : kernel.Unchanged next where
  devices := devices
  places := by rw [scheduler]
  memories number process found := ⟨process, by rw [scheduler, found], .refl _⟩

section Reading

variable {kernel next : Kernel StandardTable} {process again : Process (Space StandardTable)} {number : Nat}

theorem read_eq_ok (custody : kernel.Custody) (found : kernel.scheduler.processes[number]? = some process)
    {id offset : Nat} {value : UInt8} (read : kernel.read process id offset = .ok value) :
    ∃ address, process.memory.address? id offset = some address ∧
      value = (kernel.memoryOf process).byteAt address := by
  have ends := Space.ends_readByte ((custody_host custody).stage (space?_host found)) id offset
  unfold Kernel.read at read
  rcases Host.onStage_of_ends ends with ⟨_, after, ran, address, frame, named, same, -⟩ | ⟨_, _, ran, -⟩
  · have ran_here : Host.onStage (Space.readByte id offset) { kernel.toMachine with space := process.memory } = _ := ran
    rw [ran_here] at read
    obtain rfl := Except.ok.inj read
    exact ⟨address, named, same⟩
  · have ran_here : Host.onStage (Space.readByte id offset) { kernel.toMachine with space := process.memory } = _ := ran
    rw [ran_here] at read
    contradiction

theorem Legible.of_byteAt (custody : kernel.Custody) (kept : next.Custody)
    (found : kernel.scheduler.processes[number]? = some process)
    (present : next.scheduler.processes[number]? = some again)
    (address? : ∀ id offset, again.memory.address? id offset = process.memory.address? id offset)
    (byteAt : ∀ id offset address, process.memory.address? id offset = some address →
      (next.memoryOf again).byteAt address = (kernel.memoryOf process).byteAt address) :
    kernel.Legible next process again where
  address? := address?
  byteAt := byteAt
  read id offset value other first second := by
    obtain ⟨address, named, rfl⟩ := read_eq_ok custody found first
    obtain ⟨place, also, rfl⟩ := read_eq_ok kept present second
    obtain rfl := Option.some.inj (named.symm.trans ((address? id offset).symm.trans also))
    exact byteAt id offset address named

end Reading

section Calls

variable {α : Type} {kernel : Kernel StandardTable} {pid : Nat}

/-- A bulk operation on the memory of a process is seen by nobody, and changes nothing if it fails. -/
theorem ends_discreet (custody : kernel.Custody) {process : Process (Space StandardTable)}
    (found : kernel.scheduler.find? pid = some process) {operation : Paging StandardTable α}
    (discreet : ∀ (stage : Stage StandardTable) (reserved : Set Home), stage.memory.Custody reserved →
      stage.space.Laid stage.devices.geometry → Ends operation (fun _ after => Space.Discreet stage reserved after)
        (fun _ after => Space.Unmoved stage after) stage) :
    Ends (onProcess pid operation)
      (fun _ next => kernel.Confined pid next ∧ kernel.AllLegible next ∧ next.Custody)
      (fun _ next => kernel.Unchanged next ∧ next.Custody) kernel := by
  obtain ⟨number, place, replaced⟩ := Scheduler.place_of_find? found
  have at_number := space?_host place.found
  have held := (custody_host custody).stage at_number
  have laid := (custody_host custody).laid number process.memory at_number
  rw [ends_onProcess_of_found found]
  refine (discreet (kernel.host.stage process.memory) (kernel.host.elsewhere number) held laid).mono ?_ ?_
  · rintro _ stage ⟨regions, mapped, effect⟩
    have kept := custody.replaced place replaced effect
    refine ⟨⟨Scheduler.places_replace _ _ _, number, process, stage.space, place, replaced _⟩, ?_, kept⟩
    intro other kin present
    rcases Scheduler.getElem?_of_replaced place.found (replaced stage.space) present with
      ⟨rfl, rfl, again⟩ | ⟨away, again⟩
    · refine ⟨_, again, .of_byteAt custody kept present again ?_ ?_⟩
      · intro id offset
        exact Space.address?_congr regions id offset
      · intro id offset address named
        have covered := laid.covers_of_address named
        exact effect.byteAt address fun inside => effect.fresh _ inside covered
    · refine ⟨kin, again, .of_byteAt custody kept present again (fun _ _ => rfl) ?_⟩
      intro id offset address _
      exact (custody_host custody).byteAt_other (space?_host present) away effect.layout effect.reserved address
  · rintro _ stage unmoved
    have kept := custody.replaced place replaced (.of_unmoved held laid unmoved)
    refine ⟨⟨congrArg Memory.devices unmoved.memory, Scheduler.places_replace _ _ _, ?_⟩, kept⟩
    intro other kin present
    rcases Scheduler.getElem?_of_replaced place.found (replaced stage.space) present with
      ⟨rfl, rfl, again⟩ | ⟨away, again⟩
    · exact ⟨_, again, unmoved.outline, congrArg Memory.table unmoved.memory, unmoved.resident⟩
    · exact ⟨kin, again, .refl _⟩

/-- What is stored in RAM by its physical address is no matter of who is where. -/
theorem Confined.of_scheduler {next : Kernel StandardTable} {process : Process (Space StandardTable)}
    (found : kernel.scheduler.find? pid = some process) (scheduler : next.scheduler = kernel.scheduler) :
    kernel.Confined pid next := by
  obtain ⟨number, place, -⟩ := Scheduler.place_of_find? found
  refine ⟨by rw [scheduler], number, process, process.memory, place, ?_⟩
  obtain ⟨bound, same⟩ := List.getElem?_eq_some_iff.mp place.found
  rw [scheduler, ← same, List.set_getElem_self]

/-- How an operation of the memory-map call ends when it succeeds, with the third register afterwards. -/
structure Served (kernel : Kernel StandardTable) (operation : MemoryOperation) (pid : Nat) (registers : Registers)
    (a3 : Nat) (next : Kernel StandardTable) : Prop where
  confined : kernel.Confined pid next
  legible : operation ≠ .ioWrite → kernel.AllLegible next
  kept : operation ≠ .ioRead → a3 = registers.a3
  fetched : operation = .ioRead → registers.a2 < kernel.devices.ram.size ∧
    a3 = (kernel.devices.ram.byte registers.a2).toNat

/-- Only a read of RAM touches the third register. -/
theorem Served.of_confined {next : Kernel StandardTable} {operation : MemoryOperation} {registers : Registers}
    (other : operation ≠ .ioRead) (confined : kernel.Confined pid next)
    (legible : operation ≠ .ioWrite → kernel.AllLegible next) :
    kernel.Served operation pid registers registers.a3 next where
  confined := confined
  legible := legible
  kept _ := rfl
  fetched same := (other same).elim

theorem Custody.allLegible (custody : kernel.Custody) : kernel.AllLegible kernel := fun _ process found =>
  ⟨process, found, .of_byteAt custody custody found found (fun _ _ => rfl) fun _ _ _ _ => rfl⟩

theorem ends_readRam (custody : kernel.Custody) (address : Nat) :
    Ends (onMachine (Machine.read .ram address))
      (fun value next => next = kernel ∧ address < kernel.devices.ram.size ∧ value = kernel.devices.ram.byte address)
      (fun _ next => kernel.Unchanged next ∧ next.Custody) kernel := by
  rw [ends_onMachine]
  unfold Ends
  rw [Machine.read_ram]
  by_cases fits : address < kernel.devices.ram.size <;> simp only [fits, if_true, if_false]
  · exact ⟨trivial, trivial, trivial⟩
  · exact ⟨.of_scheduler rfl rfl, custody⟩

/-- A byte that is stored by its physical address moves no page. -/
theorem ends_store (custody : kernel.Custody) (id : DeviceId) (address : Nat) (value : UInt8) :
    Ends (onMachine (Machine.write id address value))
      (fun _ next => next.scheduler = kernel.scheduler ∧ next.Custody)
      (fun _ next => kernel.Unchanged next ∧ next.Custody) kernel := by
  rw [ends_onMachine]
  refine (Machine.ends_strike custody.sound address value).mono ?_ ?_
  · rintro _ machine ⟨home, bytes, stores⟩
    refine ⟨rfl, custody.of_machine stores.sound (congrArg DeviceSet.Layout.geometry stores.layout) ?_⟩
    intro process member page home named
    exact (stores.inUse home).mpr (custody.inUse member page home named)
  · rintro _ _ rfl
    exact ⟨.of_scheduler rfl rfl, custody⟩

theorem ends_memoryOperation (custody : kernel.Custody) {process : Process (Space StandardTable)}
    (found : kernel.scheduler.find? pid = some process) (operation : MemoryOperation) (registers : Registers) :
    Ends (memoryOperation operation pid registers)
      (fun a3 next => kernel.Served operation pid registers a3 next ∧ next.Custody)
      (fun _ next => kernel.Unchanged next ∧ next.Custody) kernel := by
  cases operation with
  | map =>
    simp only [memoryOperation, ends_bind]
    apply (ends_discreet custody found fun _ _ held laid => Space.discreet_installPattern held laid _ _).answers
    rintro _ next ⟨confined, legible, kept⟩
    exact ⟨.of_confined (by decide) confined fun _ => legible, kept⟩
  | inc =>
    simp only [memoryOperation, ends_bind]
    apply (ends_discreet custody found fun _ _ held laid => Space.discreet_grow held laid _ _).answers
    rintro _ next ⟨confined, legible, kept⟩
    exact ⟨.of_confined (by decide) confined fun _ => legible, kept⟩
  | swp =>
    simp only [memoryOperation, ends_bind]
    apply (ends_discreet custody found fun _ _ held laid => Space.discreet_evictPages held laid _ _).answers
    rintro _ next ⟨confined, legible, kept⟩
    exact ⟨.of_confined (by decide) confined fun _ => legible, kept⟩
  | ioRead =>
    simp only [memoryOperation, ends_bind]
    apply (ends_readRam custody registers.a2).answers
    rintro value _ ⟨rfl, fits, rfl⟩
    refine ⟨⟨.of_scheduler found rfl, fun _ => custody.allLegible, fun read => (read rfl).elim, fun _ => ?_⟩, custody⟩
    exact ⟨fits, rfl⟩
  | ioWrite =>
    have written : Ends
        (do onMachine (Machine.write .ram registers.a2 (UInt8.ofNat registers.a3)); return registers.a3)
        (fun a3 next => kernel.Served .ioWrite pid registers a3 next ∧ next.Custody)
        (fun _ next => kernel.Unchanged next ∧ next.Custody) kernel := by
      rw [ends_bind]
      apply (ends_store custody .ram registers.a2 (UInt8.ofNat registers.a3)).answers
      rintro _ next ⟨scheduler, kept⟩
      exact ⟨.of_confined (by decide) (.of_scheduler found scheduler) fun other => (other rfl).elim, kept⟩
    simp only [memoryOperation]
    split
    · exact ⟨.of_scheduler rfl rfl, custody⟩
    · exact written

/-- That a call is noted in the log is seen by no process. -/
theorem Served.of_emit (custody : kernel.Custody) {next : Kernel StandardTable} (kept : next.Custody) {event : Event}
    {operation : MemoryOperation} {registers : Registers} {a3 : Nat}
    (served : (kernel.emit event).Served operation pid registers a3 next) :
    kernel.Served operation pid registers a3 next where
  confined := ⟨served.confined.places, served.confined.memory⟩
  legible other number process found := by
    obtain ⟨again, present, legible⟩ := served.legible other number process found
    exact ⟨again, present, .of_byteAt custody kept found present legible.address? legible.byteAt⟩
  kept := served.kept
  fetched := served.fetched

/-- The memory-map call changes nothing if it fails. -/
theorem ends_memmap (custody : kernel.Custody) (pid : Nat) (registers : Registers) :
    Ends (memmap pid registers)
      (fun after next => after.a1 = registers.a1 ∧ after.a2 = registers.a2 ∧ next.Custody ∧
        ∃ operation, MemoryOperation.ofSelector? registers.a1 = some operation ∧
          kernel.Served operation pid registers after.a3 next)
      (fun _ next => kernel.Unchanged next ∧ next.Custody) kernel := by
  have same : kernel.Unchanged kernel ∧ kernel.Custody := ⟨.of_scheduler rfl rfl, custody⟩
  unfold memmap
  cases selected : MemoryOperation.ofSelector? registers.a1 with
  | none => exact same
  | some operation =>
    simp only [ends_bind, ends_get, ends_ite, ends_throw, ends_modify]
    refine ⟨fun _ => same, fun present => ?_⟩
    obtain ⟨process, found⟩ := Option.ne_none_iff_exists'.mp (mt Option.isNone_iff_eq_none.mpr present)
    have noted : (kernel.emit (.memoryCalled operation pid registers)).Custody := custody.of_perm (.refl _) rfl
    refine (ends_memoryOperation noted found operation registers).mono ?_ ?_
    · rintro a3 next ⟨served, kept⟩
      exact ⟨rfl, rfl, kept, operation, rfl, served.of_emit custody kept⟩
    · rintro _ next ⟨unchanged, kept⟩
      exact ⟨⟨unchanged.devices, unchanged.places, unchanged.memories⟩, kept⟩

/-- What a call by number leaves of its registers and of the kernel. -/
structure AllOrNothing (kernel : Kernel StandardTable) (pid : Nat) (registers : Registers) (status : Int)
    (after : Registers) (next : Kernel StandardTable) : Prop where
  failed : status ≠ 0 → after = registers ∧ kernel.Unchanged next
  served : status = 0 → after.a1 = registers.a1 ∧ after.a2 = registers.a2 ∧
    ∃ operation, MemoryOperation.ofSelector? registers.a1 = some operation ∧
      kernel.Served operation pid registers after.a3 next

/-- How a call by number ends by how its operation ends. -/
theorem syscall_of_ends {number : Nat} {registers : Registers} {ok : Registers → Kernel StandardTable → Prop}
    {fail : SyscallError → Kernel StandardTable → Prop}
    (ends : Ends (if number = Parameters.memmapNumber then memmap pid registers else throw (.unknownSyscall number))
      ok fail kernel) :
    (∃ after next, syscall pid number registers kernel = ((0, after), next) ∧ ok after next) ∨
      ∃ reason next, syscall pid number registers kernel =
        ((reason.status, registers), next.emit (.syscallFailed number pid reason)) ∧ fail reason next := by
  unfold Ends at ends
  simp only [syscall, outcome, bind, StateT.bind]
  generalize (if number = Parameters.memmapNumber then memmap pid registers
    else throw (SyscallError.unknownSyscall number)) kernel = result at ends
  cases result with
  | ok after next => exact .inl ⟨after, next, rfl, ends⟩
  | error reason next => exact .inr ⟨reason, next, rfl, ends⟩

/-- A call by number changes all or nothing, and keeps custody. -/
theorem syscall_of_custody (custody : kernel.Custody) (pid number : Nat) (registers : Registers) :
    kernel.AllOrNothing pid registers (syscall pid number registers kernel).1.1
        (syscall pid number registers kernel).1.2 (syscall pid number registers kernel).2 ∧
      (syscall pid number registers kernel).2.Custody := by
  have ends : Ends
      (if number = Parameters.memmapNumber then memmap pid registers else throw (.unknownSyscall number))
      (fun after next => after.a1 = registers.a1 ∧ after.a2 = registers.a2 ∧ next.Custody ∧
        ∃ operation, MemoryOperation.ofSelector? registers.a1 = some operation ∧
          kernel.Served operation pid registers after.a3 next)
      (fun _ next => kernel.Unchanged next ∧ next.Custody) kernel := by
    rw [ends_ite]
    exact ⟨fun _ => ends_memmap custody pid registers, fun _ => ⟨.of_scheduler rfl rfl, custody⟩⟩
  rcases syscall_of_ends ends with ⟨after, next, called, a1, a2, kept, served⟩ | ⟨reason, next, called, unchanged, kept⟩
  · rw [called]
    exact ⟨⟨fun failed => (failed rfl).elim, fun _ => ⟨a1, a2, served⟩⟩, kept⟩
  · rw [called]
    refine ⟨⟨fun _ => ⟨rfl, unchanged.devices, unchanged.places, unchanged.memories⟩, fun zero => ?_⟩,
      kept.of_perm (.refl _) rfl⟩
    obtain ⟨_, never⟩ := (statusOf_eq_zero_iff (.error reason : Except SyscallError Registers)).mp zero
    contradiction

end Calls

end Kernel

end DemandPaging
