import DemandPaging.Proofs.FrameLedger
import DemandPaging.Proofs.Processes

/-! # Custody over the processes of a kernel

The kernel is used from two sides. Processes work on memory that the kernel finds for them, and whoever holds
the devices stores bytes anywhere on them and takes and gives back frames. The processes are in custody while
what one of them names is in use and named by no other. An operation on the memory of a process keeps custody
as the same operation on a space of a host does, and an action on the machine keeps it unless it gives back
what a process names.
-/

namespace DemandPaging

namespace Machine

variable {machine : Machine} {id : DeviceId}

/-- Storing a byte changes bytes alone. -/
theorem ends_strike (sound : machine.devices.Sound) (address : Nat) (value : UInt8) :
    Ends (write id address value)
      (fun _ after => ∃ home bytes, machine.devices.Stores home bytes after.devices) (fun _ after => after = machine)
      machine := by
  cases got : machine.devices.get id with
  | error reason =>
    rw [write, ends_bind, ends_device_of_error got]
  | ok device =>
    have found := DeviceSet.get_eq_ok_iff.mp got
    rw [write, ends_bind, ends_device found, ends_bind, ends_settle]
    refine ⟨fun next stored => ?_, fun _ _ => rfl⟩
    rw [Device.write_eq] at stored
    split at stored
    · obtain rfl := Except.ok.inj stored
      exact ⟨_, _, DeviceSet.stores_of_insert sound found _ _⟩
    · contradiction

/-- A frame that is not in use cannot be given back. -/
theorem ends_release_of_unused {frame : Nat} (unused : ¬ machine.devices.InUse (id, frame)) :
    Ends (release id frame) (fun _ _ => False) (fun _ after => after = machine) machine := by
  cases got : machine.devices.get id with
  | error reason =>
    rw [release, ends_bind, ends_device_of_error got]
  | ok device =>
    have found := DeviceSet.get_eq_ok_iff.mp got
    rw [release, ends_bind, ends_device found, ends_bind, ends_settle]
    refine ⟨fun next given => unused ?_, fun _ _ => rfl⟩
    unfold Device.release at given
    cases done : device.pool.release frame with
    | ok pool => exact ⟨device, found, (FramePool.release_eq_ok done).2.2.2⟩
    | error reason =>
      rw [done] at given
      cases reason <;> contradiction

/-- A request for frames keeps what is in use, but for the frame that it gives back. -/
theorem ends_request (sound : machine.devices.Sound) (request : FrameRequest) :
    Ends (request.perform id)
      (fun _ after => after.devices.Sound ∧ after.devices.layout = machine.devices.layout ∧
        ∀ home, machine.devices.InUse home → after.devices.InUse home ∨ home.1 = id ∧ request = .release home.2)
      (fun _ after => after = machine) machine := by
  have taken {frames : List Nat} {devices : DeviceSet} (takes : machine.devices.Takes id frames devices) :
      devices.Sound ∧ devices.layout = machine.devices.layout ∧
        ∀ home, machine.devices.InUse home → devices.InUse home ∨ home.1 = id ∧ request = .release home.2 :=
    ⟨takes.sound, takes.layout, fun home used => .inl ((takes.inUse home).mpr (.inr used))⟩
  have same : machine.devices.Sound ∧ machine.devices.layout = machine.devices.layout ∧ ∀ home,
      machine.devices.InUse home → machine.devices.InUse home ∨ home.1 = id ∧ request = .release home.2 :=
    ⟨sound, rfl, fun _ used => .inl used⟩
  cases request with
  | acquire =>
    rw [FrameRequest.perform, ends_bind]
    cases got : machine.devices.get id with
    | error reason =>
      rw [acquire, ends_bind, ends_device_of_error got]
    | ok device =>
      apply (ends_acquire sound (DeviceSet.get_eq_ok_iff.mp got)).sure
      rintro _ after (⟨rfl, rfl, -⟩ | ⟨frame, rfl, takes⟩)
      · exact same
      · exact taken takes
  | acquireMany count =>
    rw [FrameRequest.perform, ends_bind]
    cases got : machine.devices.get id with
    | error reason =>
      rw [acquireMany, ends_bind, ends_device_of_error got]
    | ok device =>
      apply (ends_acquireMany sound (DeviceSet.get_eq_ok_iff.mp got) count).sure
      rintro _ after (⟨rfl, rfl, -⟩ | ⟨frames, rfl, -, takes⟩)
      · exact same
      · exact taken takes
  | release frame =>
    rw [FrameRequest.perform, ends_bind, ends_attempt]
    by_cases held : machine.devices.InUse (id, frame)
    · apply (ends_release sound held).sure
      intro _ after returns
      refine ⟨returns.sound, returns.layout, fun home used => ?_⟩
      by_cases given : home = (id, frame)
      · obtain rfl := given
        exact .inr ⟨rfl, rfl⟩
      · exact .inl ((returns.inUse home).mpr ⟨given, used⟩)
    · refine (ends_release_of_unused held).mono (fun _ _ never => never.elim) ?_
      rintro _ _ rfl
      exact same

end Machine

namespace Kernel

theorem outcome_of_ends {T α : Type} {action : KernelAction T α} {kernel : Kernel T} {kept : Kernel T → Prop}
    (ends : Ends action (fun _ next => kept next) (fun _ next => kept next) kernel) :
    kept (outcome action kernel).2 := by
  unfold outcome
  unfold Ends at ends
  cases ran : action kernel with
  | ok answer next =>
    rw [ran] at ends
    exact ends
  | error reason next =>
    rw [ran] at ends
    exact ends

section Rules

variable {T α : Type} {kernel : Kernel T} {ok : α → Kernel T → Prop} {fail : SyscallError → Kernel T → Prop}
  {pid : Nat}

theorem ends_onMachine (action : DeviceAction α) : Ends (onMachine action) ok fail kernel ↔
    Ends action (fun answer machine => ok answer { kernel with toMachine := machine })
      (fun reason machine => fail (.memory (.device reason)) { kernel with toMachine := machine })
      kernel.toMachine := by
  unfold Ends onMachine
  cases action kernel.toMachine <;> rfl

theorem ends_onProcess_of_found {process : Process (Space T)} (found : kernel.scheduler.find? pid = some process)
    (operation : Paging T α) : Ends (onProcess pid operation) ok fail kernel ↔
      Ends operation (fun answer stage => ok answer ⟨stage.toMachine, kernel.scheduler.replace pid stage.space⟩)
        (fun reason stage => fail (.memory reason) ⟨stage.toMachine, kernel.scheduler.replace pid stage.space⟩)
        { kernel.toMachine with space := process.memory } := by
  simp only [Ends, onProcess, found]
  cases operation { kernel.toMachine with space := process.memory } <;> rfl

theorem ends_onProcess_of_absent (absent : kernel.scheduler.find? pid = none) (operation : Paging T α) :
    Ends (onProcess pid operation) ok fail kernel ↔ fail (.unknownProcess pid) kernel := by
  unfold Ends onProcess
  rw [absent]

end Rules

/-- The processes as the spaces of a host, each with its place as its number. -/
def host {T : Type} (kernel : Kernel T) : Host T where
  machine := kernel.toMachine
  spaces := (kernel.scheduler.processes.map Process.memory).map some

/-- What the processes name is in use, and no home is named twice. -/
def Custody {T : Type} [PageTable T] [LawfulTable T] (kernel : Kernel T) : Prop :=
  kernel.toMachine.Lodges (kernel.scheduler.processes.map Process.memory)

variable {kernel : Kernel StandardTable} {pid number : Nat} {process : Process (Space StandardTable)}

theorem custody_host (custody : kernel.Custody) : kernel.host.Custody := Host.custody_iff_lodges.mpr custody

theorem space?_host {T : Type} {kernel : Kernel T} {process : Process (Space T)}
    (found : kernel.scheduler.processes[number]? = some process) : kernel.host.space? number = some process.memory := by
  rw [host, Host.space?_map_some, List.getElem?_map, found]
  rfl

/-- Replacing the memory of the first process with an id is putting a stage in its place. -/
theorem host_replace {T : Type} {kernel : Kernel T} {process : Process (Space T)} {pid number : Nat} (stage : Stage T)
    (replaced : ∀ memory, (kernel.scheduler.replace pid memory).processes =
      kernel.scheduler.processes.set number { process with memory }) :
    host ⟨stage.toMachine, kernel.scheduler.replace pid stage.space⟩ = kernel.host.put number stage := by
  rw [host, replaced, List.map_set, List.map_set]
  rfl

/-- The kernel after an action of a machine that keeps what the processes name. -/
theorem Custody.of_machine (custody : kernel.Custody) {machine : Machine} (sound : machine.devices.Sound)
    (geometry : machine.devices.geometry = kernel.devices.geometry)
    (inUse : ∀ process ∈ kernel.scheduler.processes, ∀ page home,
      Space.home? (PageTable.lookup process.memory.table page) = some home → machine.devices.InUse home) :
    Custody { kernel with toMachine := machine } := by
  apply Machine.Lodges.of_machine custody sound geometry
  intro space member
  obtain ⟨process, inside, rfl⟩ := List.mem_map.mp member
  exact inUse process inside

/-- Custody depends neither on the log nor on the order of the processes. -/
theorem Custody.of_perm (custody : kernel.Custody) {next : Kernel StandardTable}
    (perm : next.scheduler.processes.Perm kernel.scheduler.processes) (devices : next.devices = kernel.devices) :
    next.Custody := by
  apply Machine.Lodges.perm _ (perm.map Process.memory)
  apply Machine.Lodges.of_machine custody
  · rw [devices]
    exact custody.sound
  · rw [devices]
  · rw [devices]
    exact Machine.Lodges.inUse custody

theorem Custody.inUse (custody : kernel.Custody) {process : Process (Space StandardTable)}
    (member : process ∈ kernel.scheduler.processes) (page : Nat) (home : Home)
    (named : Space.home? (PageTable.lookup process.memory.table page) = some home) : kernel.devices.InUse home :=
  Machine.Lodges.inUse custody process.memory (List.mem_map_of_mem member) page home named

/-- An operation with an effect on the space of a process leaves the kernel in custody. -/
theorem Custody.replaced (custody : kernel.Custody) (place : kernel.scheduler.Place pid process number)
    (replaced : ∀ memory, (kernel.scheduler.replace pid memory).processes =
      kernel.scheduler.processes.set number { process with memory })
    {written : Option (Nat × UInt8)} {mapped : List Nat} {stage : Stage StandardTable}
    (effect : Effect (kernel.host.stage process.memory) (kernel.host.elsewhere number) written mapped stage) :
    Custody ⟨stage.toMachine, kernel.scheduler.replace pid stage.space⟩ := by
  apply Host.custody_iff_lodges.mp
  show (host ⟨stage.toMachine, kernel.scheduler.replace pid stage.space⟩).Custody
  rw [host_replace stage replaced]
  exact (custody_host custody).put (space?_host place.found) effect.custody effect.laid effect.layout

end Kernel

end DemandPaging
