import DemandPaging.Proofs.NoLeaks
import DemandPaging.Proofs.Syscalls

/-! # System calls in runs of a kernel

In a run, processes come, are started and go, call on their memory and make system calls in any order, while
bytes of the devices are stored by their physical addresses and frames are taken from them and given back from
outside. A frame may be given back only by who took it, so none in which a page of a process is kept is given
back from outside; of everything else a run may consist of, nothing is asked. Then the processes are in custody
at every point of a run, and so every system call changes all or nothing.
-/

namespace DemandPaging

/-- One step of a kernel and its surroundings. -/
inductive KernelOperation where
  | enroll (pid priority : Nat) (populate : Populate) (kind : TableKind)
  | enrollByPriority (pid priority : Nat) (populate : Populate) (kind : TableKind)
  | start (pid : Nat)
  | finish (pid : Nat)
  | syscall (pid number : Nat) (registers : Registers)
  | memmap (pid : Nat) (registers : Registers)
  /-- A call on the memory of the process found under an id. -/
  | call (pid : Nat) (call : Call)
  | activate (index : Nat)
  /-- A byte of a device is stored by its physical address. -/
  | strike (id : DeviceId) (address : Nat) (value : UInt8)
  /-- Frames are taken from a device or given back to it from outside. -/
  | frames (id : DeviceId) (request : FrameRequest)
deriving DecidableEq, Repr, Inhabited

theorem Kernel.reclaim_eq {T : Type} [PageTable T] {process : Process (Space T)} {machine : Machine}
    {outcome : Except MemoryError Unit} {after : Stage T}
    (ran : Host.onStage Space.teardown { machine with space := process.memory } = (outcome, after)) :
    reclaim process machine = after.toMachine := by
  unfold Host.onStage at ran
  unfold reclaim
  cases left : Space.teardown { machine with space := process.memory } with
  | ok _ stage =>
    rw [left] at ran
    obtain ⟨-, rfl⟩ := Prod.mk.inj ran
    rfl
  | error _ stage =>
    rw [left] at ran
    obtain ⟨-, rfl⟩ := Prod.mk.inj ran
    rfl

namespace Machine.Lodges

variable {machine : Machine} {spaces : List (Space StandardTable)}

/-- A process that gives back its memory leaves the others what they name. -/
theorem reclaim {process : Process (Space StandardTable)} (lodges : machine.Lodges (process.memory :: spaces)) :
    (Kernel.reclaim process machine).Lodges spaces := by
  have custody := Host.custody_iff_lodges.mpr lodges
  have found : (⟨machine, (process.memory :: spaces).map some⟩ : Host StandardTable).space? 0 = some process.memory :=
    rfl
  have ends := Space.ends_teardown (custody.stage found)
  rcases Host.onStage_of_ends ends with ⟨_, after, ran, left⟩ | ⟨_, _, _, never⟩
  · have held := left.custody
    rw [← Set.empty_union (Host.elsewhere _ _)] at held
    have laid := (custody.laid 0 process.memory found).of_outline left.keeps.outline left.keeps.memory.capacity
    rw [Kernel.reclaim_eq ran]
    exact (Host.custody_iff_lodges.mp (custody.put found held laid left.keeps.memory.layout)).tail
  · exact never.elim

end Machine.Lodges

namespace Kernel

/-- A kernel without processes. -/
def idle (machine : Machine) : Kernel StandardTable := { toMachine := machine }

def step (kernel : Kernel StandardTable) : KernelOperation → Kernel StandardTable
  | .enroll pid priority populate kind => kernel.enroll ⟨pid, priority, Space.ofTable populate kind.empty⟩
  | .enrollByPriority pid priority populate kind =>
    kernel.enrollByPriority ⟨pid, priority, Space.ofTable populate kind.empty⟩
  | .start pid => (start pid kernel).2
  | .finish pid => (finish pid kernel).2
  | .syscall pid number registers => (syscall pid number registers kernel).2
  | .memmap pid registers => (outcome (memmap pid registers) kernel).2
  | .call pid call => (outcome (onProcess pid call.perform) kernel).2
  | .activate index => (outcome (onMachine (Machine.activate index)) kernel).2
  | .strike id address value => (outcome (onMachine (Machine.write id address value)) kernel).2
  | .frames id request => (outcome (onMachine (request.perform id)) kernel).2

/-- The kernel that a run leaves behind. -/
def after (kernel : Kernel StandardTable) (run : List KernelOperation) : Kernel StandardTable := run.foldl step kernel

/-- No frame is given back from outside that a page of a process names. -/
def Unowned (kernel : Kernel StandardTable) : KernelOperation → Prop
  | .frames id (.release frame) => ∀ process ∈ kernel.scheduler.processes, frame ∉ process.memory.framesOn id
  | _ => True

instance (kernel : Kernel StandardTable) : (operation : KernelOperation) → Decidable (kernel.Unowned operation)
  | .frames _ (.release _) => inferInstanceAs (Decidable (∀ process ∈ kernel.scheduler.processes, _))
  | .frames _ .acquire | .frames _ (.acquireMany _) | .enroll .. | .enrollByPriority .. | .start _ | .finish _
  | .syscall .. | .memmap .. | .call .. | .activate _ | .strike .. => .isTrue trivial

/-- A run in which no frame of a process is given back by another hand. -/
def Respectful (kernel : Kernel StandardTable) : List KernelOperation → Prop
  | [] => True
  | operation :: rest => kernel.Unowned operation ∧ (kernel.step operation).Respectful rest

instance decidableRespectful (kernel : Kernel StandardTable) :
    (run : List KernelOperation) → Decidable (kernel.Respectful run)
  | [] => .isTrue trivial
  | operation :: rest =>
    have := decidableRespectful (kernel.step operation) rest
    inferInstanceAs (Decidable (_ ∧ _))

theorem unowned_of_ne {kernel : Kernel StandardTable} {operation : KernelOperation}
    (kept : ∀ id frame, operation ≠ .frames id (.release frame)) : kernel.Unowned operation := by
  cases operation with
  | frames id request =>
    cases request with
    | release frame => exact absurd rfl (kept id frame)
    | acquire | acquireMany count => exact trivial
  | enroll | enrollByPriority | start | finish | syscall | memmap | call | activate | strike => exact trivial

/-- Nothing is asked of a run in which no frame is given back from outside. -/
theorem respectful_of_no_release {kernel : Kernel StandardTable} {run : List KernelOperation}
    (kept : ∀ id frame, KernelOperation.frames id (.release frame) ∉ run) : kernel.Respectful run := by
  induction run generalizing kernel with
  | nil => trivial
  | cons operation rest ih =>
    refine ⟨unowned_of_ne fun id frame same => kept id frame ?_, ih fun id frame member => kept id frame ?_⟩
    · exact same ▸ List.mem_cons_self
    · exact List.mem_cons_of_mem _ member

namespace Custody

variable {kernel : Kernel StandardTable} (custody : kernel.Custody)
include custody

theorem enrolled {next : Kernel StandardTable} {pid priority : Nat} {populate : Populate} {kind : TableKind}
    (perm : next.scheduler.processes.Perm
      (⟨pid, priority, Space.ofTable populate kind.empty⟩ :: kernel.scheduler.processes))
    (devices : next.devices = kernel.devices) : next.Custody := by
  have joined : kernel.toMachine.Lodges (Space.ofTable populate kind.empty :: kernel.scheduler.processes.map _) :=
    Machine.Lodges.cons custody (StandardTable.wellFormed_empty kind) (Host.laid_ofTable populate kind.empty _)
      (Host.home?_lookup_empty kind)
  have listed : Custody (T := StandardTable) { kernel with scheduler := next.scheduler } :=
    Machine.Lodges.perm joined (perm.map Process.memory)
  exact listed.of_perm (.refl _) devices

theorem started (pid : Nat) : (Kernel.start pid kernel).2.Custody := by
  unfold Kernel.start
  cases found : kernel.scheduler.start? pid with
  | none => exact custody
  | some pair => exact custody.of_perm (Scheduler.perm_start? found) rfl

theorem finished (pid : Nat) : (Kernel.finish pid kernel).2.Custody := by
  unfold Kernel.finish
  cases found : kernel.scheduler.finish? pid with
  | none => exact custody
  | some pair =>
    have first := Machine.Lodges.perm custody ((Scheduler.perm_finish? found).symm.map Process.memory)
    exact first.reclaim

theorem called (pid : Nat) (call : Call) : (outcome (onProcess pid call.perform) kernel).2.Custody := by
  apply outcome_of_ends
  cases found : kernel.scheduler.find? pid with
  | none =>
    rw [ends_onProcess_of_absent found]
    exact custody
  | some process =>
    obtain ⟨number, place, replaced⟩ := Scheduler.place_of_find? found
    have at_number := space?_host place.found
    have hosted := custody_host custody
    rw [ends_onProcess_of_found found]
    refine (call.ends_perform (hosted.stage at_number) (hosted.laid number process.memory at_number)).mono ?_ ?_
    · rintro _ stage ⟨mapped, effect⟩
      exact custody.replaced place replaced effect
    · rintro _ stage effect
      exact custody.replaced place replaced effect

theorem activated (index : Nat) : (outcome (onMachine (Machine.activate index)) kernel).2.Custody := by
  apply outcome_of_ends
  rw [ends_onMachine]
  refine (Host.ends_activate kernel.toMachine index).mono ?_ ?_
  · rintro _ machine ⟨-, devices⟩
    refine custody.of_machine ?_ (by rw [devices]) ?_
    · rw [devices]
      exact { custody.sound with }
    · rw [devices]
      exact fun process member => custody.inUse member
  · rintro _ _ rfl
    exact custody

theorem struck (id : DeviceId) (address : Nat) (value : UInt8) :
    (outcome (onMachine (Machine.write id address value)) kernel).2.Custody :=
  outcome_of_ends ((ends_store custody id address value).mono (fun _ _ stored => stored.2) fun _ _ failed => failed.2)

theorem requested (id : DeviceId) (request : FrameRequest) (unowned : kernel.Unowned (.frames id request)) :
    (outcome (onMachine (request.perform id)) kernel).2.Custody := by
  apply outcome_of_ends
  rw [ends_onMachine]
  refine (Machine.ends_request custody.sound request).mono ?_ ?_
  · rintro _ machine ⟨sound, layout, inUse⟩
    refine custody.of_machine sound (congrArg DeviceSet.Layout.geometry layout) ?_
    intro process member page home named
    rcases inUse home (custody.inUse member page home named) with kept | ⟨rfl, rfl⟩
    · exact kept
    · have formed := Machine.Lodges.formed custody process.memory (List.mem_map_of_mem member)
      exact (unowned process member ((Space.mem_framesOn_iff formed).mpr ⟨page, named⟩)).elim
  · rintro _ _ rfl
    exact custody

theorem step {operation : KernelOperation} (unowned : kernel.Unowned operation) : (kernel.step operation).Custody := by
  cases operation with
  | enroll pid priority populate kind => exact custody.enrolled (Scheduler.perm_enroll _ _) rfl
  | enrollByPriority pid priority populate kind =>
    rcases kernel.scheduler.perm_enrollByPriority ⟨pid, priority, Space.ofTable populate kind.empty⟩ with new | same
    · exact custody.enrolled new rfl
    · exact custody.of_perm (.of_eq same) rfl
  | start pid => exact custody.started pid
  | finish pid => exact custody.finished pid
  | syscall pid number registers => exact (syscall_of_custody custody pid number registers).2
  | memmap pid registers =>
    apply outcome_of_ends
    exact (ends_memmap custody pid registers).mono (fun _ _ done => done.2.2.1) fun _ _ failed => failed.2
  | call pid call => exact custody.called pid call
  | activate index => exact custody.activated index
  | strike id address value => exact custody.struck id address value
  | frames id request => exact custody.requested id request unowned

theorem after {run : List KernelOperation} (respectful : kernel.Respectful run) : (kernel.after run).Custody := by
  induction run generalizing kernel with
  | nil => exact custody
  | cons operation rest ih => exact ih (custody.step respectful.1) respectful.2

end Custody

theorem custody_idle {config : MemoryConfig} {machine : Machine} (built : config.build = .ok machine)
    (word : config.ramSize < Word.limit) : (idle machine).Custody :=
  Host.custody_iff_lodges.mp (Host.custody_start built word)

/-- In every state that a run can reach, a system call that fails changes nothing, and one that succeeds stays
inside its process. -/
theorem syscall_all_or_nothing {config : MemoryConfig} {machine : Machine} (built : config.build = .ok machine)
    (word : config.ramSize < Word.limit) {run : List KernelOperation} (respectful : (idle machine).Respectful run)
    (pid number : Nat) (registers : Registers) :
    ((idle machine).after run).AllOrNothing pid registers
      (syscall pid number registers ((idle machine).after run)).1.1
      (syscall pid number registers ((idle machine).after run)).1.2
      (syscall pid number registers ((idle machine).after run)).2 :=
  (syscall_of_custody ((custody_idle built word).after respectful) pid number registers).1

/-- Two pages take turns in the only frame, and the slot that is left is held from outside. -/
def beleagueredRun : List KernelOperation :=
  [.enroll 1 0 .onDemand (.flat 4), .enrollByPriority 2 3 .onDemand .radix, .start 2, .call 2 (.allocate 0 0 512),
    .call 2 (.writeByte 0 0 7), .call 2 (.writeByte 0 256 9), .frames (.swap 0) .acquire]

/-- There is no slot for the page in RAM until the one from outside is given back. -/
theorem syscall_all_or_nothing_of_beleaguered :
    ∃ machine, MemoryConfig.cramped.build = .ok machine ∧
      let full := (idle machine).after beleagueredRun
      let eased := (idle machine).after (beleagueredRun ++ [.frames (.swap 0) (.release 1)])
      let registers := Registers.ofOperation .swp 0 2
      let refused := syscall 2 Parameters.memmapNumber registers full
      let done := syscall 2 Parameters.memmapNumber registers eased
      refused.1 = (Parameters.statusNoMemory, registers) ∧ done.1 = (0, registers) ∧
        full.AllOrNothing 2 registers refused.1.1 refused.1.2 refused.2 ∧
        eased.AllOrNothing 2 registers done.1.1 done.1.2 done.2 := by
  refine ⟨_, rfl, by decide +kernel, by decide +kernel, ?_, ?_⟩
  · exact syscall_all_or_nothing (show MemoryConfig.cramped.build = .ok _ from rfl) (by decide)
      (show Respectful _ beleagueredRun by decide +kernel) 2 Parameters.memmapNumber (.ofOperation .swp 0 2)
  · exact syscall_all_or_nothing (show MemoryConfig.cramped.build = .ok _ from rfl) (by decide)
      (show Respectful _ (beleagueredRun ++ [.frames (.swap 0) (.release 1)]) by decide +kernel) 2
      Parameters.memmapNumber (.ofOperation .swp 0 2)

end Kernel

end DemandPaging
