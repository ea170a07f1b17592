import DemandPaging.Call
import DemandPaging.Process.Scheduler
import DemandPaging.Syscall

/-! # Kernel

The kernel is a machine with a scheduler whose processes own the spaces that share it. An operation
on the memory of a process works on the first process found under its id. A process that leaves the
scheduler gives back its memory at once. A memory-map call that fails leaves its registers alone; one
that succeeds changes at most the third.
-/

namespace DemandPaging

open Text

structure Kernel (T : Type) extends Machine where
  scheduler : Scheduler (Space T) := {}

abbrev KernelAction (T : Type) := EStateM SyscallError (Kernel T)

namespace Event

def processEnrolled (pid priority : Nat) : Event :=
  ⟨.debug, .scheduler, s!"admit {pidTag pid} (priority {priority})"⟩

def processBucketed (pid bucket : Nat) : Event :=
  ⟨.debug, .scheduler, s!"admit {pidTag pid} to priority bucket {bucket}"⟩

def syscallFailed (number pid : Nat) (reason : SyscallError) : Event :=
  ⟨.warn, .kernel, s!"syscall {number} from {pidTag pid} failed: {reason.message}"⟩

def memoryCalled (operation : MemoryOperation) (pid : Nat) (registers : Registers) : Event where
  severity := .debug
  source := .kernel
  message := s!"memmap {operation.title} for {pidTag pid}: a2={Hexadecimal.short registers.a2} " ++
    s!"a3={Hexadecimal.short registers.a3}"

end Event

/-- How a process is described. -/
def Process.description {σ : Type} (process : Process σ) : String :=
  openRecord "Process" [("pid", pidTag process.pid), ("priority", toString process.priority)]

namespace Kernel

variable {T : Type}

def emit (event : Event) (kernel : Kernel T) : Kernel T :=
  { kernel with log := event :: kernel.log }

/-- The outcome of an action, which as a whole never fails. -/
def outcome {α : Type} (action : KernelAction T α) : StateM (Kernel T) (Except SyscallError α) :=
  fun kernel =>
    match action kernel with
    | .ok answer kernel => (.ok answer, kernel)
    | .error reason kernel => (.error reason, kernel)

/-- Runs an operation on the memory of the process found under an id. -/
def onProcess {α : Type} (pid : Nat) (operation : Paging T α) : KernelAction T α := fun kernel =>
  match kernel.scheduler.find? pid with
  | none => .error (.unknownProcess pid) kernel
  | some process =>
    match operation { kernel.toMachine with space := process.memory } with
    | .ok answer stage =>
      .ok answer ⟨stage.toMachine, kernel.scheduler.replace pid stage.space⟩
    | .error reason stage =>
      .error (.memory reason) ⟨stage.toMachine, kernel.scheduler.replace pid stage.space⟩

/-- Runs an action on the machine. -/
def onMachine {α : Type} (action : DeviceAction α) : KernelAction T α := fun kernel =>
  match action kernel.toMachine with
  | .ok answer machine => .ok answer { kernel with toMachine := machine }
  | .error reason machine => .error (.memory (.device reason)) { kernel with toMachine := machine }

/-- Puts a new process on the ready queue. -/
def enroll (process : Process (Space T)) (kernel : Kernel T) : Kernel T :=
  { kernel.emit (.processEnrolled process.pid process.priority) with
    scheduler := kernel.scheduler.enroll process }

/-- Puts a new process into the bucket of its priority. -/
def enrollByPriority (process : Process (Space T)) (kernel : Kernel T) : Kernel T :=
  { kernel.emit (.processBucketed process.pid (kernel.scheduler.bucketOf process.priority)) with
    scheduler := kernel.scheduler.enrollByPriority process }

/-- Moves a process to the running queue. -/
def start (pid : Nat) : StateM (Kernel T) (Option (Process (Space T))) := fun kernel =>
  match kernel.scheduler.start? pid with
  | none => (none, kernel)
  | some (process, scheduler) => (some process, { kernel with scheduler })

/-- The machine after a process gave back its memory. -/
def reclaim [PageTable T] (process : Process (Space T)) (machine : Machine) : Machine :=
  match Space.teardown { machine with space := process.memory } with
  | .ok () stage => stage.toMachine
  | .error _ stage => stage.toMachine

/-- Takes a process off the running queue and gives back its memory. -/
def finish [PageTable T] (pid : Nat) : StateM (Kernel T) (Option (Process (Space T))) := fun kernel =>
  match kernel.scheduler.finish? pid with
  | none => (none, kernel)
  | some (process, scheduler) => (some process, ⟨reclaim process kernel.toMachine, scheduler⟩)

/-- The machine after every process gave back its memory, in the order of the queues. -/
def shutdown [PageTable T] (kernel : Kernel T) : Machine :=
  kernel.scheduler.processes.foldl (fun machine process => reclaim process machine) kernel.toMachine

/-- Performs one operation of the memory-map call and gives the third register afterwards. -/
def memoryOperation [PageTable T] (operation : MemoryOperation) (pid : Nat) (registers : Registers) :
    KernelAction T Nat := do
  match operation with
  | .map =>
    let _ ← onProcess pid (Space.installPattern registers.a2 registers.a3)
    return registers.a3
  | .inc =>
    let _ ← onProcess pid (Space.grow registers.a2 registers.a3)
    return registers.a3
  | .swp =>
    let _ ← onProcess pid (Space.evictPages registers.a2 registers.a3)
    return registers.a3
  | .ioRead =>
    return (← onMachine (Machine.read .ram registers.a2)).toNat
  | .ioWrite =>
    if 256 ≤ registers.a3 then throw (.invalidOperand registers.a3)
    onMachine (Machine.write .ram registers.a2 (UInt8.ofNat registers.a3))
    return registers.a3

/-- The memory-map call of a process, with its registers afterwards. -/
def memmap [PageTable T] (pid : Nat) (registers : Registers) : KernelAction T Registers := do
  match MemoryOperation.ofSelector? registers.a1 with
  | none => throw (.unknownOperation registers.a1)
  | some operation =>
    if ((← get).scheduler.find? pid).isNone then throw (.unknownProcess pid)
    modify (emit (.memoryCalled operation pid registers))
    let a3 ← memoryOperation operation pid registers
    return { registers with a3 }

/-- A call by number; gives the status and the registers afterwards. -/
def syscall [PageTable T] (pid number : Nat) (registers : Registers) :
    StateM (Kernel T) (Int × Registers) := do
  let answer ← outcome
    (if number = Parameters.memmapNumber then memmap pid registers
      else throw (.unknownSyscall number))
  match answer with
  | .ok registers => return (0, registers)
  | .error reason =>
    modify (emit (.syscallFailed number pid reason))
    return (reason.status, registers)

end Kernel

end DemandPaging
