import DemandPaging.Kernel
import DemandPaging.Proofs.Peers

/-! # The running process

While one process runs, a kernel is a stage with the space of that process in front, put in a frame of what
waits behind it. An operation on the memory of the process is that operation on the stage, and so is an action
on the machine. So two kernels whose running processes are peers are called in lockstep: a call ends with the
same status on both sides, whatever waits behind either, and a call that writes no byte of RAM by its physical
address keeps them faithful.
-/

namespace DemandPaging

variable {T α β : Type}

/-- The id and the priority of the running process, and what waits behind it. -/
structure Seat (T : Type) where
  pid : Nat
  priority : Nat
  waiting : Scheduler (Space T)

namespace Seat

/-- The kernel that runs the space of a stage. -/
def kernel (seat : Seat T) (stage : Stage T) : Kernel T where
  toMachine := stage.toMachine
  scheduler :=
    { seat.waiting with running := [{ pid := seat.pid, priority := seat.priority, memory := stage.space }] }

variable (seat : Seat T) (stage : Stage T)

theorem find?_kernel : (seat.kernel stage).scheduler.find? seat.pid =
    some { pid := seat.pid, priority := seat.priority, memory := stage.space } := by
  simp [kernel, Scheduler.find?, Scheduler.queues, ProcessQueue.find?]

theorem replace_kernel (space : Space T) : (seat.kernel stage).scheduler.replace seat.pid space =
    (seat.kernel { stage with space }).scheduler := by
  simp [kernel, Scheduler.replace, ProcessQueue.replace?]

theorem emit_kernel (event : Event) :
    (seat.kernel stage).emit event = seat.kernel { stage with log := event :: stage.log } := rfl

theorem onProcess_kernel (operation : Paging T α) : Kernel.onProcess seat.pid operation (seat.kernel stage) =
    match operation stage with
    | .ok answer after => .ok answer (seat.kernel after)
    | .error reason after => .error (.memory reason) (seat.kernel after) := by
  simp only [Kernel.onProcess, find?_kernel, replace_kernel]
  show (match operation stage with | .ok answer after => _ | .error reason after => _) = _
  cases operation stage <;> rfl

theorem onMachine_kernel (action : DeviceAction α) : Kernel.onMachine action (seat.kernel stage) =
    match action stage.toMachine with
    | .ok answer machine => .ok answer (seat.kernel { stage with toMachine := machine })
    | .error reason machine =>
      .error (.memory (.device reason)) (seat.kernel { stage with toMachine := machine }) := rfl

end Seat

namespace Machine

theorem read_ram (machine : Machine) (address : Nat) : Machine.read .ram address machine =
    if address < machine.devices.ram.size then .ok (machine.devices.ram.byte address) machine
    else .error (.outOfBounds address machine.devices.ram.size) machine := by
  show settle (machine.devices.ram.read address) machine = _
  rw [Device.read_eq]
  split <;> rfl

/-- The devices after a byte of RAM was replaced. -/
def struckRam (devices : DeviceSet) (address : Nat) (value : UInt8) : DeviceSet :=
  let (frame, offset) := devices.ram.geometry.split address
  devices.set .ram { devices.ram with
    contents := devices.ram.contents.insert frame ((devices.ram.frameBytes frame).insert offset value) }

theorem write_ram (machine : Machine) (address : Nat) (value : UInt8) : Machine.write .ram address value machine =
    if address < machine.devices.ram.size then
      .ok () { machine with devices := struckRam machine.devices address value }
    else .error (.outOfBounds address machine.devices.ram.size) machine := by
  show (settle (machine.devices.ram.write address value) >>= Machine.putDevice .ram) machine = _
  rw [Device.write_eq]
  split <;> rfl

theorem stores_struckRam {devices : DeviceSet} (sound : devices.Sound) (address : Nat) (value : UInt8) :
    ∃ home bytes, devices.Stores home bytes (struckRam devices address value) :=
  ⟨_, _, DeviceSet.stores_of_insert sound (show devices.get? .ram = some devices.ram from rfl) _ _⟩

end Machine

variable [PageTable T]

/-- Kernels whose running processes are peers. -/
def Seated [LawfulTable T] (layout : DeviceSet.Layout) (faithful : Prop) (one other : Seat T)
    (kernel mirror : Kernel T) : Prop :=
  ∃ stage echo : Stage T, kernel = one.kernel stage ∧ mirror = other.kernel echo ∧ stage.Peers layout faithful echo

/-- Every failure on one side is the same failure on the other. -/
def seating [LawfulTable T] (layout : DeviceSet.Layout) (faithful : Prop) (one other : Seat T) :
    Relation SyscallError (Kernel T) (Kernel T) where
  states := Seated layout faithful one other
  excuse _ := False
  failures := Eq

/-- The log does not matter to peers. -/
theorem Stage.Peers.logged [LawfulTable T] {layout : DeviceSet.Layout} {faithful : Prop} {one other : Stage T}
    (peers : one.Peers layout faithful other) (log echo : List Event) :
    Stage.Peers layout faithful { one with log } { other with log := echo } where
  outline := peers.outline
  layout := peers.layout
  capacity := peers.capacity
  resident := peers.resident
  deviceOf := peers.deviceOf
  byteAt := peers.byteAt
  here := ⟨peers.here.layout, peers.here.custody, peers.here.laid,
    ⟨peers.here.tidy.nodup, peers.here.tidy.listed, peers.here.tidy.covered⟩, peers.here.based⟩
  there := ⟨peers.there.layout, peers.there.custody, peers.there.laid,
    ⟨peers.there.tidy.nodup, peers.there.tidy.listed, peers.there.tidy.covered⟩, peers.there.based⟩

/-- Either side may log what it likes. -/
theorem Seated.emit [LawfulTable T] {layout : DeviceSet.Layout} {faithful : Prop} {one other : Seat T}
    {kernel mirror : Kernel T} (seated : Seated layout faithful one other kernel mirror) (event mirrored : Event) :
    Seated layout faithful one other (kernel.emit event) (mirror.emit mirrored) := by
  obtain ⟨stage, echo, rfl, rfl, peers⟩ := seated
  exact ⟨_, _, one.emit_kernel stage event, other.emit_kernel echo mirrored, peers.logged _ _⟩

section Ram

variable [LawfulTable T] {layout : DeviceSet.Layout} {faithful : Prop} {one other : Stage T}

/-- New bytes in a frame do not matter to a space that has its machine for itself. -/
theorem Stage.Solo.stored (solo : one.Solo layout) {home : Home} {bytes : FrameBytes} {devices : DeviceSet}
    (stores : one.devices.Stores home bytes devices) : Stage.Solo layout { one with devices } where
  layout := stores.layout.trans solo.layout
  custody := solo.custody.of_accounts stores.sound rfl (solo.custody.accounts.stores stores)
  laid := by
    show one.space.Laid devices.geometry
    rw [show devices.geometry = one.devices.geometry from congrArg DeviceSet.Layout.geometry stores.layout]
    exact solo.laid
  tidy := solo.tidy.of_machine (congrArg DeviceSet.Layout.geometry stores.layout)
  based := solo.based

/-- New bytes end a match only if it is faithful. -/
theorem Stage.Peers.stored (peers : one.Peers layout faithful other) (unfaithful : ¬ faithful) {home place : Home}
    {bytes echo : FrameBytes} {devices mirror : DeviceSet} (stores : one.devices.Stores home bytes devices)
    (again : other.devices.Stores place echo mirror) :
    Stage.Peers layout faithful { one with devices } { other with devices := mirror } where
  outline := peers.outline
  layout := (again.layout.trans peers.layout).trans stores.layout.symm
  capacity := peers.capacity
  resident := peers.resident
  deviceOf := peers.deviceOf
  byteAt holds := (unfaithful holds).elim
  here := peers.here.stored stores
  there := peers.there.stored again

end Ram

namespace Kernel

variable [TotalTable T] {layout : DeviceSet.Layout} {faithful : Prop} {one other : Seat T}

theorem lockstep_onProcess {answers : α → β → Prop} {first : Paging T α} {second : Paging T β}
    (lockstep : Lockstep (peering (T := T) layout faithful) answers first second) :
    Lockstep (seating layout faithful one other) answers (onProcess one.pid first) (onProcess other.pid second) := by
  rintro _ _ ⟨stage, echo, rfl, rfl, peers⟩
  have paired := lockstep stage echo peers
  rw [Seat.onProcess_kernel, Seat.onProcess_kernel]
  generalize first stage = result at paired
  generalize second echo = reflection at paired
  cases paired with
  | answered ended => exact .answered ⟨ended.1, _, _, rfl, rfl, ended.2⟩
  | failed failed => exact .failed ⟨congrArg SyscallError.memory failed.1, _, _, rfl, rfl, failed.2⟩
  | excused never => exact never.elim
  | excusedOther never => exact never.elim

/-- Which addresses of RAM can be read is a matter of its size. -/
theorem lockstep_readRam (address : Nat) : Lockstep (seating (T := T) layout faithful one other) (fun _ _ => True)
    (onMachine (Machine.read .ram address)) (onMachine (Machine.read .ram address)) := by
  rintro _ _ ⟨stage, echo, rfl, rfl, peers⟩
  have size : echo.devices.ram.size = stage.devices.ram.size := congrArg DeviceSet.Layout.ramSize peers.layout
  rw [Seat.onMachine_kernel, Seat.onMachine_kernel, Machine.read_ram, Machine.read_ram, size]
  by_cases fits : address < stage.devices.ram.size <;> simp only [fits, if_true, if_false]
  · exact .answered ⟨trivial, _, _, rfl, rfl, peers⟩
  · exact .failed ⟨rfl, _, _, rfl, rfl, peers⟩

/-- Which addresses of RAM can be written is a matter of its size, but what is struck is not. -/
theorem lockstep_writeRam (unfaithful : ¬ faithful) (address : Nat) (value : UInt8) :
    Lockstep (seating (T := T) layout faithful one other) (fun _ _ => True)
      (onMachine (Machine.write .ram address value)) (onMachine (Machine.write .ram address value)) := by
  rintro _ _ ⟨stage, echo, rfl, rfl, peers⟩
  have size : echo.devices.ram.size = stage.devices.ram.size := congrArg DeviceSet.Layout.ramSize peers.layout
  obtain ⟨_, _, here⟩ := Machine.stores_struckRam peers.here.custody.sound address value
  obtain ⟨_, _, there⟩ := Machine.stores_struckRam peers.there.custody.sound address value
  rw [Seat.onMachine_kernel, Seat.onMachine_kernel, Machine.write_ram, Machine.write_ram, size]
  by_cases fits : address < stage.devices.ram.size <;> simp only [fits, if_true, if_false]
  · exact .answered ⟨trivial, _, _, rfl, rfl, peers.stored unfaithful here there⟩
  · exact .failed ⟨rfl, _, _, rfl, rfl, peers⟩

theorem lockstep_emit (event mirrored : Event) : Lockstep (seating (T := T) layout faithful one other) (fun _ _ => True)
    (modify (emit event)) (modify (emit mirrored)) :=
  .modify fun _ _ seated => seated.emit event mirrored

/-- A raw write is the only operation that a faithful match does not allow. -/
theorem lockstep_memoryOperation (operation : MemoryOperation) (registers : Registers)
    (struck : operation = .ioWrite → ¬ faithful) :
    Lockstep (seating (T := T) layout faithful one other) (fun _ _ => True)
      (memoryOperation operation one.pid registers) (memoryOperation operation other.pid registers) := by
  cases operation with
  | map => exact (lockstep_onProcess (Space.peering_installPattern _ _)).bind fun _ _ _ => .pure trivial
  | inc => exact (lockstep_onProcess (Space.peering_grow _ _)).bind fun _ _ _ => .pure trivial
  | swp => exact (lockstep_onProcess (Space.peering_evictPages _ _)).bind fun _ _ _ => .pure trivial
  | ioRead => exact (lockstep_readRam registers.a2).bind fun _ _ _ => .pure trivial
  | ioWrite =>
    have write : Lockstep (seating (T := T) layout faithful one other) (fun _ _ => True)
        (do onMachine (Machine.write .ram registers.a2 (UInt8.ofNat registers.a3)); return registers.a3)
        (do onMachine (Machine.write .ram registers.a2 (UInt8.ofNat registers.a3)); return registers.a3) :=
      (lockstep_writeRam (struck rfl) _ _).bind fun _ _ _ => .pure trivial
    simp only [memoryOperation]
    split
    · exact .throw_bind rfl
    · exact write

theorem lockstep_memmap (registers : Registers)
    (struck : MemoryOperation.ofSelector? registers.a1 = some .ioWrite → ¬ faithful) :
    Lockstep (seating (T := T) layout faithful one other) (fun _ _ => True) (memmap one.pid registers)
      (memmap other.pid registers) := by
  unfold memmap
  cases selected : MemoryOperation.ofSelector? registers.a1 with
  | none => exact .throw rfl
  | some operation =>
    refine .bind_get ?_
    rintro _ _ ⟨stage, echo, rfl, rfl, -⟩
    simp only [Seat.find?_kernel, Option.isNone_some, Bool.false_eq_true, if_false]
    refine (lockstep_emit _ _).bind fun _ _ _ => ?_
    exact (lockstep_memoryOperation operation registers fun same => struck (same ▸ selected)).bind fun _ _ _ =>
      .pure trivial

end Kernel

end DemandPaging
