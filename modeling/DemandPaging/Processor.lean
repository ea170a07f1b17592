import DemandPaging.Kernel
import DemandPaging.Program.Basic

/-! # Processor

A processor runs the program of one process. It has ten registers and the index of the next
instruction. Every instruction ends with a status, zero for success; a failure is reported and the
program goes on behind it. The start of an allocated region goes into the register of the region's
id, where there is one, and freeing the region clears it.
-/

namespace DemandPaging

open Text

structure Processor where
  registers : Vector Nat 10 := Vector.replicate 10 0
  /-- Index of the next instruction. -/
  next : Nat := 0
deriving DecidableEq, Repr, Inhabited

/-- The outcome of a complete run. -/
structure RunSummary where
  executed : Nat := 0
  failed : Nat := 0
deriving DecidableEq, Repr, Inhabited

/-- Counts an instruction with its status. -/
def RunSummary.count (summary : RunSummary) (status : Int) : RunSummary where
  executed := summary.executed + 1
  failed := summary.failed + if status = 0 then 0 else 1

namespace Event

def instructionFailed (pid : Nat) (instruction : Instruction) (index : Nat) (status : Int) : Event where
  severity := .warn
  source := .processor
  message := s!"{pidTag pid}: {instruction.description} at pc {index} failed with {status}"

def regionPlaced (pid region start size : Nat) : Event where
  severity := .info
  source := .processor
  message := s!"{pidTag pid}: region {region} at {Address.virtualTag start} ({size} bytes)"

def byteFetched (pid region offset : Nat) (value : UInt8) : Event where
  severity := .info
  source := .processor
  message := s!"{pidTag pid}: read region {region}[{offset}] = 0x{Hexadecimal.lower 2 value.toNat}"

end Event

namespace Processor

variable {T : Type} [PageTable T]

/-- Stores a value into a register, if there is such a register. -/
def set (processor : Processor) (index value : Nat) : Processor :=
  { processor with registers := processor.registers.setIfInBounds index value }

/-- Performs one instruction for a process and gives its status. -/
def perform (pid : Nat) (processor : Processor) :
    Instruction → StateM (Kernel T) (Int × Processor)
  | .calc => return (0, processor)
  | .alloc size region => do
    match ← Kernel.outcome (Kernel.onProcess pid (Space.allocate 0 region size)) with
    | .ok start =>
      modify (Kernel.emit (.regionPlaced pid region start size))
      return (0, processor.set region start)
    | .error reason => return (reason.status, processor)
  | .free region => do
    match ← Kernel.outcome (Kernel.onProcess pid (Space.release region)) with
    | .ok _ => return (0, processor.set region 0)
    | .error reason => return (reason.status, processor)
  | .read region offset register => do
    match ← Kernel.outcome (Kernel.onProcess pid (Space.readByte region offset)) with
    | .ok value =>
      modify (Kernel.emit (.byteFetched pid region offset value))
      if register < 10 then return (0, processor.set register value.toNat)
      else return (Parameters.statusFailure, processor)
    | .error reason => return (reason.status, processor)
  | .write value region offset => do
    match ← Kernel.outcome (Kernel.onProcess pid (Space.writeByte region offset (UInt8.ofNat value))) with
    | .ok () => return (0, processor)
    | .error reason => return (reason.status, processor)
  | .syscall number a1 a2 a3 => do
    let (status, _) ← Kernel.syscall pid number ⟨a1, a2, a3⟩
    return (status, processor)

/-- Performs the next instruction, which is known, and steps behind it. -/
def advance (pid : Nat) (processor : Processor) (instruction : Instruction) :
    StateM (Kernel T) (Int × Processor) := do
  let index := processor.next
  let (status, processor) ← perform pid { processor with next := index + 1 } instruction
  if status ≠ 0 then modify (Kernel.emit (.instructionFailed pid instruction index status))
  return (status, processor)

/-- Performs the next instruction, unless the program is exhausted. -/
def step? (pid : Nat) (processor : Processor) (program : Program) :
    StateM (Kernel T) (Option (Int × Processor)) :=
  match program.code[processor.next]? with
  | none => return none
  | some instruction => some <$> advance pid processor instruction

/-- Performs instructions in order. -/
def runAll (pid : Nat) : List Instruction → Processor × RunSummary →
    StateM (Kernel T) (Processor × RunSummary)
  | [], state => return state
  | instruction :: rest, (processor, summary) => do
    let (status, processor) ← advance pid processor instruction
    runAll pid rest (processor, summary.count status)

/-- Runs a program from the next instruction to its end. -/
def run (pid : Nat) (processor : Processor) (program : Program) :
    StateM (Kernel T) (Processor × RunSummary) :=
  runAll pid (program.code.drop processor.next) (processor, {})

end Processor

end DemandPaging
