import DemandPaging.MemoryError
import DemandPaging.Parameters

/-! # System calls

A call is a number and three registers. The one number in use is that of the memory-map family, whose
first register selects the operation. What a program hears is a status: zero for success, a status of
its own for running out of memory, and one for every other failure.
-/

namespace DemandPaging

open Text

/-- Operations of the memory-map call. -/
inductive MemoryOperation where
  /-- Stamps the poison pattern into a range. -/
  | map
  /-- Grows an area. -/
  | inc
  /-- Evicts a range. -/
  | swp
  /-- Reads a byte of RAM. -/
  | ioRead
  /-- Writes a byte of RAM. -/
  | ioWrite
deriving DecidableEq, Repr, Inhabited

namespace MemoryOperation

def all : List MemoryOperation := [.map, .inc, .swp, .ioRead, .ioWrite]

def selector : MemoryOperation → Nat
  | .map => 1
  | .inc => 2
  | .swp => 3
  | .ioRead => 4
  | .ioWrite => 5

def ofSelector? (selector : Nat) : Option MemoryOperation :=
  all.find? fun operation => operation.selector == selector

def title : MemoryOperation → String
  | .map => "Map"
  | .inc => "Inc"
  | .swp => "Swp"
  | .ioRead => "IoRead"
  | .ioWrite => "IoWrite"

theorem ofSelector?_selector (operation : MemoryOperation) :
    ofSelector? operation.selector = some operation := by
  cases operation <;> decide

end MemoryOperation

/-- The arguments of a call. -/
structure Registers where
  a1 : Nat
  a2 : Nat
  a3 : Nat
deriving DecidableEq, Repr, Inhabited

/-- The arguments that select an operation. -/
def Registers.ofOperation (operation : MemoryOperation) (a2 a3 : Nat) : Registers :=
  ⟨operation.selector, a2, a3⟩

inductive SyscallError where
  | unknownProcess (pid : Nat)
  | unknownSyscall (number : Nat)
  | unknownOperation (selector : Nat)
  | invalidOperand (value : Nat)
  | memory (reason : MemoryError)
deriving DecidableEq, Repr, Inhabited

namespace SyscallError

def message : SyscallError → String
  | .unknownProcess pid => s!"no process with pid {pid}"
  | .unknownSyscall number => s!"unknown syscall number {number}"
  | .unknownOperation selector => s!"unknown memory operation {selector}"
  | .invalidOperand value => s!"operand {Hexadecimal.short value} out of range"
  | .memory reason => reason.message

def status : SyscallError → Int
  | .memory reason =>
    if reason.kind = .resourceExhausted then Parameters.statusNoMemory else Parameters.statusFailure
  | _ => Parameters.statusFailure

end SyscallError

/-- The status of an outcome. -/
def statusOf {α : Type} : Except SyscallError α → Int
  | .ok _ => 0
  | .error reason => reason.status

theorem statusOf_eq_zero_iff {α : Type} (outcome : Except SyscallError α) :
    statusOf outcome = 0 ↔ ∃ answer, outcome = .ok answer := by
  cases outcome with
  | ok answer => simp [statusOf]
  | error reason =>
    simp only [statusOf, reduceCtorEq, exists_false, iff_false]
    cases reason with
    | memory reason =>
      simp only [SyscallError.status]
      split <;> decide
    | _ => simp only [SyscallError.status]; decide

/-- How a process is named in the log. -/
def pidTag (pid : Nat) : String := s!"PID({pid})"

end DemandPaging
