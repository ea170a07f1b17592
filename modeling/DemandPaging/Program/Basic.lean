import DemandPaging.Text.Record

/-! # Programs

A program is a priority and a list of instructions. An instruction is an opcode with its operands; a
system call may leave out trailing operands, which are then zero.
-/

namespace DemandPaging

open Text

inductive Instruction where
  | calc
  | alloc (size region : Nat)
  | free (region : Nat)
  | read (region offset register : Nat)
  | write (value region offset : Nat)
  | syscall (number a1 a2 a3 : Nat)
deriving DecidableEq, Repr, Inhabited

/-- How an instruction is described. -/
def Instruction.description : Instruction → String
  | .calc => "Calc"
  | .alloc size region => record "Alloc" [("size", toString size), ("region", toString region)]
  | .free region => record "Free" [("region", toString region)]
  | .read region offset register =>
    record "Read"
      [("region", toString region), ("offset", toString offset), ("register", toString register)]
  | .write value region offset =>
    record "Write"
      [("value", toString value), ("region", toString region), ("offset", toString offset)]
  | .syscall number a1 a2 a3 =>
    record "Syscall"
      [("nr", toString number), ("a1", toString a1), ("a2", toString a2), ("a3", toString a3)]

structure Program where
  priority : Nat
  code : List Instruction
deriving DecidableEq, Repr, Inhabited

inductive Opcode where
  | calc | alloc | free | read | write | syscall
deriving DecidableEq, Repr, Inhabited

namespace Opcode

def all : List Opcode := [.calc, .alloc, .free, .read, .write, .syscall]

def name : Opcode → String
  | .calc => "calc"
  | .alloc => "alloc"
  | .free => "free"
  | .read => "read"
  | .write => "write"
  | .syscall => "syscall"

def ofName? (name : String) : Option Opcode :=
  all.find? fun opcode => opcode.name == name

/-- The least and the largest number of operands. -/
def operandRange : Opcode → Nat × Nat
  | .calc => (0, 0)
  | .alloc => (2, 2)
  | .free => (1, 1)
  | .read => (3, 3)
  | .write => (3, 3)
  | .syscall => (1, 4)

/-- The instruction with the given operands; a missing operand is zero. -/
def instruction (opcode : Opcode) (operands : List Nat) : Instruction :=
  let operand (index : Nat) := operands[index]?.getD 0
  match opcode with
  | .calc => .calc
  | .alloc => .alloc (operand 0) (operand 1)
  | .free => .free (operand 0)
  | .read => .read (operand 0) (operand 1) (operand 2)
  | .write => .write (operand 0) (operand 1) (operand 2)
  | .syscall => .syscall (operand 0) (operand 1) (operand 2) (operand 3)

end Opcode

namespace Instruction

def opcode : Instruction → Opcode
  | .calc => .calc
  | .alloc _ _ => .alloc
  | .free _ => .free
  | .read _ _ _ => .read
  | .write _ _ _ => .write
  | .syscall _ _ _ _ => .syscall

/-- All operands in the order in which they are written. -/
def operands : Instruction → List Nat
  | .calc => []
  | .alloc size region => [size, region]
  | .free region => [region]
  | .read region offset register => [region, offset, register]
  | .write value region offset => [value, region, offset]
  | .syscall number a1 a2 a3 => [number, a1, a2, a3]

theorem instruction_operands (instruction : Instruction) :
    instruction.opcode.instruction instruction.operands = instruction := by
  cases instruction <;> rfl

theorem length_operands (instruction : Instruction) :
    instruction.operands.length = instruction.opcode.operandRange.2 := by
  cases instruction <;> rfl

end Instruction

end DemandPaging
