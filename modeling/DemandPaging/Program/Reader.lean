import DemandPaging.Program.Basic
import DemandPaging.Text.Numeral
import DemandPaging.Text.Words
import DemandPaging.Word

/-! # Reading programs

A program is written one instruction to a line behind a header of two numbers, its priority and the
number of instructions. Lines that are blank or start with `#` do not count, but are numbered like
all others. Numbers are decimal, or hexadecimal behind `0x`. Reading stops at the first line that is
not well formed; that the instructions are as many as announced is checked last.
-/

namespace DemandPaging

open Text

/-- What is wrong with a line. -/
inductive LineFault where
  | badNumber (word : String) (reason : NumeralError)
  | priorityRange (word : String)
  | operandCount (opcode : Opcode) (got : Nat)
deriving DecidableEq, Repr, Inhabited

def LineFault.message : LineFault → String
  | .badNumber word reason => "`" ++ word ++ "`: " ++ reason.message
  | .priorityRange word => "priority `" ++ word ++ "` out of range"
  | .operandCount opcode got =>
    "`" ++ opcode.name ++ "` takes " ++
      s!"{opcode.operandRange.1}..={opcode.operandRange.2} operands, got {got}"

inductive LoadError where
  | unreadable (path reason : String)
  | missingHeader
  | malformed (line : Nat) (fault : LineFault)
  | unknownOpcode (line : Nat) (word : String)
  | countMismatch (expected found : Nat)
deriving DecidableEq, Repr, Inhabited

def LoadError.message : LoadError → String
  | .unreadable path reason => s!"cannot read {path}: {reason}"
  | .missingHeader => "missing `<priority> <count>` header"
  | .malformed line fault => s!"line {line}: {fault.message}"
  | .unknownOpcode line word => s!"line {line}: unknown opcode `" ++ word ++ "`"
  | .countMismatch expected found => s!"header announces {expected} instructions, found {found}"

namespace Program

/-- Priorities are below this limit. -/
def priorityLimit : Nat := 1 <<< 32

/-- Whether the words of a line are blank or a comment. -/
def isComment : List (List Char) → Bool
  | [] => true
  | ('#' :: _) :: _ => true
  | _ => false

/-- The words of the lines that count, with the numbers of the lines from one on. -/
def significantLines (text : List Char) : List (Nat × List (List Char)) :=
  ((lines text).zipIdx 1).filterMap fun (line, number) =>
    let found := words line
    if isComment found then none else some (number, found)

/-- Reads a number in either notation. -/
def numeral : List Char → Except NumeralError Nat
  | '0' :: 'x' :: digits => Numeral.read 16 Word.limit digits
  | '0' :: 'X' :: digits => Numeral.read 16 Word.limit digits
  | word => Numeral.read 10 Word.limit word

def number (line : Nat) (word : List Char) : Except LoadError Nat :=
  match numeral word with
  | .ok value => .ok value
  | .error reason => .error (.malformed line (.badNumber (String.ofList word) reason))

/-- Reads the words behind an opcode. -/
def operands (line : Nat) (opcode : Opcode) (found : List (List Char)) : Except LoadError (List Nat) :=
  let (least, most) := opcode.operandRange
  if least ≤ found.length ∧ found.length ≤ most then found.mapM (number line)
  else .error (.malformed line (.operandCount opcode found.length))

/-- Reads one instruction. -/
def instruction (line : Nat) : List (List Char) → Except LoadError Instruction
  | [] => .error (.unknownOpcode line "")
  | word :: rest =>
    match Opcode.ofName? (String.ofList word) with
    | none => .error (.unknownOpcode line (String.ofList word))
    | some opcode => (operands line opcode rest).map opcode.instruction

/-- Reads the priority of a header. -/
def readPriority (line : Nat) (word : List Char) : Except LoadError Nat := do
  let priority ← number line word
  if priority < priorityLimit then return priority
  else throw (.malformed line (.priorityRange (String.ofList word)))

/-- Reads a program. -/
def ofText (text : List Char) : Except LoadError Program :=
  match significantLines text with
  | (line, [first, second]) :: rest => do
    let priority ← readPriority line first
    let expected ← number line second
    let code ← rest.mapM fun (line, found) => instruction line found
    if code.length = expected then return { priority, code }
    else throw (.countMismatch expected code.length)
  | _ => .error .missingHeader

end Program

end DemandPaging
