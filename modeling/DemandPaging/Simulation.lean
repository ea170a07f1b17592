import DemandPaging.CommandLine
import DemandPaging.Processor
import DemandPaging.Program.Reader

/-! # Simulations

A simulation builds the devices, loads all programs and runs them one after the other, the most
urgent first and equals in the order of the command line. Each program runs to its end in a process
of its own, which gives back its memory before the next one starts. What cannot be built or loaded
ends the simulation before any program has run.
-/

namespace DemandPaging

inductive SimulationError where
  | load (reason : LoadError)
  | memory (reason : MemoryError)
deriving DecidableEq, Repr, Inhabited

def SimulationError.message : SimulationError → String
  | .load reason => reason.message
  | .memory reason => "memory: " ++ reason.message

/-- A program as it was found: its path, and its text or the reason why it cannot be read. -/
structure ProgramFile where
  path : String
  content : Except String String

namespace Event

def optionsRead (options : Options) : Event :=
  ⟨.debug, .simulation, options.description⟩

def programLoaded (path : String) (pid : Nat) (program : Program) : Event where
  severity := .info
  source := .simulation
  message := s!"loaded {path} as {pidTag pid} (priority {program.priority}, " ++
    s!"{program.code.length} instructions)"

def processVanished (pid : Nat) : Event :=
  ⟨.error, .simulation, s!"{pidTag pid} vanished from the ready queues"⟩

end Event

/-- What is reported of a program that has run. -/
structure RunReport where
  pid : Nat
  summary : RunSummary
  usage : AreaUsage
  resident : Nat
  registers : Vector Nat 10
deriving DecidableEq, Repr, Inhabited

def RunReport.line (report : RunReport) : String :=
  s!"{report.pid}: {report.summary.executed} instructions, {report.summary.failed} failed; " ++
    s!"vma 0 {report.usage.description}; {report.resident} pages resident"

/-- A program with the process that runs it. -/
structure Job where
  pid : Nat
  program : Program
deriving DecidableEq, Repr, Inhabited

/-- What is left of a simulation: the log, the reports in order, and the failure that ended it. -/
structure SimulationResult where
  log : List Event
  reports : List RunReport
  failure : Option SimulationError
deriving Inhabited

namespace Simulation

variable {T : Type} [PageTable T] [EmptyCollection T]

def read (file : ProgramFile) : Except LoadError Program :=
  match file.content with
  | .ok text => Program.ofText text.toList
  | .error reason => .error (.unreadable file.path reason)

/-- Loads programs under ascending process ids. Each has a process before the next is read. -/
def load (populate : Populate) : (pid : Nat) → List ProgramFile →
    EStateM LoadError (Kernel T) (List Job)
  | _, [] => return []
  | pid, file :: rest => do
    let program ← settle (read file)
    let memory : Space T := Space.empty populate
    modify fun kernel =>
      (kernel.emit (.programLoaded file.path pid program)).enrollByPriority
        { pid, priority := program.priority, memory }
    return { pid, program } :: (← load populate (pid + 1) rest)

/-- Jobs in the order in which they run. -/
def order (jobs : List Job) : List Job :=
  jobs.mergeSort fun first second => first.program.priority ≤ second.program.priority

/-- Runs one program and reports on it before its process ends. -/
def runJob (job : Job) : StateM (Kernel T) (Except MemoryError (Option RunReport)) := do
  match ← Kernel.start job.pid with
  | none =>
    modify (Kernel.emit (.processVanished job.pid))
    return .ok none
  | some _ =>
    let (processor, summary) ← Processor.run job.pid {} job.program
    match (← get).scheduler.find? job.pid with
    | none => return .ok none
    | some process =>
      match process.memory.usage 0 with
      | .error reason => return .error reason
      | .ok usage =>
        let resident := process.memory.resident.size
        let _ ← Kernel.finish (T := T) job.pid
        return .ok (some { pid := job.pid, summary, usage, resident, registers := processor.registers })

/-- Runs programs in order; a failure to report on one ends the simulation. -/
def runJobs : List Job → StateM (Kernel T) (List RunReport × Option MemoryError)
  | [] => return ([], none)
  | job :: rest => do
    match ← runJob job with
    | .error reason => return ([], some reason)
    | .ok report =>
      let (reports, failure) ← runJobs rest
      return (report.toList ++ reports, failure)

/-- Runs loaded programs and dumps RAM at the end. -/
def complete (jobs : List Job) (kernel : Kernel T) : SimulationResult :=
  let ((reports, failure), kernel) := (runJobs (order jobs)).run kernel
  match failure with
  | some reason => { log := kernel.shutdown.log, reports, failure := some (.memory reason) }
  | none =>
    let dump := Event.deviceDump kernel.devices.ram
    { log := dump.reverse ++ kernel.log, reports, failure := none }

/-- Runs a simulation on fresh devices. -/
def runOn (config : MemoryConfig) (files : List ProgramFile) (machine : Machine) : SimulationResult :=
  let kernel : Kernel T := { toMachine := machine }
  match load config.populate 1 files kernel with
  | .error reason kernel => { log := kernel.shutdown.log, reports := [], failure := some (.load reason) }
  | .ok jobs kernel => complete jobs kernel

/-- Runs a simulation from its options and program files. -/
def run (T : Type) [PageTable T] [EmptyCollection T] (options : Options) (files : List ProgramFile) :
    SimulationResult :=
  match options.config.build with
  | .error reason =>
    { log := [.optionsRead options], reports := [], failure := some (.memory reason) }
  | .ok machine =>
    runOn (T := T) options.config files
      { machine with log := machine.log ++ [.optionsRead options] }

end Simulation

/-- The texts that a command prints, each with a line feed behind it, and its exit code. -/
structure Transcript where
  output : List String
  errors : List String
  code : Nat
deriving DecidableEq, Repr, Inhabited

namespace Transcript

/-- The lines of what is printed. -/
def outputLines (transcript : Transcript) : List String := transcript.output.flatMap Text.printedLines

/-- The lines of what is printed as errors and as the log. -/
def errorLines (transcript : Transcript) : List String := transcript.errors.flatMap Text.printedLines

/-- A command line that cannot be read prints how the program is used. -/
def ofUsageError (reason : UsageError) : Transcript :=
  { output := [], errors := [reason.message, "", usageLine], code := 2 }

def ofResult (verbosity : Verbosity) (result : SimulationResult) : Transcript :=
  let log := (Event.shown verbosity result.log).map Event.line
  let output := result.reports.map RunReport.line
  match result.failure with
  | none => { output, errors := log, code := 0 }
  | some reason => { output, errors := log ++ ["vmsim: " ++ reason.message], code := 1 }

/-- Runs a command line, given how files are read. -/
def ofCommand (arguments : List String) (readFile : String → Except String String) : Transcript :=
  match CommandLine.parse arguments with
  | .error reason => ofUsageError reason
  | .ok options =>
    let files := options.programs.map fun path => { path, content := readFile path }
    ofResult options.verbosity (Simulation.run FlatTable options files)

end Transcript

end DemandPaging
