/-! # Events

What a simulation does is told by events: a severity, the part of the machine that speaks, and the
message. Events never steer anything; they are collected newest first and shown up to a severity.
-/

namespace DemandPaging

inductive Severity where
  | error | warn | info | debug | trace
deriving DecidableEq, Repr, Inhabited

namespace Severity

/-- Grows with the amount of detail. -/
def rank : Severity → Nat
  | .error => 1
  | .warn => 2
  | .info => 3
  | .debug => 4
  | .trace => 5

def text : Severity → String
  | .error => "ERROR"
  | .warn => "WARN"
  | .info => "INFO"
  | .debug => "DEBUG"
  | .trace => "TRACE"

/-- The name of a severity as one word with a capital. -/
def title : Severity → String
  | .error => "Error"
  | .warn => "Warn"
  | .info => "Info"
  | .debug => "Debug"
  | .trace => "Trace"

def all : List Severity := [.error, .warn, .info, .debug, .trace]

theorem mem_all (severity : Severity) : severity ∈ all := by cases severity <;> decide

end Severity

/-- The part of the machine an event comes from. -/
inductive Source where
  | config | space | fault | access
  | device | deviceSet | frameSource | radix
  | kernel | scheduler | simulation | processor
deriving DecidableEq, Repr, Inhabited

/-- The name under which a part writes to the log. -/
def Source.text : Source → String
  | .config => "kernel_mm::config"
  | .space => "kernel_mm::address_space"
  | .fault => "kernel_mm::fault"
  | .access => "kernel_mm::access"
  | .device => "kernel_alloc::phys_mem"
  | .deviceSet => "kernel_alloc::devices"
  | .frameSource => "kernel_alloc::frame_alloc"
  | .radix => "kernel_vmem::radix"
  | .kernel => "kernel_syscall::kernel"
  | .scheduler => "kernel_syscall::process"
  | .simulation => "vmsim"
  | .processor => "vmsim::cpu"

structure Event where
  severity : Severity
  source : Source
  message : String
deriving DecidableEq, Repr, Inhabited

/-- What a log shows: nothing, or everything up to a severity. -/
abbrev Verbosity := Option Severity

namespace Verbosity

def shows (verbosity : Verbosity) (severity : Severity) : Bool :=
  match verbosity with
  | none => false
  | some most => severity.rank ≤ most.rank

def title : Verbosity → String
  | none => "Off"
  | some severity => severity.title

/-- Reads `off` or the name of a severity in any case. -/
def ofName? (name : String) : Option Verbosity :=
  let key := name.toUpper
  if key = "OFF" then some none
  else (Severity.all.find? fun severity => severity.text = key).map some

end Verbosity

namespace Event

/-- A line of the log with its source. -/
def line (event : Event) : String :=
  s!"[{event.severity.text}] {event.source.text}: {event.message}"

/-- A line of the log without its source. -/
def brief (event : Event) : String :=
  s!"{event.severity.text} {event.message}"

/-- The events of a log, which holds the newest first, that are shown, in order. -/
def shown (verbosity : Verbosity) (log : List Event) : List Event :=
  log.reverse.filter fun event => verbosity.shows event.severity

theorem shown_off (log : List Event) : shown none log = [] := by
  simp [shown, Verbosity.shows]

theorem shown_append (verbosity : Verbosity) (newer older : List Event) :
    shown verbosity (newer ++ older) = shown verbosity older ++ shown verbosity newer := by
  simp [shown]

end Event

end DemandPaging
