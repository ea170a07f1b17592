import DemandPaging.Config
import DemandPaging.Text.Numeral
import DemandPaging.Text.Quoted

/-! # Command line

Arguments are read from left to right: an option that takes a value takes the next argument whatever
it looks like, a word that starts with two dashes is otherwise an unknown option, and everything else
names a program. Swap sizes replace the standard swap device as soon as one is given. The first thing
wrong is reported, and only a command line without faults can lack a program.
-/

namespace DemandPaging

open Text

structure Options where
  config : MemoryConfig := {}
  verbosity : Verbosity := some .info
  programs : List String := []
deriving DecidableEq, Repr, Inhabited

/-- How options are described. -/
def Options.description (options : Options) : String :=
  record "Options"
    [("config", options.config.description), ("log_level", options.verbosity.title),
      ("programs", sequence (options.programs.map Quoted.quote))]

/-- Options that take a value. -/
inductive ValueOption where
  | ram | swap | pageShift | logLevel
deriving DecidableEq, Repr, Inhabited

namespace ValueOption

def all : List ValueOption := [.ram, .swap, .pageShift, .logLevel]

def flag : ValueOption → String
  | .ram => "--ram"
  | .swap => "--swap"
  | .pageShift => "--page-shift"
  | .logLevel => "--log-level"

def ofFlag? (word : String) : Option ValueOption :=
  all.find? fun option => option.flag == word

end ValueOption

inductive UsageError where
  | missingValue (option : ValueOption)
  | badSize (word : String)
  | badPageShift (word : String)
  | badLogLevel (word : String)
  | helpRequested
  | unknownOption (word : String)
  | noProgram
deriving DecidableEq, Repr, Inhabited

def UsageError.message : UsageError → String
  | .missingValue option => option.flag ++ " needs a value"
  | .badSize word => "bad size `" ++ word ++ "`"
  | .badPageShift word => "bad page shift `" ++ word ++ "`"
  | .badLogLevel word => "bad log level `" ++ word ++ "`"
  | .helpRequested => "help requested"
  | .unknownOption word => "unknown option `" ++ word ++ "`"
  | .noProgram => "no program given"

/-- What the program says about its use. -/
def usageLine : String :=
  "usage: vmsim [--ram BYTES] [--swap BYTES]... [--page-shift N] [--eager] " ++
    "[--log-level LEVEL] PROGRAM..."

namespace CommandLine

/-- A byte count, decimal or behind `0x` hexadecimal. -/
def size? (word : List Char) : Option Nat :=
  match word with
  | '0' :: 'x' :: digits => (Numeral.read 16 Word.limit digits).toOption
  | _ => (Numeral.read 10 Word.limit word).toOption

def geometry? (word : List Char) : Option Geometry := do
  Geometry.ofShift? (← (Numeral.read 10 (1 <<< 32) word).toOption)

/-- Arguments read so far: the options, the swap sizes given, and the option that waits for a value. -/
structure Reading where
  options : Options := {}
  swaps : List Nat := []
  waiting : Option ValueOption := none
deriving DecidableEq, Repr, Inhabited

/-- Gives an option its value. -/
def setValue (reading : Reading) (option : ValueOption) (word : String) : Except UsageError Reading :=
  let { options, swaps, .. } := reading
  match option with
  | .ram =>
    match size? word.toList with
    | some ramSize => .ok { options := { options with config := { options.config with ramSize } }, swaps }
    | none => .error (.badSize word)
  | .swap =>
    match size? word.toList with
    | some size => .ok { options, swaps := swaps ++ [size] }
    | none => .error (.badSize word)
  | .pageShift =>
    match geometry? word.toList with
    | some geometry =>
      .ok { options := { options with config := { options.config with geometry } }, swaps }
    | none => .error (.badPageShift word)
  | .logLevel =>
    match Verbosity.ofName? word with
    | some verbosity => .ok { options := { options with verbosity }, swaps }
    | none => .error (.badLogLevel word)

/-- Reads a word that is no value. -/
def readWord (reading : Reading) (word : String) : Except UsageError Reading :=
  match ValueOption.ofFlag? word with
  | some option => .ok { reading with waiting := some option }
  | none =>
    let options := reading.options
    if word = "--eager" then
      .ok { reading with
        options := { options with config := { options.config with populate := .eager } } }
    else if word = "-h" ∨ word = "--help" then .error .helpRequested
    else if word.startsWith "--" then .error (.unknownOption word)
    else .ok { reading with options := { options with programs := options.programs ++ [word] } }

def readArgument (reading : Reading) (word : String) : Except UsageError Reading :=
  match reading.waiting with
  | some option => setValue reading option word
  | none => readWord reading word

/-- Reads a command line. -/
def parse (arguments : List String) : Except UsageError Options := do
  let reading ← arguments.foldlM readArgument {}
  match reading.waiting with
  | some option => throw (.missingValue option)
  | none =>
    let options := reading.options
    let config :=
      if reading.swaps.isEmpty then options.config
      else { options.config with swapSizes := reading.swaps }
    if options.programs.isEmpty then throw .noProgram
    return { options with config }

end CommandLine

end DemandPaging
