import DemandPaging.Directory
import DemandPaging.Simulation

/-! # The command

Reads the programs named on the command line, runs the simulation and prints what it reports.
-/

namespace DemandPaging.Main

/-- How an error of the system is reported. Its number may come with the sign turned, as a word. -/
def reportOf (code : UInt32) (details : String) : String :=
  let number := if code.toNat < 1 <<< 31 then code.toNat else 1 <<< 32 - code.toNat
  match FileError.ofCode? number with
  | some error => error.message
  | none => FileError.report details number

/-- What is said about a file that cannot be read. -/
def reasonText (error : IO.Error) : String :=
  match error with
  | .noFileOrDirectory _ code details => reportOf code details
  | .permissionDenied _ code details => reportOf code details
  | .inappropriateType _ code details => reportOf code details
  | .invalidArgument _ code details => reportOf code details
  | .resourceExhausted _ code details => reportOf code details
  | _ => "stream did not contain valid UTF-8"

/-- Reads a file, or tells why it cannot be read. -/
def readProgram (path : String) : IO (Except String String) := do
  try
    return .ok (← IO.FS.readFile path)
  catch error =>
    return .error (reasonText error)

/-- Reads the files of the programs that a command line names. -/
def readPrograms (arguments : List String) : IO (List (String × Except String String)) :=
  match CommandLine.parse arguments with
  | .ok options => options.programs.mapM fun path => return (path, ← readProgram path)
  | .error _ => return []

end DemandPaging.Main

open DemandPaging in
def main (arguments : List String) : IO UInt32 := do
  let files ← Main.readPrograms arguments
  let transcript := Transcript.ofCommand arguments fun path =>
    (files.lookup path).getD (.error FileError.missing.message)
  transcript.errors.forM IO.eprintln
  transcript.output.forM IO.println
  return UInt32.ofNat transcript.code
