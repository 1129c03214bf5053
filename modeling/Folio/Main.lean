import Folio.Command.Run

/-!
# The program

The outer layer of the command line: it reads the environment and the files that a run asks for,
writes what the run gives, and ends with its exit code.
-/

namespace Folio.Command

/-- The number of an error of the system, which may come with its sign reversed. -/
def systemNumber (code : UInt32) : Nat := if code < 0x80000000 then code.toNat else (-code).toNat

/-- The fault behind an error of the system. -/
def faultOf : IO.Error → File.Fault
  | .noFileOrDirectory _ _ _ | .noSuchThing _ _ _ => .missing
  | .inappropriateType _ code reason =>
    match systemNumber code with
    | 20 => .notDirectory
    | 21 => .directory
    | number => .other number reason
  | .permissionDenied _ _ _ => .denied
  | .invalidArgument _ code reason =>
    match systemNumber code with
    | 36 => .tooLong
    | number => .other number reason
  | error => .other 5 (toString error)

/-- Read the bytes of a file. -/
def readFile : File.Reader IO := fun path => do
  match File.pathFault? path with
  | some fault => return .error fault
  | none =>
    try
      return .ok (← IO.FS.readBinFile (String.ofList path)).toList
    catch error => return .error (faultOf error)

/-- The variables that arguments may be taken from, with their values. -/
def readEnvironment : IO (List (String × String)) :=
  variableNames.filterMapM fun name => do
    return (← IO.getEnv name).map (name, ·)

/-- Run with the arguments of the process. -/
def runProcess (arguments : List String) : IO Result := do
  let environment ← readEnvironment
  run readFile (environment.lookup ·) arguments

end Folio.Command

/-- Write the output and the log of a run. -/
def main (arguments : List String) : IO UInt32 := do
  let result ← Folio.Command.runProcess arguments
  for record in result.log do
    IO.eprintln (record.level.name ++ ": " ++ record.message)
  IO.print result.output
  return .ofNat result.status.code
