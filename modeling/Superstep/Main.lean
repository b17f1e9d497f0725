import Superstep.CommandLine.Run

/-!
# The command line program

Reads the files that the arguments name, lets the library decide what they come to, and carries it out.
-/

namespace Superstep.CommandLine

/-- What an error of the system means for a file. Some calls give the code negated. -/
def fileError : IO.Error → FileError
  | .inappropriateType _ code _ => if code = 21 || -code = 21 then .isDirectory else .notDirectory
  | .permissionDenied .. => .denied
  | .resourceExhausted .. => .noSpace
  | .invalidArgument _ code _ => if code = 36 || -code = 36 then .nameTooLong else .notFound
  | _ => .notFound

def readPath (path : String) : IO (Except FileError String) := do
  try return .ok (← IO.FS.readFile path)
  catch error => return .error (fileError error)

def variableNames : List String :=
  ConfigError.formatVariable :: (LoggingConfig.assignments {}).map (·.1)

/-- The variables that are set, or that the directory's file sets. -/
def readEnvironment : IO Environment := do
  let found ← variableNames.filterMapM fun name => do return (← IO.getEnv name).map (name, ·)
  return withVariables (← readPath variableFile) (Environment.ofList found)

def makeFolder (path : String) : IO Unit := do
  try IO.FS.createDirAll path
  catch _ => return ()

def carryOut (output : Output) : IO (Except Failure Unit) := do
  match output.path with
  | none =>
    (← IO.getStdout).putStr output.text
    return .ok ()
  | some path =>
    try
      IO.FS.writeFile path output.text
      return .ok ()
    catch error => return .error (writeFailure path (fileError error))

def runCommand (configPath : Option String) (command : Command) : IO (Except Failure Unit) := do
  let environment ← readEnvironment
  match loadConfig environment (← configPath.mapM readPath) with
  | .error failure => return .error failure
  | .ok config =>
    config.logFolder?.forM makeFolder
    let file ← readPath command.optionFile
    match planFile command.optionFile file >>= command.output config with
    | .error failure => return .error failure
    | .ok output => carryOut output

def usage : String :=
  "usage: vcsql [-c FILE] translate OPTIONS [-f json|sql] [-o FILE]\n"
    ++ "       vcsql [-c FILE] check OPTIONS\n"

end Superstep.CommandLine

open Superstep CommandLine in
def main (arguments : List String) : IO UInt32 := do
  match invocation? arguments with
  | none =>
    (← IO.getStderr).putStr usage
    return UInt32.ofNat usageCode
  | some .version =>
    (← IO.getStdout).putStr versionText
    return 0
  | some (.run configPath command) =>
    match ← runCommand configPath command with
    | .ok _ => return 0
    | .error failure =>
      (← IO.getStderr).putStr failure.text
      return UInt32.ofNat failure.outcome.code
