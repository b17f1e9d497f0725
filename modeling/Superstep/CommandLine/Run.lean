import Superstep.CommandLine.Arguments
import Superstep.OptionFile
import Superstep.Planner.Loop
import Superstep.VariableFile

/-!
# Running a command

A command reads its files from a directory and comes to an outcome: an exit code, what is printed, and
the file that is written. Nothing here touches a real file. The parts of a run are functions of what
reading a file came to, so that they serve for real files too.
-/

namespace Superstep

namespace CommandLine

structure Outcome where
  code : Nat
  stdout : String := ""
  stderr : String := ""
  /-- The names on the way to the file that is written in the directory, and its text. -/
  written : Option (List String × String) := none
  deriving DecidableEq, Repr

/-- Why a command fails: what could not be done, and the causes from the outside in. -/
structure Failure where
  headline : String
  causes : List String
  deriving DecidableEq, Repr

namespace Failure

def indentLines (blanks text : String) : String :=
  String.intercalate ("\n" ++ blanks) ((Text.pieces '\n' text.toList).map String.ofList)

def causeLines (causes : List String) : List String :=
  match causes with
  | [cause] => ["    " ++ indentLines "    " cause]
  | causes => causes.zipIdx.map fun (cause, number) =>
    let label := toString number
    String.ofList (List.replicate (5 - label.length) ' ') ++ label ++ ": " ++ indentLines "       " cause

def text (failure : Failure) : String :=
  "Error: " ++ failure.headline
    ++ (if failure.causes.isEmpty then ""
        else "\n\nCaused by:\n" ++ String.intercalate "\n" (causeLines failure.causes))
    ++ "\n"

def outcome (failure : Failure) : Outcome := { code := 1, stderr := failure.text }

end Failure

/-- The configuration for an environment and what reading its file came to. -/
def loadConfig (environment : Environment) (file : Option (Except FileError String)) :
    Except Failure Config :=
  (Config.load file environment).mapError fun error => ⟨"Failed to load configuration", error.messages⟩

/-- The plan for an option file, from what reading it came to. -/
def planFile (path : String) (file : Except FileError String) : Except Failure Plan := do
  let contents ← file.mapError fun error => ⟨"Failed to read option file " ++ path, [error.message]⟩
  let options ← (OptionFile.read contents).mapError fun error =>
    ⟨"Invalid option file " ++ path, [error.message]⟩
  let planned := do (← Algorithm.ofOptions options).plan {}
  planned.mapError fun error => ⟨"Failed to translate " ++ path, [error.message]⟩

def writeFailure (path : String) (error : FileError) : Failure :=
  ⟨"Failed to write " ++ path, [error.message]⟩

def planText (plan : Plan) (format : OutputFormat) (pretty : Bool) : Except Failure String :=
  match format with
  | .json => .ok (if pretty then plan.toJson.toIndented else plan.toJson.toCompact)
  | .sql => plan.sql.mapError fun error => ⟨error.message, []⟩

def summary (plan : Plan) : String :=
  "blocks:      " ++ toString plan.blocks.length ++ "\n"
    ++ "descriptors: " ++ toString plan.descriptorCount ++ "\n"
    ++ "senders:     " ++ commaList plan.senders ++ "\n"
    ++ "fingerprint: " ++ plan.fingerprint ++ "\n"

/-- The text that a command results in, and the path that it is written to. Without a path it is
printed. -/
structure Output where
  text : String
  path : Option String := none
  deriving DecidableEq, Repr

/-- The output of a command for the plan of its option file. A printed plan ends its line. -/
def Command.output (config : Config) (plan : Plan) : Command → Except Failure Output
  | .write _ format path => do
    let text ← planText plan (format.getD config.output.format) config.output.pretty
    return { text := if path.isSome then text else text ++ "\n", path }
  | .check _ => .ok { text := summary plan }

def Output.outcome (directory : Directory) (output : Output) : Except Failure Outcome :=
  match output.path with
  | none => .ok { code := 0, stdout := output.text }
  | some path =>
    match directory.write path with
    | .ok (.inside names) => .ok { code := 0, written := some (names, output.text) }
    | .ok .elsewhere => .ok { code := 0 }
    | .ok .stdout => .ok { code := 0, stdout := output.text }
    | .ok .stderr => .ok { code := 0, stderr := output.text }
    | .error error => .error (writeFailure path error)

def versionText : String := "vcsql 0.1.0\n"

/-- What an invocation comes to. The configuration is loaded before anything else is read, and the folder
for logs is made before the option file is. -/
def perform (directory : Directory) (environment : Environment) : Invocation → Outcome
  | .version => { code := 0, stdout := versionText }
  | .run configPath command =>
    let result : Except Failure Outcome := do
      let config ← loadConfig environment (configPath.map directory.read)
      let directory := config.logFolder?.elim directory directory.addFolder
      let plan ← planFile command.optionFile (directory.read command.optionFile)
      (← command.output config plan).outcome directory
    match result with
    | .ok outcome => outcome
    | .error failure => failure.outcome

def variableFile : String := ".env"

/-- The environment with the variables in a file that are not set, if the file can be read. -/
def withVariables (file : Except FileError String) (environment : Environment) : Environment :=
  match file with
  | .ok contents => VariableFile.load environment contents
  | .error _ => environment

/-- The exit code for a command line that does not follow the usage. -/
def usageCode : Nat := 2

def run (directory : Directory) (environment : Environment) (arguments : List String) : Outcome :=
  match invocation? arguments with
  | none => { code := usageCode }
  | some invocation =>
    perform directory (withVariables (directory.read variableFile) environment) invocation

end CommandLine

end Superstep
