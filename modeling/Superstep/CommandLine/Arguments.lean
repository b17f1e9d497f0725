import Superstep.Config
import Superstep.Text.Search

/-!
# Command line arguments

`translate OPTIONS` and `check OPTIONS`, with options before or after their other arguments. An option
has its value in the next argument, or attached to a short name, or after an equals sign.
-/

namespace Superstep.CommandLine

inductive Command where
  /-- Write the plan for an option file, perhaps in a given format or to a given file. -/
  | write (options : String) (format : Option OutputFormat) (output : Option String)
  /-- Print a summary of the plan for an option file. -/
  | check (options : String)
  deriving DecidableEq, Repr

def Command.optionFile : Command → String
  | .write options _ _ => options
  | .check options => options

inductive Invocation where
  | version
  | run (config : Option String) (command : Command)
  deriving DecidableEq, Repr

inductive Flag where
  | config | format | output
  deriving DecidableEq, Repr

def Flag.ofLong? (name : String) : Option Flag :=
  if name = "config" then some .config
  else if name = "format" then some .format
  else if name = "output" then some .output
  else none

def Flag.ofShort? (name : Char) : Option Flag :=
  if name = 'c' then some .config
  else if name = 'f' then some .format
  else if name = 'o' then some .output
  else none

inductive Argument where
  /-- Everything behind it is positional. -/
  | escape
  | positional (text : String)
  | long (name : String) (value : Option String)
  | short (name : Char) (value : Option String)
  deriving DecidableEq, Repr

def Argument.ofText (text : String) : Argument :=
  match text.toList with
  | ['-', '-'] => .escape
  | '-' :: '-' :: rest =>
    match Text.cutFirst '=' rest with
    | some (name, value) => .long (String.ofList name) (some (String.ofList value))
    | none => .long (String.ofList rest) none
  | ['-', name] => .short name none
  | '-' :: name :: '=' :: value => .short name (some (String.ofList value))
  | '-' :: name :: value => .short name (some (String.ofList value))
  | _ => .positional text

/-- The options and positional arguments on one level of a command line. -/
structure Level where
  config : Option String := none
  format : Option OutputFormat := none
  output : Option String := none
  positional : List String := []
  deriving DecidableEq, Repr

/-- Gives an option its value. An option may be given once, and a path is not empty. -/
def Level.set? (level : Level) (flag : Flag) (value : String) : Option Level :=
  match flag with
  | .config =>
    if level.config.isSome || value.isEmpty then none else some { level with config := some value }
  | .format =>
    if level.format.isSome then none
    else (OutputFormat.ofName? value).map fun format => { level with format := some format }
  | .output =>
    if level.output.isSome || value.isEmpty then none else some { level with output := some value }

/-- The option that an argument names and the value attached to it, if the argument is an option that
is known here. -/
def flag? (allowed : List Flag) (argument : Argument) : Option (Flag × Option String) := do
  let (flag, value) ←
    match argument with
    | .long name value => (Flag.ofLong? name).map (·, value)
    | .short name value => (Flag.ofShort? name).map (·, value)
    | _ => none
  if flag ∈ allowed then return (flag, value) else none

/-- Reads the arguments of a command. `waiting` is an option that still needs its value, and after an
escape every argument is positional. -/
def commandLevel? (allowed : List Flag) :
    (waiting : Option Flag) → (escaped : Bool) → Level → List String → Option Level
  | none, _, level, [] => some level
  | some _, _, _, [] => none
  | some flag, escaped, level, text :: texts => do
    -- The next argument is the value, unless it looks like an option itself.
    match Argument.ofText text with
    | .positional value => commandLevel? allowed none escaped (← level.set? flag value) texts
    | _ => none
  | none, escaped, level, text :: texts =>
    if escaped then
      commandLevel? allowed none true { level with positional := level.positional ++ [text] } texts
    else
      match Argument.ofText text with
      | .escape => commandLevel? allowed none true level texts
      | .positional value =>
        commandLevel? allowed none false { level with positional := level.positional ++ [value] } texts
      | argument => do
        match ← flag? allowed argument with
        | (flag, some value) => commandLevel? allowed none false (← level.set? flag value) texts
        | (flag, none) => commandLevel? allowed (some flag) false level texts

/-- The path of the option file, which is the one positional argument of a command. -/
def Level.optionFile? (level : Level) : Option String :=
  match level.positional with
  | [path] => if path.isEmpty then none else some path
  | _ => none

/-- Reads the arguments behind the name of a command. The configuration file can be given on either
level, and the inner one wins. -/
def command? (outer : Level) (name : String) (texts : List String) : Option Invocation :=
  if name = "translate" then do
    let level ← commandLevel? [.config, .format, .output] none false {} texts
    return .run (level.config.or outer.config) (.write (← level.optionFile?) level.format level.output)
  else if name = "check" then do
    let level ← commandLevel? [.config] none false {} texts
    return .run (level.config.or outer.config) (.check (← level.optionFile?))
  else none

/-- Reads the arguments up to the name of the command, and then the command. What is attached to the
short name for the version does not matter. -/
def invocationFrom? : (waiting : Option Flag) → Level → List String → Option Invocation
  | _, _, [] => none
  | some flag, level, text :: texts => do
    match Argument.ofText text with
    | .positional value => invocationFrom? none (← level.set? flag value) texts
    | _ => none
  | none, level, text :: texts =>
    match Argument.ofText text with
    | .escape => none
    | .positional name => command? level name texts
    | .long "version" none | .short 'V' _ => some .version
    | argument => do
      match ← flag? [.config] argument with
      | (flag, some value) => invocationFrom? none (← level.set? flag value) texts
      | (flag, none) => invocationFrom? (some flag) level texts

/-- What a command line asks for. There is nothing for one that does not follow the usage. -/
def invocation? (texts : List String) : Option Invocation := invocationFrom? none {} texts

end Superstep.CommandLine
