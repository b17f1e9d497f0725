import Superstep.Directory
import Superstep.Environment
import Superstep.Text.Blank
import Superstep.Yaml.Value

/-!
# Configuration

What is written and how it is logged. A configuration comes from a YAML file, if one is given, and from
environment variables, which win over the file.
-/

namespace Superstep

inductive OutputFormat where
  | json | sql
  deriving DecidableEq, Repr

namespace OutputFormat

def name : OutputFormat → String
  | .json => "json"
  | .sql => "sql"

def ofName? (name : String) : Option OutputFormat :=
  if name = "json" then some .json else if name = "sql" then some .sql else none

/-- The format that a variable names, whatever its case and blanks around it. -/
def ofVariable? (value : String) : Option OutputFormat :=
  ofName? (String.ofList ((Text.trim value.toList).map Char.toLower))

end OutputFormat

inductive LogFormat where
  | pretty | json | compact
  deriving DecidableEq, Repr

/-- The log format that a setting names. Anything unknown is compact. -/
def LogFormat.ofText (text : String) : LogFormat :=
  if text = "json" then .json else if text = "pretty" then .pretty else .compact

inductive LogOutput where
  | stderr | file | both
  deriving DecidableEq, Repr

/-- The log output that a setting names. Anything unknown is the error stream. -/
def LogOutput.ofText (text : String) : LogOutput :=
  if text = "file" then .file else if text = "both" then .both else .stderr

structure OutputConfig where
  format : OutputFormat := .json
  /-- Whether JSON is indented. -/
  pretty : Bool := true
  deriving DecidableEq, Repr

/-- How logging is done, in the words of the settings. -/
structure LoggingConfig where
  level : String := "info"
  format : String := "compact"
  output : String := "stderr"
  directory : String := "./logs"
  deriving DecidableEq, Repr

/-- The variables of logging, each with what the configuration says for it. -/
def LoggingConfig.assignments (logging : LoggingConfig) : List (String × String) :=
  [("RUST_LOG", logging.level), ("LOG_FORMAT", logging.format), ("LOG_OUTPUT", logging.output),
   ("LOG_DIR", logging.directory)]

structure Config where
  output : OutputConfig := {}
  logging : LoggingConfig := {}
  deriving DecidableEq, Repr

inductive ConfigError where
  | unreadable (error : FileError)
  | notYaml
  /-- The variable for the output format names none. -/
  | invalidFormat (value : String)
  deriving DecidableEq, Repr

def ConfigError.formatVariable : String := "VCSQL_OUTPUT_FORMAT"

/-- The wording of an error and of what caused it, outermost first. -/
def ConfigError.messages : ConfigError → List String
  | .unreadable error => ["Failed to read config file: " ++ error.message, error.message]
  | .notYaml => ["Failed to parse YAML: not a valid configuration", "not a valid configuration"]
  | .invalidFormat value => ["Invalid value for " ++ formatVariable ++ ": " ++ value]

namespace Config

/-- The value of a field in a section. A field that is given twice is refused. -/
def field? (entries : List (String × Yaml.Node)) (name : String) : Option (Option Yaml.Node) :=
  match entries.filter (·.1 = name) with
  | [] => some none
  | [(_, node)] => some (some node)
  | _ => none

/-- The value of a field as `read` gives it, or the default. -/
def fieldOr {α : Type} (entries : List (String × Yaml.Node)) (name : String) (default : α)
    (read : Yaml.Node → Yaml.Document.Following α) : Yaml.Document.Following α := do
  match ← (liftM (field? entries name) : Yaml.Document.Following _) with
  | none => return default
  | some node => read node

/-- A truth value. It is plain, or in a block under the tag that says what it is. -/
def readBool (node : Yaml.Node) : Yaml.Document.Following Bool := do
  match ← node.target with
  | .scalar properties style text =>
    if style = .plain || (style = .literal && properties.tag = some Yaml.Scalar.boolTag) then
      liftM (Yaml.Scalar.bool? text)
    else failure
  | _ => failure

/-- A format, by its name or by a tag of that name with nothing under it. -/
def readFormat (node : Yaml.Node) : Yaml.Document.Following OutputFormat := do
  match ← node.target with
  | .scalar properties style text =>
    match properties.tag.bind Yaml.Scalar.ownTag? with
    | none => liftM (OutputFormat.ofName? text)
    | some name =>
      if style = .plain && (text.isEmpty || Yaml.Scalar.isNull text) then
        liftM (OutputFormat.ofName? name)
      else failure
  | _ => failure

def readOutput (node : Yaml.Node) : Yaml.Document.Following OutputConfig := do
  let entries ← node.textEntries
  return {
    format := ← fieldOr entries "format" .json readFormat
    pretty := ← fieldOr entries "pretty" true readBool }

def readLogging (node : Yaml.Node) : Yaml.Document.Following LoggingConfig := do
  let entries ← node.textEntries
  let base : LoggingConfig := {}
  return {
    level := ← fieldOr entries "level" base.level Yaml.Node.text
    format := ← fieldOr entries "format" base.format Yaml.Node.text
    output := ← fieldOr entries "output" base.output Yaml.Node.text
    directory := ← fieldOr entries "directory" base.directory Yaml.Node.text }

/-- The configuration in a document. Fields that are left out have their defaults, and fields that are
not known are passed over. -/
def ofDocument (document : Yaml.Document) : Yaml.Document.Following Config := do
  let entries ← document.textEntries
  return {
    output := ← fieldOr entries "output" {} readOutput
    logging := ← fieldOr entries "logging" {} readLogging }

def ofText? (contents : String) : Option Config := do
  let document ← Yaml.Document.read? contents
  document.follow? (ofDocument document)

/-- The configuration with the variables that are set in place of what it says. -/
def override (config : Config) (environment : Environment) : Except ConfigError Config := do
  let format ←
    match environment.get? ConfigError.formatVariable with
    | none => pure config.output.format
    | some value =>
      match OutputFormat.ofVariable? value with
      | some format => pure format
      | none => throw (.invalidFormat value)
  return {
    output := { config.output with format }
    logging := {
      level := (environment.get? "RUST_LOG").getD config.logging.level
      format := (environment.get? "LOG_FORMAT").getD config.logging.format
      output := (environment.get? "LOG_OUTPUT").getD config.logging.output
      directory := (environment.get? "LOG_DIR").getD config.logging.directory } }

/-- The configuration for an environment and, if a file is given, for what reading it came to. -/
def load (file : Option (Except FileError String)) (environment : Environment) :
    Except ConfigError Config :=
  match file with
  | none => override {} environment
  | some (.error error) => .error (.unreadable error)
  | some (.ok contents) =>
    match ofText? contents with
    | none => .error .notYaml
    | some config => config.override environment

/-- The environment with the logging variables that the configuration stands for. -/
def loggingEnvironment (config : Config) (environment : Environment) : Environment :=
  config.logging.assignments.foldl (fun set (name, value) => set.set name value) environment

/-- The folder for logs, if they go to files. -/
def logFolder? (config : Config) : Option String :=
  match LogOutput.ofText config.logging.output with
  | .stderr => none
  | .file | .both => some config.logging.directory

end Config

end Superstep
