import Superstep.Sorted
import Superstep.Yaml.Value

/-!
# Option files

An option file is a YAML map from the names of options to scalars. The scalars are taken as text.
-/

namespace Superstep

inductive OptionFileError where
  /-- It is not YAML, or not a map, or holds a value that is refused. -/
  | notYaml
  /-- The value of an option is not a scalar. -/
  | notScalar (key : String) (value : Yaml.Value)

def OptionFileError.message : OptionFileError → String
  | .notYaml => "not a valid YAML mapping"
  | .notScalar key value => "option '" ++ key ++ "' must be a scalar, got " ++ value.describe

namespace OptionFile

/-- The options whose values are scalars, up to the first that is none. -/
def scalars : List (String × Yaml.Value) → Except OptionFileError (List (String × String))
  | [] => .ok []
  | (key, value) :: entries =>
    match value.scalarText? with
    | some text => do return (key, text) :: (← scalars entries)
    | none => .error (.notScalar key value)

/-- The entries of a document with their values. The map itself is one level of nesting. -/
def values (document : Yaml.Document) : Yaml.Document.Following (List (String × Yaml.Value)) := do
  (← document.textEntries).mapM fun (key, node) => do
    return (key, ← node.value (Yaml.Node.maxNesting - 1) false)

/-- Reads an option file. The options are sorted by name, and of several with one name the last
counts. -/
def read (contents : String) : Except OptionFileError (List (String × String)) :=
  match (Yaml.Document.read? contents).bind fun document => document.follow? (values document) with
  | none => .error .notYaml
  | some entries => scalars (sortKeys entries)

end OptionFile

end Superstep
