import Superstep.Sorted

/-!
# Environment variables

Variables by name. A variable that is empty is set all the same.
-/

namespace Superstep

/-- The variables that are set, sorted by name. -/
structure Environment where
  entries : List (String × String) := []
  deriving DecidableEq, Repr

namespace Environment

def get? (environment : Environment) (name : String) : Option String :=
  environment.entries.lookup name

def set (environment : Environment) (name value : String) : Environment :=
  ⟨insertKey name value environment.entries⟩

def setNew (environment : Environment) (name value : String) : Environment :=
  if (environment.get? name).isSome then environment else environment.set name value

def ofList (entries : List (String × String)) : Environment := ⟨sortKeys entries⟩

end Environment

end Superstep
