import Superstep.PlanError
import Superstep.Table

/-!
# Scopes

The context is the table of the vertices that a statement applies to. Outside every `if` it is the
table of combined messages, and each `if` puts a context of its own on top.
-/

namespace Superstep

/-- The context, and the contexts around it from the inside out. -/
structure Scope where
  enclosing : List String := []
  current : String := Table.combined
  deriving DecidableEq, Repr

namespace Scope

/-- Whether the context is the table of combined messages. -/
def isDefault (scope : Scope) : Bool := scope.current = Table.combined

def depth (scope : Scope) : Nat := scope.enclosing.length

def push (scope : Scope) (context : String) : Scope :=
  { enclosing := scope.current :: scope.enclosing, current := context }

def leave (scope : Scope) : Except PlanError Scope :=
  match scope.enclosing with
  | [] => .error (.unbalancedScope .strayEnd)
  | outer :: others => .ok { enclosing := others, current := outer }

def finish (scope : Scope) : Except PlanError Unit :=
  if scope.depth = 0 then .ok () else .error (.unbalancedScope (.unclosed scope.depth))

end Scope

end Superstep
