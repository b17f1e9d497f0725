import Superstep.Expression
import Superstep.Plan
import Superstep.Scope
import Superstep.WorkingSet

/-!
# The state of planning

Planning walks once over a program. Each step reads and changes the state and may fail; a step that
fails leaves the state as far as it got.
-/

namespace Superstep

/-- The blocks so far, in order, and the number of loops around the next one. -/
structure Listing where
  blocks : List Block := []
  depth : Nat := 0
  deriving DecidableEq, Repr

namespace Listing

def emit (listing : Listing) (stage : String) (action : Action) : Listing :=
  { listing with blocks := listing.blocks ++ [⟨stage, listing.depth, action⟩] }

/-- A side of a union, one deeper than the current depth. -/
def subSelect (listing : Listing) (stage : String) (select : Select) : SubSelect :=
  ⟨stage, listing.depth + 1, select⟩

def enterLoop (listing : Listing) : Listing := { listing with depth := listing.depth + 1 }

/-- Leaves a loop. Outside every loop this does nothing. -/
def leaveLoop (listing : Listing) : Listing := { listing with depth := listing.depth - 1 }

end Listing

structure PlanState where
  listing : Listing := {}
  tables : WorkingSet := {}
  scope : Scope := {}
  /-- The tables whose values have been sent, sorted. -/
  senders : List String := []
  settings : Settings := {}
  names : FreshNames := {}
  deriving DecidableEq, Repr

def PlanState.plan (state : PlanState) : Plan :=
  ⟨state.listing.blocks, state.settings, state.senders⟩

abbrev Planner := EStateM PlanError PlanState

namespace Planner

/-- A check that does not touch the state. -/
def check {α : Type} : Except PlanError α → Planner α
  | .ok value => pure value
  | .error error => throw error

def context : Planner String := do return (← get).scope.current

def emit (stage : String) (action : Action) : Planner Unit :=
  modify fun state => { state with listing := state.listing.emit stage action }

def create (table : String) : Planner Unit := do
  let tables ← check ((← get).tables.create table)
  modify fun state => { state with tables }

def checkAllLive (tables : List String) : Planner Unit := do
  check ((← get).tables.checkAllLive tables)

def setting (key value : String) : Planner Unit :=
  modify fun state => { state with settings := state.settings.set key value }

def scan (expression : String) : Planner Scanned :=
  check ((Expression.scan expression).mapError .unreadable)

/-- A name that no table has. -/
def freshName : Planner String :=
  modifyGet fun state =>
    let (name, names) := state.names.next state.tables
    (name, { state with names })

end Planner

end Superstep
