import Superstep.Table

/-!
# Blocks

The nine kinds of block that a plan is made of. Blocks run in order. A pair of loop blocks encloses
the blocks of one superstep.
-/

namespace Superstep

inductive SetOperator where
  | union
  | unionAll
  deriving DecidableEq, Repr

inductive InsertSource where
  /-- Columns selected from one table. -/
  | select (columns : List String) (table : String)
  /-- One row of values. -/
  | values (row : List String)
  deriving DecidableEq, Repr

inductive LoopEnd where
  /-- When no messages are left. -/
  | noMessage
  /-- After a fixed number of supersteps. -/
  | countdown (label : String) (supersteps : Int)
  deriving DecidableEq, Repr

/-- What the loop variable starts from: the number of supersteps, or minus one if there is none. -/
def LoopEnd.flagStart : LoopEnd → Int
  | .noMessage => -1
  | .countdown _ supersteps => supersteps

/-- A select. With `idJoin` the tables of `sources` that are keyed by vertex are joined on `id`. -/
structure Select where
  columns : List String
  target : Option String
  sources : List String
  predicate : String
  idJoin : Bool
  groupBy : Option String
  deriving DecidableEq, Repr

/-- One side of a union: a select without a table of its own. -/
structure SubSelect where
  stage : String
  depth : Nat
  select : Select
  deriving DecidableEq, Repr

structure Union where
  columns : List String
  target : String
  left : SubSelect
  right : SubSelect
  operator : SetOperator
  deriving DecidableEq, Repr

inductive Action where
  /-- SQL as it is written. -/
  | statement (sql : String)
  | createTable (table : String) (columns : List String)
  | dropTable (table : String)
  | insert (table : String) (source : InsertSource)
  | select (query : Select)
  | union (pair : Union)
  /-- The vertices in `context` get a new value. -/
  | updateVertex (context value : String)
  | beginLoop (flagStart : Int) (condition : String)
  /-- Closes the loop. `artifact` is the table that is looked at to see whether it goes on. -/
  | endLoop (loopEnd : LoopEnd) (artifact : String)
  deriving DecidableEq, Repr

/-- A block: an action, the step that produced it, and its depth in loops. -/
structure Block where
  stage : String
  depth : Nat
  action : Action
  deriving DecidableEq, Repr

namespace Block

def loopFlag : String := "flag"

/-- The table that a block writes, if it writes one. -/
def target? (block : Block) : Option String :=
  match block.action with
  | .createTable table _ | .insert table _ => some table
  | .select query => query.target
  | .union pair => some pair.target
  | .updateVertex _ _ => some Table.values
  | .statement _ | .dropTable _ | .beginLoop _ _ | .endLoop _ _ => none

/-- For how many descriptors a block counts: a union counts for itself and its two sides. -/
def descriptorCount (block : Block) : Nat :=
  match block.action with
  | .union _ => 3
  | _ => 1

end Block

end Superstep
