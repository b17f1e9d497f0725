import Superstep.PlanError
import Superstep.Table

/-!
# The working set

The tables that exist at some point of a superstep, in the order of their creation. Every table has one
writer, except that a protected table may be written again. Tables that stand for intermediate results
get fresh names, numbered in order and never those of a table that exists.
-/

namespace Superstep

/-- The tables that exist, oldest first. -/
structure WorkingSet where
  live : List String := []
  deriving DecidableEq, Repr

namespace WorkingSet

def contains (tables : WorkingSet) (table : String) : Bool := tables.live.contains table

/-- Adds a table. A table that exists can only be created again if it is protected. -/
def create (tables : WorkingSet) (table : String) : Except PlanError WorkingSet :=
  if tables.contains table then
    if Table.isProtected table then .ok tables else .error (.tableRedefined table)
  else .ok ⟨tables.live ++ [table]⟩

def remove (tables : WorkingSet) (table : String) : WorkingSet := ⟨tables.live.filter (· ≠ table)⟩

/-- Whether a table can be read: it exists, or belongs to the input graph. -/
def isReadable (tables : WorkingSet) (table : String) : Bool :=
  tables.contains table || Table.isBase table

def checkLive (tables : WorkingSet) (table : String) : Except PlanError Unit :=
  if tables.isReadable table then .ok () else .error (.unknownTable table)

/-- Refuses the first table of a list that cannot be read. -/
def checkAllLive (tables : WorkingSet) : List String → Except PlanError Unit
  | [] => .ok ()
  | table :: others => do
    tables.checkLive table
    tables.checkAllLive others

/-- The tables that do not outlive a superstep, oldest first. -/
def transient (tables : WorkingSet) : List String :=
  tables.live.filter (!Table.isProtected ·)

def dropTransient (tables : WorkingSet) : WorkingSet := ⟨tables.live.filter Table.isProtected⟩

end WorkingSet

/-- A source of names: a stem and the number of the next name. -/
structure FreshNames where
  stem : String := "scope_"
  counter : Nat := 0
  deriving DecidableEq, Repr

namespace FreshNames

def name (names : FreshNames) (number : Nat) : String := names.stem ++ toString number

/-- The numbers that are passed over because their names exist. One more number than there are tables
always has a name that does not exist. -/
def skipped (names : FreshNames) (tables : WorkingSet) : List Nat :=
  (List.range' names.counter (tables.live.length + 1)).takeWhile fun number =>
    tables.contains (names.name number)

def next (names : FreshNames) (tables : WorkingSet) : String × FreshNames :=
  let number := names.counter + (names.skipped tables).length
  (names.name number, { names with counter := number + 1 })

end FreshNames

end Superstep
