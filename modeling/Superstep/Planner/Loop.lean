import Superstep.Algorithm
import Superstep.Planner.Statements

/-!
# Planning an algorithm

The program of an algorithm creates its tables, then repeats one superstep in a loop: the messages are
combined and consumed, the statements run, and the tables of the superstep are dropped.
-/

namespace Superstep.Planner

def drop (stage table : String) : Planner Unit := emit stage (.dropTable table)

/-- Counts the edges of each vertex, those that enter it or those that leave it. -/
def countEdges (incoming : Bool) : Planner Unit := do
  let (table, key, counted) :=
    if incoming then (Table.inCounts, "dest", "src") else (Table.outCounts, "src", "dest")
  emit "genCnt" (.select {
    columns := [key ++ " AS id", "COUNT(" ++ counted ++ ") AS cnt"]
    target := some table
    sources := [Table.edge]
    predicate := ""
    idJoin := false
    groupBy := some key })
  create table

def cast (value type : String) : String := "CAST(" ++ value ++ " AS " ++ type ++ ")"

def firstRows (message : FirstMessage) (type : String) : InsertSource :=
  match message with
  | .allVertices value => .select ["id", cast value type] Table.vertex
  | .single id value => .values [id, cast value type]

/-- Creates the tables that exist before the first superstep. -/
def init (algorithm : Algorithm) : Planner Unit := do
  drop "initdropcur" Table.combined
  drop "initdropmsg" Table.message
  drop "initdropnext" Table.values
  drop "initdropoutcnts" Table.outCounts
  emit "copyVertex" (.select {
    columns := ["id AS id", cast algorithm.startValue.sql algorithm.valueType ++ " AS val"]
    target := some Table.values
    sources := [Table.vertex]
    predicate := ""
    idJoin := false
    groupBy := none })
  create Table.values
  emit "createMsg" (.createTable Table.message ["id int", "val " ++ algorithm.messageType])
  create Table.message
  let message ← check algorithm.startMessage
  emit "initMsg" (.insert Table.message (firstRows message algorithm.messageType))
  if algorithm.mentions Table.inCounts then
    drop "initdropincnts" Table.inCounts
    countEdges true
  if algorithm.mentions Table.outCounts then
    countEdges false

def beginLoop (loopEnd : LoopEnd) : Planner Unit := do
  emit "beginWhile" (.beginLoop loopEnd.flagStart (Block.loopFlag ++ " != 0"))
  modify fun state => { state with listing := state.listing.enterLoop }

/-- One superstep: the messages are combined and dropped, then the program runs. -/
def superstep (algorithm : Algorithm) : Planner Unit := do
  let aggregate := (← scan algorithm.combine).qualify Table.message "val"
  emit "combineMsg" (.select {
    columns := [Table.message ++ ".id AS id", aggregate ++ " AS val"]
    target := some Table.combined
    sources := [Table.message]
    predicate := ""
    idJoin := false
    groupBy := some "id" })
  setting "aggFunc" aggregate
  create Table.combined
  drop ("drop" ++ Table.message) Table.message
  modify fun state => { state with tables := state.tables.remove Table.message }
  program algorithm.update

def dropAll : List String → Planner Unit
  | [] => pure ()
  | table :: others => do
    drop ("drop" ++ table) table
    dropAll others

def endLoop (loopEnd : LoopEnd) : Planner Unit := do
  let tables := (← get).tables
  modify fun state => { state with tables := tables.dropTransient }
  dropAll tables.transient
  modify fun state => { state with listing := state.listing.leaveLoop }
  emit "endWhile" (.endLoop loopEnd Table.message)

/-- Plans a whole algorithm whose loop ends in a given way. -/
def algorithm (algorithm : Algorithm) (loopEnd : LoopEnd) : Planner Unit := do
  init algorithm
  beginLoop loopEnd
  superstep algorithm
  endLoop loopEnd

end Superstep.Planner

namespace Superstep

/-- The plan of an algorithm. Tables for intermediate results take their names from `names`. -/
def Algorithm.plan (algorithm : Algorithm) (names : FreshNames) : Except PlanError Plan := do
  let loopEnd ← algorithm.loopEnd
  match (Planner.algorithm algorithm loopEnd).run { names } with
  | .ok _ state => .ok state.plan
  | .error error _ => .error error

end Superstep
