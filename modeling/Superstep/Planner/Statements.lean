import Superstep.Direction
import Superstep.Planner.State
import Superstep.Statement.Read

/-!
# Planning the statements of a program

Every statement becomes at most one block. A condition is a table, so nothing is decided while
planning: an `if` only changes the context of the statements in it.
-/

namespace Superstep.Planner

/-- Joins tables on `id` into `target`, with the id of the first of them and the value of `valueSource`. -/
def join (target : String) (tables : List String) (predicate valueSource : String) : Planner Unit := do
  match tables with
  | [] => throw (.noTable ("join into " ++ target))
  | first :: _ =>
    emit "join" (.select {
      columns := [first ++ ".id AS id", valueSource ++ ".val AS val"]
      target := some target
      sources := tables
      predicate := predicate
      idJoin := true
      groupBy := none })
    create target

/-- Opens an `if`. At the top its condition is the context; further in, the context is intersected with
the condition in a fresh table. -/
def enterScope (condition : String) : Planner Unit := do
  if Table.isBase condition then throw (.reservedTable condition)
  checkAllLive [condition]
  let scope := (← get).scope
  if scope.isDefault then
    modify fun state => { state with scope := state.scope.push condition }
  else
    let target ← freshName
    join target [scope.current, condition] "" condition
    modify fun state => { state with scope := state.scope.push target }

def leaveScope : Planner Unit := do
  let scope ← check (← get).scope.leave
  modify fun state => { state with scope }

/-- `setVal(value)`: the vertices in the context get a new value. The value is cut into lexemes twice:
for the tables that it reads, and behind the block for the setting. -/
def setValue (value : String) : Planner Unit := do
  let context ← context
  let filled := Expression.fillPlaceholders value context
  let read ← scan filled
  checkAllLive read.referencedTables
  emit "setVal" (.updateVertex context filled)
  let carried ← scan filled
  setting "setValContext" context
  setting "setValNewVal" (carried.repoint Table.combined Table.values)
  setting "isSender" (if context = Table.combined then "all" else "notAll")

/-- What the selects of one send have in common. -/
structure Sending where
  context : String
  content : String
  sources : List String
  /-- The conditions that join the degree tables. -/
  degreeJoin : String
  deriving DecidableEq, Repr

namespace Sending

/-- Adds a degree table if the content has its name in its text. -/
def addCounts (sending : Sending) (counts : String) : Sending :=
  if Text.mentions sending.content counts then
    { sending with
      sources := addNew sending.sources counts
      degreeJoin := sending.degreeJoin ++ " AND " ++ counts ++ ".id = " ++ sending.context ++ ".id" }
  else sending

def plan (context content : String) (referenced : List String) : Sending :=
  let sources := addNew referenced context ++ [Table.edge]
  (Sending.mk context content sources "").addCounts Table.outCounts |>.addCounts Table.inCounts

theorem addCounts_context (sending : Sending) (counts : String) :
    (sending.addCounts counts).context = sending.context := by
  unfold addCounts
  split <;> rfl

theorem addCounts_content (sending : Sending) (counts : String) :
    (sending.addCounts counts).content = sending.content := by
  unfold addCounts
  split <;> rfl

theorem plan_context (context content : String) (referenced : List String) :
    (plan context content referenced).context = context := by
  rw [plan, addCounts_context, addCounts_context]

theorem plan_content (context content : String) (referenced : List String) :
    (plan context content referenced).content = content := by
  rw [plan, addCounts_content, addCounts_content]

/-- The select that produces one message row for each recipient. -/
def select (sending : Sending) (recipient sender : String) (target : Option String) : Select where
  columns := [Table.edge ++ "." ++ recipient ++ " AS id", sending.content ++ " AS val"]
  target := target
  sources := sending.sources
  predicate :=
    Table.edge ++ "." ++ sender ++ " = " ++ sending.context ++ ".id" ++ sending.degreeJoin
  idJoin := true
  groupBy := some recipient

/-- Messages to the sources of the edges that enter the sender. -/
def incoming (sending : Sending) (target : Option String) : Select := sending.select "src" "dest" target

/-- Messages to the destinations of the edges that leave the sender. -/
def outgoing (sending : Sending) (target : Option String) : Select := sending.select "dest" "src" target

/-- The action that produces the messages, if there are any. -/
def action? (sending : Sending) (listing : Listing) : Direction → Option Action
  | .incoming => some (.select (sending.incoming (some Table.message)))
  | .outgoing => some (.select (sending.outgoing (some Table.message)))
  | .both => some (.union {
      columns := ["*"]
      target := Table.message
      left := listing.subSelect "genMsg0" (sending.incoming none)
      right := listing.subSelect "genMsg1" (sending.outgoing none)
      operator := .unionAll })
  | .none => none

end Sending

/-- Plans the messages of one send, whose content has its placeholders filled in. The message table
counts as created whatever the direction. -/
def sendMessages (direction : Direction) (content : String) : Planner Unit := do
  let context ← context
  let scanned ← scan content
  let referenced := scanned.referencedTables
  checkAllLive referenced
  modify fun state => { state with senders := referenced.foldl (fun set t => insertText t set) state.senders }
  match (Sending.plan context content referenced).action? (← get).listing direction with
  | some action => emit "sendMsg" action
  | none => pure ()
  create Table.message
  setting "contentStr" content

def send (direction content : String) : Planner Unit := do
  let way ← check ((Direction.read direction).mapError .unknownDirection)
  setting "msgDir" way.text
  setting "SendMsgDir" way.text
  sendMessages way (Expression.fillPlaceholders content (← context))

/-- The table that a new table takes its rows from: outside every `if` the only table that is read, and
otherwise the context. -/
def rowSource (scope : Scope) : List String → String
  | [only] => if scope.isDefault then only else scope.current
  | _ => scope.current

/-- `target = expression`: the vertices in the context that satisfy the expression become a table. -/
def assign (target expression : String) : Planner Unit := do
  if Table.isReserved target then throw (.reservedTable target)
  let scope := (← get).scope
  let filled := Expression.fillPlaceholders expression scope.current
  let tables := (← scan filled).referencedTables
  if tables.isEmpty then throw (.noTable filled)
  checkAllLive tables
  let source := rowSource scope tables
  emit "genVar" (.select {
    columns := [source ++ ".id AS id", source ++ ".val AS val"]
    target := some target
    sources := addNew tables source
    predicate := filled
    idJoin := true
    groupBy := none })
  create target

def statement : Statement → Planner Unit
  | .beginIf condition => enterScope condition
  | .setValue value => setValue value
  | .send direction content => send direction content
  | .endIf => leaveScope
  | .assign target expression => assign target expression

def statements : List Statement → Planner Unit
  | [] => pure ()
  | first :: others => do
    statement first
    statements others

/-- Plans a program. All its lines are read before the first is planned. -/
def program (source : String) : Planner Unit := do
  let lines ← check ((Program.read source).mapError .malformed)
  statements (lines.map (·.statement))
  check (← get).scope.finish

end Superstep.Planner
