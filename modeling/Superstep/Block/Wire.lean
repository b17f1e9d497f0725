import Superstep.Block
import Superstep.Digest.Sha256
import Superstep.Json.Fields
import Superstep.Json.Text

/-!
# The exchanged form of blocks

Every block is one JSON record, with the fields of its action beside its stage and depth. The parts of
a block are records too; inside of a block their kinds may also be given by number.
-/

namespace Superstep

namespace SetOperator

def toJson : SetOperator → Json
  | .union => .text "Union"
  | .unionAll => .text "UnionAll"

def ofName? (name : String) : Option SetOperator :=
  if name = "Union" then some .union
  else if name = "UnionAll" then some .unionAll
  else none

/-- Reads an operator: its name, or a record of its name and nothing. Inside of a block nothing may
also be an empty record. -/
def ofJson? (inBlock : Bool) : Json → Option SetOperator
  | .text name => ofName? name
  | .record [(name, .null)] => ofName? name
  | .record [(name, .record [])] => if inBlock then ofName? name else none
  | _ => none

end SetOperator

namespace InsertSource

def toJson : InsertSource → Json
  | .select columns table =>
    .record [("type", .text "Select"), ("attrs", Json.texts columns), ("from", .text table)]
  | .values row => .record [("type", .text "Values"), ("values", Json.texts row)]

def kinds : List String := ["Select", "Values"]

def ofJson? (inBlock : Bool) (json : Json) : Option InsertSource := do
  let (kind, fields) ← json.variant? "type" kinds inBlock
  if kind = "Select" then
    if fields.fits 2 then return .select (← fields.texts? 0 "attrs") (← fields.text? 1 "from") else none
  else if kind = "Values" then
    if fields.fits 1 then return .values (← fields.texts? 0 "values") else none
  else none

end InsertSource

namespace LoopEnd

def toJson : LoopEnd → Json
  | .noMessage => .record [("type", .text "NoMessage")]
  | .countdown label supersteps =>
    .record [("type", .text "Countdown"), ("label", .text label), ("supersteps", .int supersteps)]

def kinds : List String := ["NoMessage", "Countdown"]

def ofJson? (inBlock : Bool) (json : Json) : Option LoopEnd := do
  let (kind, fields) ← json.variant? "type" kinds inBlock
  if kind = "NoMessage" then
    if fields.fits 0 then return .noMessage else none
  else if kind = "Countdown" then
    if fields.fits 2 then
      return .countdown (← fields.text? 0 "label") (← (← fields.get? 1 "supersteps").asInt64?)
    else none
  else none

end LoopEnd

namespace Select

def toFields (select : Select) : List (String × Json) :=
  [("attrs", Json.texts select.columns), ("target", Json.optionalText select.target),
   ("from", Json.texts select.sources), ("predicate", .text select.predicate),
   ("id_join", .bool select.idJoin), ("group_by", Json.optionalText select.groupBy)]

def fieldCount : Nat := 6

/-- Reads a select from its fields. The predicate may be left out, and is then empty. -/
def ofFields? (fields : Fields) : Option Select := do
  return {
    columns := ← fields.texts? 0 "attrs"
    target := ← fields.optionalText? 1 "target"
    sources := ← fields.texts? 2 "from"
    predicate := ← fields.textOrEmpty? 3 "predicate"
    idJoin := ← (← fields.get? 4 "id_join").asBool?
    groupBy := ← fields.optionalText? 5 "group_by" }

def ofJson? (json : Json) : Option Select := do ofFields? (← json.fields? fieldCount)

end Select

namespace SubSelect

def toJson (sub : SubSelect) : Json :=
  .record [("stage", .text sub.stage), ("depth", .int sub.depth),
    ("select", .record sub.select.toFields)]

def ofJson? (json : Json) : Option SubSelect := do
  let fields ← json.fields? 3
  return {
    stage := ← fields.text? 0 "stage"
    depth := ← (← fields.get? 1 "depth").asCount?
    select := ← Select.ofJson? (← fields.get? 2 "select") }

end SubSelect

namespace Union

def toFields (union : Union) : List (String × Json) :=
  [("attrs", Json.texts union.columns), ("target", .text union.target),
   ("lhs", union.left.toJson), ("rhs", union.right.toJson), ("op", union.operator.toJson)]

/-- Reads a union from its fields, which only stand in a block. -/
def ofFields? (fields : Fields) : Option Union := do
  return {
    columns := ← fields.texts? 0 "attrs"
    target := ← fields.text? 1 "target"
    left := ← SubSelect.ofJson? (← fields.get? 2 "lhs")
    right := ← SubSelect.ofJson? (← fields.get? 3 "rhs")
    operator := ← SetOperator.ofJson? true (← fields.get? 4 "op") }

end Union

namespace Action

def kindName : Action → String
  | .statement _ => "Statement"
  | .createTable _ _ => "CreateTable"
  | .dropTable _ => "DropTable"
  | .insert _ _ => "Insert"
  | .select _ => "SelectInto"
  | .union _ => "Union"
  | .updateVertex _ _ => "UpdateVertex"
  | .beginLoop _ _ => "BeginWhile"
  | .endLoop _ _ => "EndWhile"

def toFields : Action → List (String × Json)
  | .statement sql => [("sql", .text sql)]
  | .createTable table columns => [("table", .text table), ("columns", Json.texts columns)]
  | .dropTable table => [("table", .text table)]
  | .insert table source => [("table", .text table), ("source", source.toJson)]
  | .select query => query.toFields
  | .union pair => pair.toFields
  | .updateVertex context value => [("context", .text context), ("value", .text value)]
  | .beginLoop flagStart condition => [("flag_init", .int flagStart), ("condition", .text condition)]
  | .endLoop loopEnd artifact => [("termination", loopEnd.toJson), ("artifact", .text artifact)]

def kinds : List String :=
  ["Statement", "CreateTable", "DropTable", "Insert", "SelectInto", "Union", "UpdateVertex", "BeginWhile",
   "EndWhile"]

def ofFields? (kind : String) (fields : Fields) : Option Action := do
  if kind = "Statement" then
    if fields.fits 1 then return .statement (← fields.text? 0 "sql") else none
  else if kind = "CreateTable" then
    if fields.fits 2 then return .createTable (← fields.text? 0 "table") (← fields.texts? 1 "columns")
    else none
  else if kind = "DropTable" then
    if fields.fits 1 then return .dropTable (← fields.text? 0 "table") else none
  else if kind = "Insert" then
    if fields.fits 2 then
      return .insert (← fields.text? 0 "table") (← InsertSource.ofJson? true (← fields.get? 1 "source"))
    else none
  else if kind = "SelectInto" then
    if fields.fits Select.fieldCount then return .select (← Select.ofFields? fields) else none
  else if kind = "Union" then
    if fields.fits 5 then return .union (← Union.ofFields? fields) else none
  else if kind = "UpdateVertex" then
    if fields.fits 2 then return .updateVertex (← fields.text? 0 "context") (← fields.text? 1 "value")
    else none
  else if kind = "BeginWhile" then
    if fields.fits 2 then
      return .beginLoop (← (← fields.get? 0 "flag_init").asInt64?) (← fields.text? 1 "condition")
    else none
  else if kind = "EndWhile" then
    if fields.fits 2 then
      return .endLoop (← LoopEnd.ofJson? true (← fields.get? 0 "termination")) (← fields.text? 1 "artifact")
    else none
  else none

def ofJson? (inBlock : Bool) (json : Json) : Option Action := do
  let (kind, fields) ← json.variant? "kind" kinds inBlock
  ofFields? kind fields

end Action

namespace Block

def toJson (block : Block) : Json :=
  .record (("stage", .text block.stage) :: ("depth", .int block.depth)
    :: ("kind", .text block.action.kindName) :: block.action.toFields)

/-- Reads a block, which is always exchanged with its fields by name. -/
def ofJson? : Json → Option Block
  | .record fields => do
    return {
      stage := ← (← fields.lookup "stage").asText?
      depth := ← (← fields.lookup "depth").asCount?
      action := ← Action.ofJson? true (.record fields) }
  | _ => none

def listToJson (blocks : List Block) : Json := .list (blocks.map toJson)

def listOfJson? (json : Json) : Option (List Block) := do
  (← json.asList?).mapM ofJson?

end Block

/-- The fingerprint of a value: the digest of its compact text. -/
def Json.fingerprint (json : Json) : String := Sha256.hex json.toCompact

end Superstep
