import Superstep.Block
import Superstep.Text.Blank

/-!
# Blocks as SQL

A list of blocks becomes one anonymous program: the loop variable is declared at its head, and every
block gives its own lines. The list has to be well bracketed, every select outside a union has to name
its table, and no line may lie deeper than a text can be indented.
-/

namespace Superstep

/-- What keeps a list of blocks from being a program. -/
inductive SqlError where
  /-- A loop ends that was never begun. -/
  | unbalancedLoop (stage : String)
  /-- A loop is begun and never ended. -/
  | unclosedLoop
  /-- A select outside a union has no table to go to. -/
  | anonymousSelect (stage : String)
  /-- The blanks in front of a line are more than a text can hold. Nothing is reported then: the run
  stops. -/
  | tooDeep
  deriving DecidableEq, Repr

def SqlError.message : SqlError → String
  | .unbalancedLoop stage => "Loop end without matching loop begin (stage " ++ stage ++ ")"
  | .unclosedLoop => "Loop opened but never closed"
  | .anonymousSelect stage => "Top-level select has no target table (stage " ++ stage ++ ")"
  | .tooDeep => "capacity overflow"

/-- A line of the program, at some level of indentation. A text of several lines is indented once. -/
structure SqlLine where
  level : Nat
  text : String
  deriving DecidableEq, Repr

/-- The line as it is written: four blanks for each level. -/
def SqlLine.written (line : SqlLine) : String :=
  String.ofList (List.replicate (4 * line.level) ' ') ++ line.text ++ "\n"

/-- The deepest level of a line, `2 ^ 61 - 1`: at four blanks a level, the blanks are fewer than the
`2 ^ 63` bytes that no text has. Whether a machine has memory for so many is left aside, and a level
that does not fit in sixty-four bits counts as too deep. -/
def SqlLine.maxLevel : Nat := 0x1FFFFFFFFFFFFFFF

def commaList (items : List String) : String := String.intercalate ", " items

def SetOperator.sql : SetOperator → String
  | .union => "UNION"
  | .unionAll => "UNION ALL"

def InsertSource.sql : InsertSource → String
  | .select columns table => "SELECT " ++ commaList columns ++ " FROM " ++ table
  | .values row => "VALUES (" ++ commaList row ++ ")"

namespace Select

/-- The equations that join every table keyed by vertex with the first of them. -/
def idEquations (select : Select) : List String :=
  if select.idJoin then
    match select.sources.filter (· ≠ Table.edge) with
    | [] => []
    | first :: others => others.map fun other => first ++ ".id = " ++ other ++ ".id"
  else []

/-- All conditions: the equations, then the predicate unless it is blank. -/
def conditions (select : Select) : List String :=
  let predicate := Text.trimmed select.predicate
  select.idEquations ++ (if predicate.isEmpty then [] else [predicate])

def whereClause (select : Select) : String :=
  match select.conditions with
  | [] => ""
  | conditions => " WHERE " ++ String.intercalate " AND " conditions

/-- The select without its table. -/
def sql (select : Select) : String :=
  "SELECT " ++ commaList select.columns
    ++ (if select.sources.isEmpty then "" else " FROM " ++ commaList select.sources)
    ++ select.whereClause
    ++ (match select.groupBy with
        | none => ""
        | some column => " GROUP BY " ++ column)

end Select

namespace Block

/-- What the loop does to its variable before it is tested again. -/
def flagUpdate (loopEnd : LoopEnd) (artifact : String) : String :=
  match loopEnd with
  | .noMessage => "SELECT COUNT(*) INTO " ++ loopFlag ++ " FROM " ++ artifact ++ ";"
  | .countdown _ _ => loopFlag ++ " := " ++ loopFlag ++ " - 1;"

def sqlLines (block : Block) : List SqlLine :=
  let level := block.depth + 1
  match block.action with
  | .statement sql => [⟨level, sql⟩]
  | .createTable table columns => [⟨level, "CREATE TABLE " ++ table ++ " (" ++ commaList columns ++ ");"⟩]
  | .dropTable table => [⟨level, "DROP TABLE IF EXISTS " ++ table ++ ";"⟩]
  | .insert table source => [⟨level, "INSERT INTO " ++ table ++ " " ++ source.sql ++ ";"⟩]
  | .select select =>
    match select.target with
    | some target => [⟨level, "CREATE TABLE " ++ target ++ " AS " ++ select.sql ++ ";"⟩]
    | none => []
  | .union union =>
    [⟨level, "CREATE TABLE " ++ union.target ++ " AS SELECT " ++ commaList union.columns ++ " FROM ("⟩,
     ⟨union.left.depth + 1, union.left.select.sql⟩,
     ⟨union.left.depth + 1, union.operator.sql⟩,
     ⟨union.right.depth + 1, union.right.select.sql⟩,
     ⟨level, ") AS combined;"⟩]
  | .updateVertex context value =>
    [⟨level, "UPDATE " ++ Table.values ++ " SET val = " ++ value ++ " FROM " ++ context
      ++ " WHERE " ++ Table.values ++ ".id = " ++ context ++ ".id;"⟩]
  | .beginLoop _ condition => [⟨level, "WHILE " ++ condition ++ " LOOP"⟩]
  | .endLoop loopEnd artifact => [⟨level + 1, flagUpdate loopEnd artifact⟩, ⟨level, "END LOOP;"⟩]

/-- What a block needs declared: the loop variable with the value it starts from. -/
def declaration? (block : Block) : Option String :=
  match block.action with
  | .beginLoop flagStart _ => some (loopFlag ++ " integer := " ++ toString flagStart ++ ";")
  | _ => none

/-- Checks a list of blocks that stands inside a number of open loops. The first block that is wrong
decides. The blanks of a block are made before it is looked at, and those of the lines nested in it
only where these are written. -/
def checkFrom : Nat → List Block → Except SqlError Unit
  | 0, [] => .ok ()
  | _ + 1, [] => .error .unclosedLoop
  | openLoops, block :: blocks =>
    if SqlLine.maxLevel < block.depth + 1 then .error .tooDeep
    else
      match block.action with
      | .beginLoop _ _ => checkFrom (openLoops + 1) blocks
      | .endLoop _ _ =>
        match openLoops with
        | 0 => .error (.unbalancedLoop block.stage)
        | outer + 1 =>
          if SqlLine.maxLevel < block.depth + 2 then .error .tooDeep else checkFrom outer blocks
      | .select select =>
        if select.target.isNone then .error (.anonymousSelect block.stage)
        else checkFrom openLoops blocks
      | .union union =>
        if SqlLine.maxLevel < max union.left.depth union.right.depth + 1 then .error .tooDeep
        else checkFrom openLoops blocks
      | _ => checkFrom openLoops blocks

/-- The declarations at the head of the program, each once. -/
def declarations (blocks : List Block) : List String :=
  (blocks.filterMap declaration?).eraseDups

/-- The text of a program whose blocks have been checked. -/
def programText (blocks : List Block) : String :=
  let declared := declarations blocks
  "DO $$\n"
    ++ (if declared.isEmpty then ""
        else "DECLARE\n" ++ String.join (declared.map fun text => SqlLine.written ⟨1, text⟩))
    ++ "BEGIN\n"
    ++ String.join ((blocks.flatMap sqlLines).map SqlLine.written)
    ++ "END $$;\n"

/-- The program for a list of blocks. -/
def program (blocks : List Block) : Except SqlError String := do
  checkFrom 0 blocks
  return programText blocks

end Block

end Superstep
