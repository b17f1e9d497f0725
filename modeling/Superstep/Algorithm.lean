import Superstep.Block.Wire
import Superstep.Integer
import Superstep.PlanError
import Superstep.Text.Blank
import Superstep.Text.Search

/-!
# Algorithms

A vertex-centric algorithm is given by a handful of texts. Only their outer shape is looked at here;
the expressions in them stay text.
-/

namespace Superstep

structure Algorithm where
  /-- When the loop ends. -/
  finish : String
  /-- The value that every vertex starts with. -/
  firstValue : String
  /-- The messages before the first superstep. -/
  firstMessage : String
  messageType : String
  /-- The type of vertex values, if it is not the type of messages. -/
  vertexType : Option String
  /-- The aggregate that combines the messages to a vertex. -/
  combine : String
  /-- The program that every vertex runs. -/
  update : String
  deriving DecidableEq, Repr

inductive FirstValue where
  | intMax | intMin | doubleMax | doubleMin
  | literal (text : String)
  deriving DecidableEq, Repr

def FirstValue.sql : FirstValue → String
  | .intMax => "2147483647"
  | .intMin => "-2147483648"
  | .doubleMax => "1.7976931348623157E+308"
  | .doubleMin => "2.2250738585072014E-308"
  | .literal text => text

def FirstValue.read (source : String) : FirstValue :=
  let text := Text.trimmed source
  if text = "INT_MAX" then .intMax
  else if text = "INT_MIN" then .intMin
  else if text = "DBL_MAX" then .doubleMax
  else if text = "DBL_MIN" then .doubleMin
  else .literal text

inductive FirstMessage where
  /-- Every vertex has one. -/
  | allVertices (value : String)
  /-- One vertex has one. -/
  | single (id value : String)
  deriving DecidableEq, Repr

/-- A call `name(arguments)` cut in two, without blanks around either part. What follows the last
closing parenthesis does not matter. -/
def Text.call? (text : List Char) : Option (List Char × List Char) := do
  let (name, afterOpen) ← cutFirst '(' text
  let (arguments, _) ← cutLast ')' afterOpen
  return (trim name, trim arguments)

def Text.digitsValue (digits : List Char) : Nat :=
  digits.foldl (fun value digit => 10 * value + (digit.toNat - '0'.toNat)) 0

/-- A signed decimal number of sixty-four bits. The sign may be left out. -/
def Text.int64? (text : List Char) : Option Int :=
  let (negative, digits) :=
    match text with
    | '-' :: digits => (true, digits)
    | '+' :: digits => (false, digits)
    | digits => (false, digits)
  if digits.isEmpty || !digits.all Char.isDigit then none
  else
    let value : Int := if negative then -(digitsValue digits) else digitsValue digits
    if fitsSigned64 value then some value else none

namespace Algorithm

def valueType (algorithm : Algorithm) : String := algorithm.vertexType.getD algorithm.messageType

def required (options : List (String × String)) (key : OptionKey) : Except PlanError String :=
  match options.lookup key.name with
  | some value => .ok value
  | none => .error (.missingOption key)

/-- The algorithm that a map of options describes. The first option that is missing is reported, and
options that are not known are passed over. -/
def ofOptions (options : List (String × String)) : Except PlanError Algorithm := do
  let finish ← required options .loopEnd
  let firstValue ← required options .firstValue
  let firstMessage ← required options .firstMessage
  let messageType ← required options .messageType
  let combine ← required options .combine
  let update ← required options .update
  return {
    finish, firstValue, firstMessage, messageType
    vertexType := options.lookup OptionKey.vertexType.name
    combine, update }

def toJson (algorithm : Algorithm) : Json :=
  let vertexType :=
    match algorithm.vertexType with
    | some text => [(OptionKey.vertexType.name, Json.text text)]
    | none => []
  .record ([(OptionKey.loopEnd.name, .text algorithm.finish),
      (OptionKey.firstValue.name, .text algorithm.firstValue),
      (OptionKey.firstMessage.name, .text algorithm.firstMessage),
      (OptionKey.messageType.name, .text algorithm.messageType)]
    ++ vertexType
    ++ [(OptionKey.combine.name, .text algorithm.combine),
      (OptionKey.update.name, .text algorithm.update)])

def ofJson? (json : Json) : Option Algorithm := do
  let fields ← json.fields? 7
  return {
    finish := ← fields.text? 0 OptionKey.loopEnd.name
    firstValue := ← fields.text? 1 OptionKey.firstValue.name
    firstMessage := ← fields.text? 2 OptionKey.firstMessage.name
    messageType := ← fields.text? 3 OptionKey.messageType.name
    vertexType := ← fields.optionalText? 4 OptionKey.vertexType.name
    combine := ← fields.text? 5 OptionKey.combine.name
    update := ← fields.text? 6 OptionKey.update.name }

def startValue (algorithm : Algorithm) : FirstValue := FirstValue.read algorithm.firstValue

/-- When the loop ends: `NO_MESSAGE`, or a call whose second argument is the number of supersteps. -/
def loopEnd (algorithm : Algorithm) : Except PlanError LoopEnd :=
  let text := Text.trim algorithm.finish.toList
  if text = "NO_MESSAGE".toList then .ok .noMessage
  else
    match Text.call? text with
    | none => .error (.invalidOption .loopEndShape)
    | some (label, arguments) =>
      match (Text.pieces ',' arguments)[1]? with
      | none => .error (.invalidOption .superstepsMissing)
      | some count =>
        match Text.int64? (Text.trim count) with
        | none => .error (.invalidOption .superstepsNotInteger)
        | some supersteps => .ok (.countdown (String.ofList label) supersteps)

/-- The messages before the first superstep: a vertex, or `ALL`, and a value, bare or as the arguments
of a call. -/
def startMessage (algorithm : Algorithm) : Except PlanError FirstMessage :=
  let text := Text.trim algorithm.firstMessage.toList
  let arguments := ((Text.call? text).map (·.2)).getD text
  match (Text.pieces ',' arguments).map Text.trim with
  | [id, value] =>
    if id.isEmpty || value.isEmpty then .error (.invalidOption .firstMessageShape)
    else if id = "ALL".toList then .ok (.allVertices (String.ofList value))
    else .ok (.single (String.ofList id) (String.ofList value))
  | _ => .error (.invalidOption .firstMessageShape)

/-- Whether the program has the name of a table anywhere in its text. -/
def mentions (algorithm : Algorithm) (table : String) : Bool := Text.mentions algorithm.update table

end Algorithm

end Superstep
