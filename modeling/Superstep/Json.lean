import Superstep.Decimal.Binary64

/-!
# JSON values

The values that blocks and plans are exchanged as, and their compact text. A record keeps its fields
in the order in which they were put in, because the text is hashed.
-/

namespace Superstep

inductive Json where
  | null
  | bool (value : Bool)
  | int (value : Int)
  /-- A number with a fraction or an exponent, or one that is too large for an integer. -/
  | real (value : Binary64)
  | text (value : String)
  | list (items : List Json)
  | record (fields : List (String × Json))
  deriving Repr, Inhabited

namespace Json

def field? (name : String) : Json → Option Json
  | .record fields => (fields.find? (·.1 == name)).map (·.2)
  | _ => Option.none

def asText? : Json → Option String
  | .text value => some value
  | _ => Option.none

def asBool? : Json → Option Bool
  | .bool value => some value
  | _ => Option.none

def asInt? : Json → Option Int
  | .int value => some value
  | _ => Option.none

def asList? : Json → Option (List Json)
  | .list items => some items
  | _ => Option.none

def asRecord? : Json → Option (List (String × Json))
  | .record fields => some fields
  | _ => Option.none

def texts (values : List String) : Json := .list (values.map .text)

def asTexts? (json : Json) : Option (List String) := do
  (← json.asList?).mapM asText?

def optionalText : Option String → Json
  | some value => .text value
  | Option.none => .null

end Json

end Superstep
