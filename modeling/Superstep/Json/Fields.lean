import Superstep.Integer
import Superstep.Json

/-!
# Records on the wire

A record is exchanged with its fields by name, or as the list of their values in order. A record of
several kinds says its kind in a field of its own, or in the first place of the list.
-/

namespace Superstep

/-- The fields of a record as they are exchanged. -/
inductive Fields where
  | named (fields : List (String × Json))
  | listed (values : List Json)

namespace Json

def asCount? (json : Json) : Option Nat := do
  let value ← json.asInt?
  if fitsUnsigned64 value then some value.toNat else none

def asInt64? (json : Json) : Option Int := do
  let value ← json.asInt?
  if fitsSigned64 value then some value else none

/-- The fields of a record that has so many of them. By name, further fields do not matter. -/
def fields? (count : Nat) : Json → Option Fields
  | .record fields => some (.named fields)
  | .list values => if values.length = count then some (.listed values) else none
  | _ => none

/-- The kind that a value names. In some places it may also be given by its number. -/
def kind? (names : List String) (numbered : Bool) : Json → Option String
  | .text name => if names.contains name then some name else none
  | .int number => if numbered && 0 ≤ number then names[number.toNat]? else none
  | _ => none

def variant? (tag : String) (names : List String) (numbered : Bool) : Json → Option (String × Fields)
  | .record fields => do
    let kind ← (← fields.lookup tag).kind? names numbered
    return (kind, .named fields)
  | .list (first :: values) => do
    let kind ← first.kind? names numbered
    return (kind, .listed values)
  | _ => none

end Json

namespace Fields

/-- Whether a list has so many values. Named fields may be more. -/
def fits (fields : Fields) (count : Nat) : Bool :=
  match fields with
  | .named _ => true
  | .listed values => values.length = count

/-- The value of a field, by its place in the list or its name. -/
def get? (fields : Fields) (place : Nat) (name : String) : Option Json :=
  match fields with
  | .named fields => fields.lookup name
  | .listed values => values[place]?

def text? (fields : Fields) (place : Nat) (name : String) : Option String := do
  (← fields.get? place name).asText?

def texts? (fields : Fields) (place : Nat) (name : String) : Option (List String) := do
  (← fields.get? place name).asTexts?

/-- A text that may be null, or left out where fields are named. -/
def optionalText? (fields : Fields) (place : Nat) (name : String) : Option (Option String) :=
  match fields, fields.get? place name with
  | .named _, none => some none
  | .listed _, none => none
  | _, some .null => some none
  | _, some value => value.asText?.map some

/-- A text that may be left out where fields are named, and is then empty. -/
def textOrEmpty? (fields : Fields) (place : Nat) (name : String) : Option String :=
  match fields, fields.get? place name with
  | .named _, none => some ""
  | .listed _, none => none
  | _, some value => value.asText?

end Fields

end Superstep
