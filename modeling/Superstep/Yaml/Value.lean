import Superstep.Decimal.Layout
import Superstep.Decimal.Read
import Superstep.Integer
import Superstep.Text.Quoted
import Superstep.Yaml.Document

/-!
# The values of YAML nodes

A plain scalar can be a null, a truth value or a number; every other scalar is text, unless a tag says
what it is. Values are also described in messages, for which every kind of value has its own form.
-/

namespace Superstep.Yaml

/-- A number with a fraction or an exponent, and the numbers that are none. -/
inductive Real where
  | finite (number : Binary64)
  | infinity (negative : Bool)
  | notANumber
  deriving DecidableEq, Repr

inductive Value where
  | null
  | bool (value : Bool)
  | integer (value : Int)
  | real (value : Real)
  | text (value : String)
  | sequence (items : List Value)
  | mapping (entries : List (Value × Value))
  /-- A value with a tag of the author's own. -/
  | tagged (name : String) (value : Value)
  deriving Repr, Inhabited

namespace Scalar

/-- Zeros before other digits, as in `007`: such a scalar is text. -/
def isPaddedDigits (text : List Char) : Bool :=
  let digits := match text with
    | '-' :: cs | '+' :: cs => cs
    | cs => cs
  digits.length > 1 && digits.head? == some '0' && digits.all Char.isDigit

/-- The magnitude of an integer without its sign: decimal, or in the base that a zero and a letter
name. -/
def magnitude? (digits : List Char) : Option Nat :=
  let based := match digits with
    | '0' :: 'x' :: cs => Text.natural? 16 cs
    | '0' :: 'o' :: cs => Text.natural? 8 cs
    | '0' :: 'b' :: cs => Text.natural? 2 cs
    | _ => none
  based.or (Text.natural? 10 digits)

def integer? (text : List Char) : Option Int :=
  if isPaddedDigits text then none
  else
    match text with
    | '-' :: digits => (magnitude? digits).map fun n => -(n : Int)
    | '+' :: digits => (magnitude? digits).map fun n => (n : Int)
    | digits => (magnitude? digits).map fun n => (n : Int)

/-- A number with a fraction or an exponent, or one of the words for numbers that are not finite. -/
def real? (text : List Char) : Option Real :=
  let word := String.ofList text
  if [".inf", ".Inf", ".INF", "+.inf", "+.Inf", "+.INF"].contains word then some (.infinity false)
  else if ["-.inf", "-.Inf", "-.INF"].contains word then some (.infinity true)
  else if [".nan", ".NaN", ".NAN"].contains word then some .notANumber
  else (Binary64.ofText? text).map .finite

def isNull (text : String) : Bool := ["~", "null", "Null", "NULL"].contains text

def bool? (text : String) : Option Bool :=
  if ["true", "True", "TRUE"].contains text then some true
  else if ["false", "False", "FALSE"].contains text then some false
  else none

/-- What a plain scalar says. -/
inductive Meaning where
  | value (value : Value)
  /-- An integer of up to a hundred and twenty-eight bits that does not fit in sixty-four. -/
  | oversized

/-- The meaning of an integer, unless it has more than a hundred and twenty-eight bits. -/
def integerMeaning? (n : Int) : Option Meaning :=
  if fitsSigned64 n || fitsUnsigned64 n then some (.value (.integer n))
  else if fits128 n then some .oversized
  else none

def meaning (text : String) : Meaning :=
  if text.isEmpty || isNull text then .value .null
  else
    match bool? text, (integer? text.toList).bind integerMeaning? with
    | some value, _ => .value (.bool value)
    | none, some meaning => meaning
    | none, none =>
      let value := if isPaddedDigits text.toList then none else real? text.toList
      match value with
      | some value => .value (.real value)
      | none => .value (.text text)

/-- The value of a scalar without a tag, unless it is an integer that is too large. -/
def plainValue? (style : Style) (text : String) : Option Value :=
  if style = .plain then
    match meaning text with
    | .value value => some value
    | .oversized => none
  else some (.text text)

/-- The name of a tag of the author's own, such as `!name`. -/
def ownTag? (tag : String) : Option String :=
  match tag.toList with
  | '!' :: name => some (String.ofList name)
  | _ => none

/-- The name by which an author's tag is known. One more exclamation mark before it says nothing. -/
def tagName (name : String) : String :=
  match name.toList with
  | '!' :: c :: cs => String.ofList (c :: cs)
  | _ => name

/-- A value under an author's tag, which has to have a name. -/
def underTag? (name : String) (value : Value) : Option Value :=
  if name.isEmpty then none else some (.tagged (tagName name) value)

/-- The tags that say what a scalar is. -/
def boolTag : String := "tag:yaml.org,2002:bool"
@[inherit_doc boolTag] def integerTag : String := "tag:yaml.org,2002:int"
@[inherit_doc boolTag] def realTag : String := "tag:yaml.org,2002:float"
@[inherit_doc boolTag] def nullTag : String := "tag:yaml.org,2002:null"

/-- The value of a scalar. One that is not what its tag says is refused, and under any other tag it is
text. -/
def value? (tag : Option String) (style : Style) (text : String) : Option Value :=
  match tag with
  | none => plainValue? style text
  | some tag =>
    match ownTag? tag with
    | some name => (plainValue? style text).bind (underTag? name)
    | none =>
      if tag = boolTag then (bool? text).map .bool
      else if tag = integerTag then
        match (integer? text.toList).bind integerMeaning? with
        | some (.value value) => some value
        | _ => none
      else if tag = realTag then (real? text.toList).map .real
      else if tag = nullTag then (if isNull text then some .null else none)
      else some (.text text)

end Scalar

/-- Whether two numbers are equal. Both zeros are, and a number that is none equals itself. -/
def Real.isSame : Real → Real → Bool
  | .finite number, .finite other =>
    number = other || (number.mantissa = 0 && other.mantissa = 0)
  | number, other => number = other

def Real.text : Real → String
  | .finite number => DecimalLayout.standard.text number
  | .infinity negative => if negative then "-.inf" else ".inf"
  | .notANumber => ".nan"

namespace Value

mutual

def describe : Value → String
  | .null => "Null"
  | .bool value => "Bool(" ++ (if value then "true" else "false") ++ ")"
  | .integer value => "Number(" ++ toString value ++ ")"
  | .real value => "Number(" ++ value.text ++ ")"
  | .text value => "String(" ++ Text.quoted value ++ ")"
  | .sequence items => "Sequence [" ++ String.intercalate ", " (describeItems items) ++ "]"
  | .mapping entries => "Mapping \x7b" ++ String.intercalate ", " (describeEntries entries) ++ "\x7d"
  | .tagged name value => "TaggedValue \x7b tag: !" ++ name ++ ", value: " ++ describe value ++ " \x7d"

def describeItems : List Value → List String
  | [] => []
  | item :: items => describe item :: describeItems items

def describeEntries : List (Value × Value) → List String
  | [] => []
  | (key, value) :: entries => (describeKey key ++ ": " ++ describe value) :: describeEntries entries

/-- How a key is described: a scalar key only by its own text. -/
def describeKey : Value → String
  | .bool value => if value then "true" else "false"
  | .integer value => toString value
  | .real value => value.text
  | .text value => Text.quoted value
  | .null => "Null"
  | .sequence items => "Sequence [" ++ String.intercalate ", " (describeItems items) ++ "]"
  | .mapping entries => "Mapping \x7b" ++ String.intercalate ", " (describeEntries entries) ++ "\x7d"
  | .tagged name value => "TaggedValue \x7b tag: !" ++ name ++ ", value: " ++ describe value ++ " \x7d"

end

def scalarText? : Value → Option String
  | .text value => some value
  | .integer value => some (toString value)
  | .real value => some value.text
  | .bool value => some (if value then "true" else "false")
  | .null | .sequence _ | .mapping _ | .tagged _ _ => none

mutual

/-- Whether two values are the same as keys of a map. Both zeros are the same number, an integer is
never the same as a number with a fraction, and the order of entries does not matter. -/
def isSame : Value → Value → Bool
  | .null, .null => true
  | .bool value, .bool other => value = other
  | .integer value, .integer other => value = other
  | .real value, .real other => value.isSame other
  | .text value, .text other => value = other
  | .sequence items, .sequence others => areSame items others
  | .mapping entries, .mapping others =>
    entries.length = others.length && haveSame entries others
  | .tagged name value, .tagged other inner => name = other && isSame value inner
  | _, _ => false

def areSame : List Value → List Value → Bool
  | [], [] => true
  | item :: items, other :: others => isSame item other && areSame items others
  | _, _ => false

def haveSame : List (Value × Value) → List (Value × Value) → Bool
  | [], _ => true
  | (key, value) :: entries, others =>
    others.any (fun other => isSame key other.1 && isSame value other.2) && haveSame entries others

end

end Value

namespace Node

/-- Sequences and maps are not nested deeper than this. -/
def maxNesting : Nat := 128

def isAlias : Node → Bool
  | .alias _ => true
  | _ => false

/-- A sequence or map under a tag. Only an author's own tag is kept. -/
def tagged? (tag : Option String) (value : Value) : Option Value :=
  match tag.bind Scalar.ownTag? with
  | some name => Scalar.underTag? name value
  | none => some value

/-- The value of a scalar. Where a tag has been read already, its own tags say nothing. -/
def scalarValue? (tagRead : Bool) (tag : Option String) (style : Style) (text : String) : Option Value :=
  Scalar.value? (if tagRead then none else tag) style text

/-- The value of a node, which may be nested so deep. Integers that are too large and maps with a key
twice are refused. The tags of keys say nothing in a map that has a tag of the author's own. -/
def value : (nesting : Nat) → (tagRead : Bool) → Node → Document.Following Value
  | nesting, tagRead, node => do
    let tagRead := tagRead && !node.isAlias
    match ← node.target, nesting with
    | .alias _, _ => failure
    | .scalar properties style text, _ => liftM (scalarValue? tagRead properties.tag style text)
    | .sequence _ _, 0 | .mapping _ _, 0 => failure
    | .sequence properties items, nesting + 1 => do
      let tag := if tagRead then none else properties.tag
      let values ← items.mapM (value nesting false)
      liftM (tagged? tag (.sequence values))
    | .mapping properties entries, nesting + 1 => do
      let tag := if tagRead then none else properties.tag
      let keyTagRead := tagRead || (tag.bind Scalar.ownTag?).isSome
      let entries ← entries.mapM fun (key, held) => do
        return (← value nesting keyTagRead key, ← value nesting false held)
      if (entries.map (·.1)).Pairwise (fun key other => !key.isSame other) then
        liftM (tagged? tag (.mapping entries))
      else failure

def text (node : Node) : Document.Following String := do
  match ← node.target with
  | .scalar _ _ text => return text
  | _ => failure

/-- The entries of a map whose keys are texts. A place where nothing is written is an empty map. -/
def textEntries (node : Node) : Document.Following (List (String × Node)) := do
  match ← node.target with
  | .mapping _ entries => entries.mapM fun (key, value) => do return (← key.text, value)
  | .scalar _ style text => if style = .plain && text.isEmpty then return [] else failure
  | _ => failure

end Node

/-- The entries of a document that is a map. An empty document is an empty map. -/
def Document.textEntries (document : Document) : Document.Following (List (String × Node)) :=
  (document.root.getD Node.empty).textEntries

end Superstep.Yaml
