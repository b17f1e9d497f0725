import Superstep.Decimal.Layout
import Superstep.Json
import Superstep.Text.Digits

/-!
# The text of JSON values

The compact text has no blanks at all and is what fingerprints are taken of. The indented text is for
reading.
-/

namespace Superstep.Json

/-- How one character is written between quotes. Quotes, backslashes and control characters are
escaped, everything else stands for itself. -/
def escapeChar (c : Char) : List Char :=
  if c = '"' then ['\\', '"']
  else if c = '\\' then ['\\', '\\']
  else if c = '\x08' then ['\\', 'b']
  else if c = '\x0c' then ['\\', 'f']
  else if c = '\n' then ['\\', 'n']
  else if c = '\r' then ['\\', 'r']
  else if c = '\t' then ['\\', 't']
  else if c.toNat < 0x20 then
    ['\\', 'u', '0', '0', Text.hexDigit (c.toNat / 16), Text.hexDigit (c.toNat % 16)]
  else [c]

def quote (value : String) : List Char := '"' :: value.toList.flatMap escapeChar ++ ['"']

def intText (value : Int) : List Char := (toString value).toList

def realText (value : Binary64) : List Char := (DecimalLayout.standard.text value).toList

mutual

def compact : Json → List Char
  | .null => "null".toList
  | .bool value => (if value then "true" else "false").toList
  | .int value => intText value
  | .real value => realText value
  | .text value => quote value
  | .list items => '[' :: compactItems items ++ [']']
  | .record fields => '\x7b' :: compactFields fields ++ ['\x7d']

def compactItems : List Json → List Char
  | [] => []
  | [item] => compact item
  | item :: items => compact item ++ ',' :: compactItems items

def compactFields : List (String × Json) → List Char
  | [] => []
  | [(name, value)] => quote name ++ ':' :: compact value
  | (name, value) :: fields => quote name ++ ':' :: compact value ++ ',' :: compactFields fields

end

theorem compact_text (value : String) : compact (.text value) = quote value := by
  rw [compact]

def newLine (level : Nat) : List Char := '\n' :: List.replicate (2 * level) ' '

mutual

/-- The indented text of a value that stands at the given level. Empty lists and records are not
broken. -/
def indented (level : Nat) : Json → List Char
  | .list (item :: items) =>
    '[' :: newLine (level + 1) ++ indented (level + 1) item
      ++ indentedItems (level + 1) items ++ newLine level ++ [']']
  | .record ((name, value) :: fields) =>
    '\x7b' :: newLine (level + 1) ++ quote name ++ ':' :: ' ' :: indented (level + 1) value
      ++ indentedFields (level + 1) fields ++ newLine level ++ ['\x7d']
  | .list [] => ['[', ']']
  | .record [] => ['\x7b', '\x7d']
  | .null => "null".toList
  | .bool value => (if value then "true" else "false").toList
  | .int value => intText value
  | .real value => realText value
  | .text value => quote value

def indentedItems (level : Nat) : List Json → List Char
  | [] => []
  | item :: items => ',' :: newLine level ++ indented level item ++ indentedItems level items

def indentedFields (level : Nat) : List (String × Json) → List Char
  | [] => []
  | (name, value) :: fields =>
    ',' :: newLine level ++ quote name ++ ':' :: ' ' :: indented level value
      ++ indentedFields level fields

end

def toCompact (json : Json) : String := String.ofList json.compact

def toIndented (json : Json) : String := String.ofList (json.indented 0)

end Superstep.Json
