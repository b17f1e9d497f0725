import Superstep.Decimal.Read
import Superstep.Integer
import Superstep.Json
import Superstep.Sorted

/-!
# Reading JSON

Fields of a record are sorted by name when it is read, and of several with one name the last counts. So
two texts that differ only in the order of fields are one value.
-/

namespace Superstep.Json

def isSpace (c : Char) : Bool := c = ' ' || c = '\t' || c = '\n' || c = '\r'

def skipSpace (here : List Char) : List Char := here.dropWhile isSpace

def unescape? (c : Char) : Option Char :=
  match c with
  | '"' => some '"'
  | '\\' => some '\\'
  | '/' => some '/'
  | 'b' => some '\x08'
  | 'f' => some '\x0c'
  | 'n' => some '\n'
  | 'r' => some '\r'
  | 't' => some '\t'
  | _ => none

inductive TextMode where
  | plain
  /-- After a backslash. -/
  | escape
  /-- In a unit of four digits, with so many left, and the unit before it that it completes. -/
  | unit (left value : Nat) (high : Option Nat)
  /-- After the first of two units that make up one character. -/
  | between (high : Nat)
  /-- After the backslash of the second unit. -/
  | second (high : Nat)

/-- What follows a unit: a character, or the second unit of one. -/
def afterUnit? (value : Nat) (high : Option Nat) (taken : List Char) : Option (TextMode × List Char) :=
  match high with
  | some first =>
    if 0xDC00 ≤ value && value < 0xE000 then
      some (.plain, Char.ofNat (0x10000 + (first - 0xD800) * 0x400 + (value - 0xDC00)) :: taken)
    else none
  | none =>
    if 0xD800 ≤ value && value < 0xDC00 then some (.between value, taken)
    else if 0xDC00 ≤ value && value < 0xE000 then none
    else some (.plain, Char.ofNat value :: taken)

/-- Reads on in a text. `taken` is what has been read, the last character first. -/
def textFrom : TextMode → (taken : List Char) → List Char → Option (List Char × List Char)
  | _, _, [] => none
  | .plain, taken, c :: cs =>
    if c = '"' then some (taken.reverse, cs)
    else if c = '\\' then textFrom .escape taken cs
    else if c.toNat < 0x20 then none
    else textFrom .plain (c :: taken) cs
  | .escape, taken, c :: cs =>
    if c = 'u' then textFrom (.unit 4 0 none) taken cs
    else
      match unescape? c with
      | some plain => textFrom .plain (plain :: taken) cs
      | none => none
  | .unit left value high, taken, c :: cs =>
    match Text.hexValue? c with
    | none => none
    | some digit =>
      let value := 16 * value + digit
      if left = 1 then
        match afterUnit? value high taken with
        | some (mode, taken) => textFrom mode taken cs
        | none => none
      else textFrom (.unit (left - 1) value high) taken cs
  | .between high, taken, c :: cs => if c = '\\' then textFrom (.second high) taken cs else none
  | .second high, taken, c :: cs => if c = 'u' then textFrom (.unit 4 0 (some high)) taken cs else none

def isNumberChar (c : Char) : Bool := c.isDigit || ['+', '-', '.', 'e', 'E'].contains c

/-- Whether digits are written as they are in a number: without zeros before others. -/
def areWhole (digits : List Char) : Bool :=
  !digits.isEmpty && digits.all Char.isDigit && (digits.head? != some '0' || digits.length = 1)

/-- Whether what follows the whole digits of a number is a fraction, an exponent, both or nothing. -/
def isTail (text : List Char) : Bool :=
  let afterFraction := match text with
    | '.' :: cs => if cs.head?.any Char.isDigit then some (cs.dropWhile Char.isDigit) else none
    | cs => some cs
  (afterFraction.bind Binary64.exponent?).isSome

/-- The value of a number. An integer that does not fit in sixty-four bits, and the negative zero, are
numbers with a fraction. -/
def number? (text : List Char) : Option Json :=
  let (negative, unsigned) := match text with
    | '-' :: cs => (true, cs)
    | cs => (false, cs)
  let whole := unsigned.takeWhile Char.isDigit
  let tail := unsigned.dropWhile Char.isDigit
  if !areWhole whole || !isTail tail then none
  else
    let real := (Binary64.ofText? text).map .real
    match tail.isEmpty, Text.natural? 10 whole with
    | true, some magnitude =>
      let value : Int := if negative then -(magnitude : Int) else magnitude
      if (fitsSigned64 value || fitsUnsigned64 value) && !(negative && magnitude = 0) then some (.int value)
      else real
    | _, _ => real

def word? (here : List Char) : Option (Json × List Char) :=
  match here with
  | 'n' :: 'u' :: 'l' :: 'l' :: rest => some (.null, rest)
  | 't' :: 'r' :: 'u' :: 'e' :: rest => some (.bool true, rest)
  | 'f' :: 'a' :: 'l' :: 's' :: 'e' :: rest => some (.bool false, rest)
  | _ => none

mutual

/-- Reads a value. Every step down takes a character, so the length of the text bounds the steps. -/
def valueFrom : Nat → List Char → Option (Json × List Char)
  | 0, _ => none
  | steps + 1, here =>
    match skipSpace here with
    | '"' :: cs => (textFrom .plain [] cs).map fun (chars, rest) => (.text (String.ofList chars), rest)
    | '[' :: cs =>
      match skipSpace cs with
      | ']' :: rest => some (.list [], rest)
      | inside => (itemsFrom steps [] inside).map fun (items, rest) => (.list items, rest)
    | '\x7b' :: cs =>
      match skipSpace cs with
      | '\x7d' :: rest => some (.record [], rest)
      | inside => (fieldsFrom steps [] inside).map fun (fields, rest) => (.record (sortKeys fields), rest)
    | c :: cs =>
      if c = '-' || c.isDigit then
        (number? ((c :: cs).takeWhile isNumberChar)).map fun number =>
          (number, (c :: cs).dropWhile isNumberChar)
      else word? (c :: cs)
    | [] => none

def itemsFrom : Nat → List Json → List Char → Option (List Json × List Char)
  | 0, _, _ => none
  | steps + 1, items, here => do
    let (item, rest) ← valueFrom steps here
    match skipSpace rest with
    | ',' :: rest => itemsFrom steps (item :: items) rest
    | ']' :: rest => return ((item :: items).reverse, rest)
    | _ => none

def fieldsFrom : Nat → List (String × Json) → List Char → Option (List (String × Json) × List Char)
  | 0, _, _ => none
  | steps + 1, fields, here => do
    match skipSpace here with
    | '"' :: cs =>
      let (name, rest) ← textFrom .plain [] cs
      match skipSpace rest with
      | ':' :: rest =>
        let (value, rest) ← valueFrom steps rest
        let fields := (String.ofList name, value) :: fields
        match skipSpace rest with
        | ',' :: rest => fieldsFrom steps fields rest
        | '\x7d' :: rest => return (fields.reverse, rest)
        | _ => none
      | _ => none
    | _ => none

end

def read? (text : String) : Option Json := do
  let chars := text.toList
  let (value, rest) ← valueFrom (2 * chars.length + 2) chars
  if (skipSpace rest).isEmpty then return value else none

end Superstep.Json
