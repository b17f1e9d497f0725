import Superstep.Environment
import Superstep.Text.Alphanumeric
import Superstep.Text.Blank
import Superstep.Text.Name
import Superstep.Text.Search

/-!
# Variable files

A file from which variables that are not set are set. A line is `NAME=value`, perhaps after the word
`export`. Values may be quoted, may go on over several lines inside quotes, and may use other variables.
-/

namespace Superstep

namespace VariableFile

/-- Where a reader stands in a line, to know whether the line goes on behind its end. -/
inductive LineState where
  | complete
  /-- After a single blank. -/
  | blank
  | escape
  | weak
  | weakEscape
  | strong
  | strongEscape
  deriving DecidableEq, Repr

/-- The state after one more character, or none where a comment starts. -/
def LineState.next? (state : LineState) (c : Char) : Option LineState :=
  let opening : LineState :=
    if c = '\\' then .escape else if c = '"' then .weak else if c = '\'' then .strong else .complete
  match state with
  | .blank => if c = '#' then none else some opening
  | .complete => if Text.isBlank c && c ≠ '\n' && c ≠ '\r' then some .blank else some opening
  | .escape => some .complete
  | .weak => some (if c = '\\' then .weakEscape else if c = '"' then .complete else .weak)
  | .weakEscape => some .weak
  | .strong => some (if c = '\\' then .strongEscape else if c = '\'' then .complete else .strong)
  | .strongEscape => some .strong

def LineState.scan (state : LineState) : List Char → LineState ⊕ List Char
  | [] => .inl state
  | c :: cs =>
    match state.next? c with
    | none => .inr []
    | some next =>
      match next.scan cs with
      | .inl final => .inl final
      | .inr before => .inr (c :: before)

/-- A line without its line end. -/
def chomp (line : List Char) : List Char :=
  let withoutFeed := if line.getLast? = some '\n' then line.dropLast else line
  if withoutFeed.length < line.length && withoutFeed.getLast? = some '\r' then withoutFeed.dropLast
  else withoutFeed

/-- Joins lines whose quotes are still open. A text that ends in the middle of a value is cut off
there, which is marked by `none`. -/
def joinLines (held : List Char) (state : LineState) : List (List Char) → List (Option (List Char))
  | [] => if state = .complete then [] else [none]
  | line :: lines =>
    let joined := held ++ line
    if (Text.trimStart joined).head? = some '#' then joinLines [] .complete lines
    else
      match state.scan line with
      | .inr before => some (held ++ before) :: joinLines [] .complete lines
      | .inl .complete => some (chomp joined) :: joinLines [] .complete lines
      | .inl next => joinLines joined next lines

/-- The lines of a text, each with its line end. -/
def physicalLines (text : List Char) : List (List Char) :=
  let pieces := Text.pieces '\n' text
  let ended := pieces.dropLast.map (· ++ ['\n'])
  match pieces.getLast? with
  | some last => if last.isEmpty then ended else ended ++ [last]
  | none => ended

inductive Substitution where
  | none
  /-- After a dollar sign. -/
  | bare (name : List Char)
  /-- After a dollar sign and a brace. -/
  | braced (name : List Char)
  deriving DecidableEq, Repr

structure ValueState where
  /-- What has been read, the last character first. -/
  output : List Char := []
  strong : Bool := false
  weak : Bool := false
  escaped : Bool := false
  /-- After a blank, when only a comment may follow. -/
  ending : Bool := false
  substitution : Substitution := .none
  deriving DecidableEq, Repr

namespace ValueState

def push (state : ValueState) (c : Char) : ValueState := { state with output := c :: state.output }

/-- The state after the value of a variable has been put in. A variable that is not set is empty. -/
def expand (state : ValueState) (environment : Environment) (name : List Char) : ValueState :=
  let value := (environment.get? (String.ofList name)).getD ""
  { state with output := value.toList.reverse ++ state.output, substitution := .none }

/-- The state after a character that does not belong to a quoted text or a variable. -/
def bare (state : ValueState) (c : Char) : ValueState :=
  if c = '$' then { state with substitution := .bare [] }
  else if state.weak then
    if c = '"' then { state with weak := false }
    else if c = '\\' then { state with escaped := true }
    else state.push c
  else if c = '\'' then { state with strong := true }
  else if c = '"' then { state with weak := true }
  else if c = '\\' then { state with escaped := true }
  else if c = ' ' || c = '\t' then { state with ending := true }
  else state.push c

def inName (state : ValueState) (environment : Environment) (c : Char) : ValueState :=
  match state.substitution with
  | .none => state.bare c
  | .bare name =>
    if Text.isAlphanumeric c then { state with substitution := .bare (name ++ [c]) }
    else if c = '\x7b' && name.isEmpty then { state with substitution := .braced [] }
    else
      let expanded := state.expand environment name
      if c = '$' then { expanded with substitution := .bare [] } else expanded.push c
  | .braced name =>
    if c = '\x7d' then state.expand environment name
    else { state with substitution := .braced (name ++ [c]) }

/-- The value once all characters have been read, unless a quote or a brace is still open. -/
def finish? (state : ValueState) (environment : Environment) : Option (List Char) :=
  match state.substitution with
  | .braced _ => Option.none
  | substitution =>
    if state.strong || state.weak then Option.none
    else
      match substitution with
      | .bare name => some (state.expand environment name).output.reverse
      | _ => some state.output.reverse

end ValueState

def value? (environment : Environment) (state : ValueState) : List Char → Option (List Char)
  | [] => state.finish? environment
  | c :: cs =>
    if state.ending then
      if c = ' ' || c = '\t' then value? environment state cs
      else if c = '#' then state.finish? environment
      else none
    else if state.escaped then
      let plain := { state with escaped := false }
      if c = '\\' || c = '\'' || c = '"' || c = '$' || c = ' ' then value? environment (plain.push c) cs
      else if c = 'n' then value? environment (plain.push '\n') cs
      else none
    else if state.strong then
      value? environment (if c = '\'' then { state with strong := false } else state.push c) cs
    else value? environment (state.inName environment c) cs

/-- The name at the front of a line and what follows it, blanks aside. -/
def name? (line : List Char) : Option (List Char × List Char) := do
  let first ← line.head?
  if Text.isNameStart first then
    let isPart (c : Char) : Bool := Text.isNameChar c || c = '.'
    return (line.takeWhile isPart, Text.trimStart (line.dropWhile isPart))
  else none

def afterEquals? : List Char → Option (List Char)
  | '=' :: rest => some (Text.trimStart rest)
  | _ => none

inductive Line where
  | skipped
  | assigned (name value : String)
  deriving DecidableEq, Repr

def readLine? (environment : Environment) (source : List Char) : Option Line := do
  let line := Text.trimStart (Text.trimEnd source)
  if line.isEmpty || line.head? = some '#' then return .skipped
  let (first, afterFirst) ← name? line
  let (name, rest) ←
    if first = "export".toList && (afterEquals? afterFirst).isNone then do
      let (second, afterSecond) ← name? afterFirst
      pure (second, ← afterEquals? afterSecond)
    else do pure (first, ← afterEquals? afterFirst)
  if rest.isEmpty || rest.head? = some '#' then return .assigned (String.ofList name) ""
  return .assigned (String.ofList name) (String.ofList (← value? environment {} rest))

/-- Sets the variables of lines, up to the first that cannot be read. Values can use what is set, and
else what earlier lines gave. -/
def loadLines (environment stored : Environment) : List (Option (List Char)) → Environment
  | [] => environment
  | none :: _ => environment
  | some line :: lines =>
    let known : Environment := environment.entries.foldl (fun e (k, v) => e.set k v) stored
    match readLine? known line with
    | none => environment
    | some .skipped => loadLines environment stored lines
    | some (.assigned name value) =>
      loadLines (environment.setNew name value) (stored.set name value) lines

def withoutMark : List Char → List Char
  | '\ufeff' :: text => text
  | text => text

def load (environment : Environment) (contents : String) : Environment :=
  loadLines environment {} (joinLines [] .complete (physicalLines (withoutMark contents.toList)))

end VariableFile

end Superstep
