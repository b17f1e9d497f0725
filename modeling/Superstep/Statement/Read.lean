import Superstep.Expression
import Superstep.Statement
import Superstep.Text.Blank

/-!
# Reading statements

The kind of a line is told from its first word. The kind then says how the rest of the line has to
look. A program is read line by line, passing over blank lines and comments.
-/

namespace Superstep

namespace StatementKind

/-- What follows `word` at the front of a line, if the line starts with it. -/
def after? (word : String) (line : List Char) : Option (List Char) :=
  word.toList.isPrefixOf? line

/-- Whether a line starts with `word`, and not with a longer name. -/
def startsWithWord (word : String) (line : List Char) : Bool :=
  (after? word line).any fun rest => !rest.head?.any Text.isNameChar

/-- Whether a line starts with `name` and, perhaps after blanks, an opening parenthesis. -/
def startsWithCall (name : String) (line : List Char) : Bool :=
  (after? name line).any fun rest => (Text.trimStart rest).head? == some '('

/-- The kind of a line without blanks around it. -/
def ofTrimmed (line : List Char) : StatementKind :=
  if startsWithWord "if" line then .beginIf
  else if startsWithCall "setVal" line then .setValue
  else if startsWithCall "send" line then .send
  else if line.head? == some '\x7d' then .endIf
  else .assign

def ofLine (line : String) : StatementKind := ofTrimmed (Text.trim line.toList)

end StatementKind

namespace Statement

/-- The text between the first opening and the last closing parenthesis, without blanks around it.
Nothing but blanks may follow. -/
def arguments? (line : List Char) : Option (List Char) := do
  let (_, afterOpen) ← Text.cutFirst '(' line
  let (inside, after) ← Text.cutLast ')' afterOpen
  if Text.allBlank after then some (Text.trim inside) else none

def readBeginIf (line : List Char) : Except StatementFault Statement :=
  match Text.cutFirst '(' line with
  | none => .error .conditionNotOpened
  | some (before, afterOpen) =>
    if !Text.allBlank (before.drop 2) then .error .conditionNotOpened
    else
      match Text.cutFirst ')' afterOpen with
      | none => .error .conditionNotClosed
      | some (inside, after) =>
        if Text.trim after ≠ ['\x7b'] then .error .braceMissing
        else
          let condition := String.ofList (Text.trim inside)
          if Expression.isIdentifier condition then .ok (.beginIf condition)
          else .error .conditionNotName

def readSetValue (line : List Char) : Except StatementFault Statement :=
  match arguments? line with
  | none => .error .setValueShape
  | some value =>
    if value.isEmpty then .error .setValueEmpty else .ok (.setValue (String.ofList value))

/-- Reads `send(direction, content)`. The first comma parts the two. -/
def readSend (line : List Char) : Except StatementFault Statement :=
  match arguments? line with
  | none => .error .sendShape
  | some inside =>
    match Text.cutFirst ',' inside with
    | none => .error .sendParts
    | some (before, after) =>
      let direction := Text.trim before
      let content := Text.trim after
      if direction.isEmpty || content.isEmpty then .error .sendParts
      else .ok (.send (String.ofList direction) (String.ofList content))

def readEndIf (line : List Char) : Except StatementFault Statement :=
  if line = ['\x7d'] then .ok .endIf else .error .textAfterBrace

/-- Reads `target = expression`. The first equals sign parts the two and must stand alone. -/
def readAssign (line : List Char) : Except StatementFault Statement :=
  match Text.cutFirst '=' line with
  | none => .error .assignShape
  | some (before, after) =>
    if after.head? = some '=' then .error .assignShape
    else
      let target := String.ofList (Text.trim before)
      let expression := Text.trim after
      if !Expression.isIdentifier target then .error .targetNotName
      else if expression.isEmpty then .error .expressionEmpty
      else .ok (.assign target (String.ofList expression))

/-- A line without blanks around it and without the semicolon that may end it. -/
def body (source : List Char) : List Char :=
  let line := Text.trim source
  if line.getLast? = some ';' then Text.trimEnd line.dropLast else line

def readChars (source : List Char) : Except StatementFault Statement :=
  let line := body source
  match StatementKind.ofTrimmed line with
  | .beginIf => readBeginIf line
  | .setValue => readSetValue line
  | .send => readSend line
  | .endIf => readEndIf line
  | .assign => readAssign line

def read (source : String) (line : Nat) : Except Malformed Statement :=
  (readChars source.toList).mapError (Malformed.mk line)

end Statement

/-- A statement with the number of its line, counted from one. -/
structure ProgramLine where
  line : Nat
  statement : Statement
  deriving DecidableEq, Repr

namespace Program

/-- Whether a line holds no statement: it is blank, or a comment. -/
def isSkipped (line : List Char) : Bool :=
  let trimmed := Text.trim line
  trimmed.isEmpty || ['/', '/'].isPrefixOf trimmed || trimmed.head? == some '#'

/-- Reads the lines that start at the given number, up to the first that is no statement. -/
def readLines (number : Nat) : List (List Char) → Except Malformed (List ProgramLine)
  | [] => .ok []
  | line :: lines =>
    if isSkipped line then readLines (number + 1) lines
    else do
      let statement ← (Statement.readChars line).mapError (Malformed.mk number)
      let following ← readLines (number + 1) lines
      return ⟨number, statement⟩ :: following

/-- Reads a program. Lines end with a line feed; a carriage return before it is a blank. -/
def read (source : String) : Except Malformed (List ProgramLine) :=
  readLines 1 (Text.pieces '\n' source.toList)

end Program

end Superstep
