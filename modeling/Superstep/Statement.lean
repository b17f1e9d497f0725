/-!
# Statements of an update program

An update program is a list of lines, and each line is one statement. The expressions in a statement
stay text. This module has the statements, what can be wrong with a line, and the one way in which
each statement is written back.
-/

namespace Superstep

inductive Statement where
  /-- `if (condition) {`: what follows is done for the vertices in the table `condition`. -/
  | beginIf (condition : String)
  /-- `setVal(value)`: the vertices in scope take a new value. -/
  | setValue (value : String)
  /-- `send(direction, content)`: the vertices in scope send messages along their edges. -/
  | send (direction content : String)
  /-- `}`: closes the innermost `if`. -/
  | endIf
  /-- `target = expression`: names the vertices in scope that satisfy the expression. -/
  | assign (target expression : String)
  deriving DecidableEq, Repr

/-- The kinds of statement, told from how a line starts. -/
inductive StatementKind where
  | beginIf | setValue | send | endIf | assign
  deriving DecidableEq, Repr

def Statement.kind : Statement → StatementKind
  | .beginIf _ => .beginIf
  | .setValue _ => .setValue
  | .send _ _ => .send
  | .endIf => .endIf
  | .assign _ _ => .assign

inductive StatementFault where
  | conditionNotOpened
  | conditionNotClosed
  | braceMissing
  | conditionNotName
  | setValueShape
  | setValueEmpty
  | sendShape
  | sendParts
  | textAfterBrace
  | assignShape
  | targetNotName
  | expressionEmpty
  deriving DecidableEq, Repr

def StatementFault.reason : StatementFault → String
  | .conditionNotOpened => "expected '(' after 'if'"
  | .conditionNotClosed => "unterminated condition"
  | .braceMissing => "expected '\x7b' after condition"
  | .conditionNotName => "condition must name a single flow-control table"
  | .setValueShape => "expected 'setVal(<expression>)'"
  | .setValueEmpty => "setVal needs a value expression"
  | .sendShape => "expected 'send(<direction>, <content>)'"
  | .sendParts => "send needs a direction and a content expression"
  | .textAfterBrace => "unexpected text after '\x7d'"
  | .assignShape => "expected 'name = expression'"
  | .targetNotName => "assignment target must be an identifier"
  | .expressionEmpty => "assignment needs an expression"

/-- A line that is no statement, with its number. -/
structure Malformed where
  line : Nat
  fault : StatementFault
  deriving DecidableEq, Repr

def Malformed.message (malformed : Malformed) : String :=
  "Malformed statement at line " ++ toString malformed.line ++ ": " ++ malformed.fault.reason

end Superstep
