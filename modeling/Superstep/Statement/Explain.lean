import Superstep.Statement.Read
import Superstep.Text.Quoted

/-!
# Explaining a statement

How a line is read: its kind, its parts, and the tokens of its expression with the tables they read.
-/

namespace Superstep

def StatementKind.name : StatementKind → String
  | .beginIf => "BeginIf"
  | .setValue => "MutateValue"
  | .send => "SendMsg"
  | .endIf => "EndIf"
  | .assign => "Assignment"

def Token.description : Token → String
  | .qualified table field =>
    "Qualified \x7b table: " ++ Text.quoted table ++ ", field: " ++ Text.quoted field ++ " \x7d"
  | .placeholder name => "Placeholder(" ++ Text.quoted name ++ ")"
  | .keyword word => "Keyword(" ++ Text.quoted word.text ++ ")"
  | .number digits => "Number(" ++ Text.quoted digits ++ ")"
  | .quoted content => "Str(" ++ Text.quoted content ++ ")"
  | .ident name => "Ident(" ++ Text.quoted name ++ ")"
  | .operator op => "Operator(" ++ Text.quoted op.text ++ ")"
  | .openParen => "LParen"
  | .closeParen => "RParen"
  | .comma => "Comma"

/-- The line for a token. The tables are lined up behind the fortieth column. -/
def Token.explanation (token : Token) : String :=
  match token.valueTable? with
  | none => "  " ++ token.description
  | some table =>
    let padding := String.ofList (List.replicate (40 - token.description.length) ' ')
    "  " ++ token.description ++ padding ++ " -> reads " ++ table

/-- The lines for an expression, whose placeholders are filled in outside of every `if`. -/
def Expression.explanation (label source : String) : List String :=
  let filled := fillPlaceholders source Table.combined
  (label ++ ": " ++ filled) ::
    match scan filled with
    | .ok scanned => scanned.tokens.map Token.explanation
    | .error error => ["  tokenize error: " ++ error.message]

def Statement.explanation : Statement → List String
  | .beginIf condition => ["context: " ++ condition]
  | .setValue value => Expression.explanation "value" value
  | .send direction content =>
    ("direction: " ++ direction) :: Expression.explanation "content" content
  | .endIf => []
  | .assign target expression =>
    ("target: " ++ target) :: Expression.explanation "predicate" expression

def Statement.explain (line : String) : String :=
  let lines :=
    match Statement.read line 1 with
    | .ok statement => statement.kind.name :: statement.explanation
    | .error malformed => ["Error: " ++ malformed.message]
  String.join (lines.map (· ++ "\n"))

end Superstep
