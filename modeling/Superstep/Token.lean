/-!
# Tokens of update expressions

An expression stays text, because it is spliced into SQL as it was written. Its tokens are what the
planner looks at to find out which tables it reads. Every token has exactly one text, so a token list
with the gaps between the tokens is the expression itself.
-/

namespace Superstep

/-- The words that join conditions. They are never names. -/
inductive Connective where
  | and | or | not
  deriving DecidableEq, Repr

def Connective.text : Connective → String
  | .and => "AND"
  | .or => "OR"
  | .not => "NOT"

/-- The connective that a word is, if it is one. Case matters. -/
def Connective.ofText? (word : String) : Option Connective :=
  if word = "AND" then some .and
  else if word = "OR" then some .or
  else if word = "NOT" then some .not
  else none

/-- Comparison and arithmetic operators. Equality and inequality have two spellings each. -/
inductive Operator where
  | doubleEqual | bangEqual | angles | atMost | atLeast | less | greater | equal
  | plus | minus | times | divide | modulo
  deriving DecidableEq, Repr

def Operator.text : Operator → String
  | .doubleEqual => "=="
  | .bangEqual => "!="
  | .angles => "<>"
  | .atMost => "<="
  | .atLeast => ">="
  | .less => "<"
  | .greater => ">"
  | .equal => "="
  | .plus => "+"
  | .minus => "-"
  | .times => "*"
  | .divide => "/"
  | .modulo => "%"

inductive Token where
  /-- A column of a table, `table.field`. -/
  | qualified (table field : String)
  /-- A call without arguments, `name()`. -/
  | placeholder (name : String)
  | keyword (word : Connective)
  /-- An unsigned decimal number as it was written. -/
  | number (digits : String)
  /-- A quoted text, held without its quotes. -/
  | quoted (content : String)
  | ident (name : String)
  | operator (op : Operator)
  | openParen
  | closeParen
  | comma
  deriving DecidableEq, Repr

namespace Token

def text : Token → String
  | .qualified table field => table ++ "." ++ field
  | .placeholder name => name ++ "()"
  | .keyword word => word.text
  | .number digits => digits
  | .quoted content => "'" ++ content ++ "'"
  | .ident name => name
  | .operator op => op.text
  | .openParen => "("
  | .closeParen => ")"
  | .comma => ","

/-- The table whose vertex rows a token reads: the fields `id` and `val` stand for a table keyed by
vertex, any other field does not. -/
def valueTable? : Token → Option String
  | .qualified table field => if field = "id" || field = "val" then some table else none
  | _ => none

/-- The token with the table `source` renamed to `target` where it is qualified by `source`. -/
def repoint (source target : String) : Token → Token
  | .qualified table field => .qualified (if table = source then target else table) field
  | token => token

/-- The token with `field` added where it is the bare name `name`. -/
def qualify (name field : String) : Token → Token
  | .ident other => if other = name then .qualified other field else .ident other
  | token => token

end Token

end Superstep
