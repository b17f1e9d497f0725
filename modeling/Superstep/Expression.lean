import Superstep.Table
import Superstep.Text.Search
import Superstep.Token.ScanError

/-!
# Expressions

What the planner asks of an expression: the tables it reads, the two placeholders filled in, a table
renamed, a bare name qualified. Renaming and qualifying change tokens and leave the gaps alone.
-/

namespace Superstep

/-- Adds an item at the end of a list, unless the list has it already. -/
def addNew (items : List String) (item : String) : List String :=
  if item ∈ items then items else items ++ [item]

namespace Scanned

/-- The tables whose vertex rows are read, each once, in the order of their first use. -/
def referencedTables (scanned : Scanned) : List String :=
  (scanned.tokens.filterMap Token.valueTable?).foldl addNew []

/-- The text with the table `source` renamed to `target` wherever it qualifies a field. -/
def repoint (scanned : Scanned) (source target : String) : String :=
  String.ofList (scanned.mapTokens (Token.repoint source target)).text

/-- The text with `field` added to every bare `name`. -/
def qualify (scanned : Scanned) (name field : String) : String :=
  String.ofList (scanned.mapTokens (Token.qualify name field)).text

end Scanned

namespace Expression

/-- Stands for the value that the messages of a vertex were combined into. -/
def combinedPlaceholder : String := "getAggregationVal()"

/-- Stands for the value that a vertex has. -/
def valuePlaceholder : String := "getVal()"

def scan (source : String) : Except ScanError Scanned :=
  (Scan.lexemes source.toList).mapError (ScanError.ofStop source.toList)

/-- The expression with the combined value read from the table `context` and the vertex value from
the table of vertex values. This works on the text, so it also reaches into quoted texts. -/
def fillPlaceholders (source context : String) : String :=
  let combined :=
    Text.replace combinedPlaceholder.toList (context ++ ".val").toList source.toList
  String.ofList (Text.replace valuePlaceholder.toList (Table.values ++ ".val").toList combined)

/-- A name that a table can have: letters, digits and underscores, not starting with a digit, and no
connective. -/
def isIdentifier (text : String) : Bool :=
  match text.toList with
  | [] => false
  | c :: cs =>
    Text.isNameStart c && cs.all Text.isNameChar && (Connective.ofText? text).isNone

end Expression

end Superstep
