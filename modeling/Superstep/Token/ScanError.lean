import Superstep.Token.Scan

/-!
# Expressions that cannot be read

A scan error is the source cut in two at the place where the scanner stopped. Its message shows the
line of that place with a mark under it.
-/

namespace Superstep

/-- An expression that could not be read: the text before the place where it went wrong, the text from
there on, and what was expected. -/
structure ScanError where
  before : List Char
  rest : List Char
  expected : Expected
  deriving DecidableEq, Repr

def Expected.text : Expected → String
  | .expression => "expression"
  | .field => "ident"
  | .token => "EOI, ident, keyword, number, string, operator, lparen, rparen, or comma"

namespace ScanError

/-- The error for a source whose scan stopped. A stop before the first character means that there is
no expression at all. -/
def ofStop (source : List Char) (stop : Stop) : ScanError :=
  let before := source.take (source.length - stop.rest.length)
  let expected := if before.isEmpty && stop.expected = .token then .expression else stop.expected
  ⟨before, stop.rest, expected⟩

def line (error : ScanError) : Nat := error.before.count '\n' + 1

def lineBefore (error : ScanError) : List Char :=
  (error.before.reverse.takeWhile (· ≠ '\n')).reverse

/-- The column of the place, in characters and counted from one. -/
def column (error : ScanError) : Nat := error.lineBefore.length + 1

/-- The rest of that line, its line end included. -/
def lineAfter (error : ScanError) : List Char :=
  error.rest.takeWhile (· ≠ '\n') ++ (error.rest.dropWhile (· ≠ '\n')).take 1

def visible (c : Char) : Char :=
  if c = '\r' then '␍' else if c = '\n' then '␊' else c

def isLineEnd (c : Char) : Bool := c = '\n' || c = '\r'

/-- The line as it is shown. Its line ends are made visible if the place is at one of them, and are
left out otherwise. -/
def shownLine (error : ScanError) : List Char :=
  let line := error.lineBefore ++ error.lineAfter
  if error.rest.head?.any isLineEnd then line.map visible else line.filter (!isLineEnd ·)

/-- The blank space up to the mark. Tabs are kept so that the mark stands under its place. -/
def margin (error : ScanError) : List Char :=
  (error.shownLine.take (error.column - 1)).map fun c => if c = '\t' then '\t' else ' '

/-- The whole message, six lines without a final line end. -/
def message (error : ScanError) : String :=
  let number := toString error.line
  let space := String.ofList (List.replicate number.length ' ')
  String.intercalate "\n"
    ["Pest error: " ++ space ++ "--> " ++ number ++ ":" ++ toString error.column,
     space ++ " |",
     number ++ " | " ++ String.ofList error.shownLine,
     space ++ " | " ++ String.ofList error.margin ++ "^---",
     space ++ " |",
     space ++ " = expected " ++ error.expected.text]

end ScanError

end Superstep
