import Superstep.Statement
import Superstep.Token.ScanError

/-!
# Why an algorithm cannot be planned

Every way in which planning fails is one cause, and all wording is in `PlanError.message`.
-/

namespace Superstep

inductive ScopeFault where
  /-- A closing brace without an `if`. -/
  | strayEnd
  /-- So many `if`s that are never closed. -/
  | unclosed (count : Nat)
  deriving DecidableEq, Repr

def ScopeFault.reason : ScopeFault → String
  | .strayEnd => "'\x7d' without a matching 'if'"
  | .unclosed count => toString count ++ " 'if' block(s) never closed"

inductive OptionKey where
  | loopEnd | firstValue | firstMessage | messageType | vertexType | combine | update
  deriving DecidableEq, Repr

def OptionKey.name : OptionKey → String
  | .loopEnd => "End"
  | .firstValue => "InitiateVal"
  | .firstMessage => "InitialMessage"
  | .messageType => "MessageValType"
  | .vertexType => "VertexValType"
  | .combine => "CombineMessage"
  | .update => "UpdateAndSend"

inductive OptionFault where
  | loopEndShape
  | superstepsMissing
  | superstepsNotInteger
  | firstMessageShape
  deriving DecidableEq, Repr

def OptionFault.key : OptionFault → OptionKey
  | .loopEndShape | .superstepsMissing | .superstepsNotInteger => .loopEnd
  | .firstMessageShape => .firstMessage

def OptionFault.reason : OptionFault → String
  | .loopEndShape => "expected NO_MESSAGE or Name(arg, supersteps)"
  | .superstepsMissing => "missing superstep count"
  | .superstepsNotInteger => "superstep count must be an integer"
  | .firstMessageShape => "expected two comma-separated values"

inductive PlanError where
  | malformed (malformed : Malformed)
  | unbalancedScope (fault : ScopeFault)
  | unknownDirection (text : String)
  /-- An expression that has to read a table reads none. -/
  | noTable (expression : String)
  | unknownTable (table : String)
  | tableRedefined (table : String)
  | reservedTable (table : String)
  | missingOption (key : OptionKey)
  | invalidOption (fault : OptionFault)
  | unreadable (error : ScanError)
  deriving DecidableEq, Repr

def PlanError.message : PlanError → String
  | .malformed fault => fault.message
  | .unbalancedScope fault => "Unbalanced scope: " ++ fault.reason
  | .unknownDirection text =>
    "Unknown message direction '" ++ text ++ "' (expected in, out, all or no)"
  | .noTable expression => "Expression references no table: " ++ expression
  | .unknownTable table => "Table '" ++ table ++ "' is referenced before it is created"
  | .tableRedefined table => "Table '" ++ table ++ "' is written more than once in a superstep"
  | .reservedTable table =>
    "Table '" ++ table ++ "' is reserved and cannot be assigned or used as a condition"
  | .missingOption key => "Missing option: " ++ key.name
  | .invalidOption fault => "Invalid option " ++ fault.key.name ++ ": " ++ fault.reason
  | .unreadable error => "Parse error: " ++ error.message

end Superstep
