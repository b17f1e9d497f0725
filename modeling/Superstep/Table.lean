/-!
# Tables

The tables that every plan knows by name. The input graph is `vertex` and `edge`; the plan keeps the
vertex values, the messages, the combined messages of a superstep and the degrees in tables of its own.
-/

namespace Superstep.Table

def vertex : String := "vertex"

/-- The edges of the input graph, the only table that is not keyed by vertex. -/
def edge : String := "edge"

/-- The value of each vertex. -/
def values : String := "next"

/-- The messages on their way. -/
def message : String := "message"

/-- The messages of the current superstep, combined into one value for each vertex. -/
def combined : String := "cur"

/-- The number of edges that enter each vertex. -/
def inCounts : String := "in_cnts"

/-- The number of edges that leave each vertex. -/
def outCounts : String := "out_cnts"

/-- A table of the input graph. -/
def isBase (table : String) : Bool := table = vertex || table = edge

/-- A table that outlives a superstep and may be written again. -/
def isProtected (table : String) : Bool :=
  table = message || table = values || table = inCounts || table = outCounts

/-- A table that a program may not assign. -/
def isReserved (table : String) : Bool := isProtected table || isBase table || table = combined

end Superstep.Table
