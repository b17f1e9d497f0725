import Superstep.Text.Blank

/-!
# Directions of messages

Messages travel along the relation `edge(src, dest)`.
-/

namespace Superstep

inductive Direction where
  /-- Against the edges that enter the sender, to their sources. -/
  | incoming
  /-- Along the edges that leave the sender, to their destinations. -/
  | outgoing
  /-- Both ways. -/
  | both
  /-- Nothing is sent. -/
  | none
  deriving DecidableEq, Repr

namespace Direction

def text : Direction → String
  | .incoming => "in"
  | .outgoing => "out"
  | .both => "all"
  | .none => "no"

/-- The direction that a text names, blanks around it aside. The error is the trimmed text. -/
def read (source : String) : Except String Direction :=
  let word := Text.trimmed source
  if word = "in" then .ok .incoming
  else if word = "out" then .ok .outgoing
  else if word = "all" then .ok .both
  else if word = "no" then .ok .none
  else .error word

end Direction

end Superstep
