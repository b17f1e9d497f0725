import Superstep.Block

/-!
# The loop of a list of blocks

A list of blocks is cut at the first block that opens a loop and the first block behind it that
closes one. This module also says what a single block creates, reads and drops.
-/

namespace Superstep

namespace Action

def produced? : Action → Option String
  | .select query => query.target
  | .union pair => some pair.target
  | _ => none

def dropped? : Action → Option String
  | .dropTable table => some table
  | _ => none

/-- The tables in the from-list of a select, or of both sides of a union. -/
def sources : Action → List String
  | .select query => query.sources
  | .union pair => pair.left.select.sources ++ pair.right.select.sources
  | _ => []

/-- The tables that have to exist when an action runs. -/
def required : Action → List String
  | .insert table (.select _ source) => [table, source]
  | .insert table (.values _) => [table]
  | .updateVertex context _ => [Table.values, context]
  | .endLoop _ artifact => [artifact]
  | other => other.sources

def created? : Action → Option String
  | .createTable table _ => some table
  | other => other.produced?

/-- Whether an action stores rows in the message table, which it creates. -/
def createsMessage (action : Action) : Bool := action.produced? = some Table.message

/-- The actions that statements become. -/
def isQuery : Action → Bool
  | .select _ | .union _ | .updateVertex _ _ => true
  | _ => false

theorem dropped?_of_isQuery (action : Action) (query : action.isQuery = true) :
    action.dropped? = none := by
  cases action with
  | dropTable => cases query
  | _ => rfl

theorem created?_of_isQuery (action : Action) (query : action.isQuery = true) :
    action.created? = action.produced? := by
  cases action with
  | createTable => cases query
  | _ => rfl

end Action

namespace Block

def opensLoop (block : Block) : Bool :=
  match block.action with
  | .beginLoop _ _ => true
  | _ => false

def closesLoop (block : Block) : Bool :=
  match block.action with
  | .endLoop _ _ => true
  | _ => false

def beforeLoop (blocks : List Block) : List Block := blocks.takeWhile (!·.opensLoop)

def afterOpening (blocks : List Block) : List Block := (blocks.dropWhile (!·.opensLoop)).drop 1

def loopBody (blocks : List Block) : List Block := (afterOpening blocks).takeWhile (!·.closesLoop)

def fromClosing (blocks : List Block) : List Block :=
  (afterOpening blocks).dropWhile (!·.closesLoop)

theorem closesLoop_of_isQuery (block : Block) (query : block.action.isQuery = true) :
    block.closesLoop = false := by
  unfold closesLoop
  split
  · rename_i same
    rw [same] at query
    cases query
  · rfl

section Cut

variable (before body after : List Block) (opening closing : Block)
  (plain : ∀ block ∈ before, block.opensLoop = false) (opens : opening.opensLoop = true)

include plain opens

theorem beforeLoop_append : beforeLoop (before ++ opening :: after) = before := by
  rw [beforeLoop, List.takeWhile_append_of_pos (by simpa using plain),
    List.takeWhile_cons_of_neg (by simp [opens]), List.append_nil]

theorem afterOpening_append : afterOpening (before ++ opening :: after) = after := by
  rw [afterOpening, List.dropWhile_append_of_pos (by simpa using plain),
    List.dropWhile_cons_of_neg (by simp [opens]), List.drop_one, List.tail_cons]

variable (inside : ∀ block ∈ body, block.closesLoop = false) (closes : closing.closesLoop = true)

include inside closes

theorem loopBody_append :
    loopBody (before ++ opening :: (body ++ closing :: after)) = body := by
  rw [loopBody, afterOpening_append before _ opening plain opens,
    List.takeWhile_append_of_pos (by simpa using inside),
    List.takeWhile_cons_of_neg (by simp [closes]), List.append_nil]

theorem fromClosing_append :
    fromClosing (before ++ opening :: (body ++ closing :: after)) = closing :: after := by
  rw [fromClosing, afterOpening_append before _ opening plain opens,
    List.dropWhile_append_of_pos (by simpa using inside),
    List.dropWhile_cons_of_neg (by simp [closes])]

end Cut

end Block

end Superstep
