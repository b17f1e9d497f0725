import Superstep.Proofs.Planner.Layout
import Superstep.Proofs.Planner.Liveness

/-!
# The blocks that create the message table

Every send with a direction other than `no` becomes one block that creates the message table, and no
other statement becomes such a block. The working set does not tell sends apart: the message table
counts as created after `send(no, ..)` too, and it may be created again.
-/

namespace Superstep

def Statement.way? : Statement → Option Direction
  | .send direction _ => (Direction.read direction).toOption
  | _ => none

/-- The directions in which statements produce messages, in order. `no` produces none. -/
def Statement.productiveWays (statements : List Statement) : List Direction :=
  (statements.filterMap way?).filter (· ≠ .none)

def Action.isUnion : Action → Bool
  | .union _ => true
  | _ => false

def Block.behindMessageDrop (blocks : List Block) : List Block :=
  (blocks.dropWhile (·.action.dropped? ≠ some Table.message)).drop 1

namespace Planner

open Block

theorem productiveWays_append (earlier later : List Statement) :
    Statement.productiveWays (earlier ++ later) =
      Statement.productiveWays earlier ++ Statement.productiveWays later := by
  simp [Statement.productiveWays]

/-- A statement creates the message table once for the direction in which it produces messages. The
block is a union if the direction is both ways. -/
theorem Step.creates_message {state after : PlanState} {planned : Statement} {added : List Block}
    (step : Step state planned added after) :
    (added.filter (·.action.createsMessage)).map (·.action.isUnion) =
      (Statement.productiveWays [planned]).map (· == .both) := by
  cases step with
  | openOuter | close | setValue => rfl
  -- Fresh tables and assigned tables have names of their own.
  | openInner =>
    have other := Table.ne_message_of_not_reserved _
      (FreshNames.next_not_reserved state.names state.tables)
    simp [Action.createsMessage, Action.produced?, intersection, other, Statement.productiveWays,
      Statement.way?]
  | send direction content way scanned names =>
    cases way <;>
      simp [sendBlock?, Sending.action?, Sending.incoming, Sending.outgoing, Sending.select,
        Action.createsMessage, Action.produced?, Action.isUnion, Statement.productiveWays,
        Statement.way?, names, Except.toOption]
  | assign target expression scanned assignable =>
    have other := Table.ne_message_of_not_reserved target assignable
    simp [Action.createsMessage, Action.produced?, selection, other, Statement.productiveWays,
      Statement.way?]

/-- Each send that goes anywhere creates the message table once, by a union if it goes both ways. -/
theorem Steps.creates_message {state after : PlanState} {planned : List Statement}
    {added : List Block} (run : Steps state planned added after) :
    (added.filter (·.action.createsMessage)).map (·.action.isUnion) =
      (Statement.productiveWays planned).map (· == .both) := by
  induction run with
  | done => rfl
  | step now _ ih =>
    rw [List.filter_append, List.map_append, now.creates_message, ih, ← List.map_append,
      ← productiveWays_append]
    rfl

theorem drops_create_no_message (tables : List String) :
    (tables.map dropBlock).filter (·.action.createsMessage) = [] := by
  induction tables with
  | nil => rfl
  | cons table others ih => exact ih

namespace Derivation

variable {options : List (String × String)} {stem : String} {plan : Plan}
  (derived : Derivation options stem plan)

/-- The combined messages are dropped right at the front of the loop. -/
theorem behindMessageDrop_eq :
    behindMessageDrop (loopBody plan.blocks) =
      derived.added ++ derived.ended.tables.transient.map dropBlock := by
  rw [derived.loopBody_eq]
  rfl

theorem creates_message :
    ((behindMessageDrop (loopBody plan.blocks)).filter (·.action.createsMessage)).map
        (·.action.isUnion) =
      (Statement.productiveWays derived.statements).map (· == .both) := by
  rw [derived.behindMessageDrop_eq, List.filter_append, drops_create_no_message, List.append_nil]
  exact derived.run.creates_message

theorem creates_message_length :
    ((behindMessageDrop (loopBody plan.blocks)).filter (·.action.createsMessage)).length =
      (Statement.productiveWays derived.statements).length := by
  have counted := congrArg List.length derived.creates_message
  rwa [List.length_map, List.length_map] at counted

end Derivation

/-- Behind the drop of the messages the loop creates the message table once for each statement that
sends in a direction other than `no`, in the order of the statements. So the table that is looked at
when the loop is closed is created exactly once if and only if there is exactly one such statement.
-/
theorem message_created_per_send (options : List (String × String)) (stem : String) (plan : Plan)
    (success : Plan.ofOptions options stem = .ok plan) :
    ∃ program loopEnd, Program.ofOptions options = .ok program ∧
      fromClosing plan.blocks = [⟨"endWhile", 0, .endLoop loopEnd Table.message⟩] ∧
      ((behindMessageDrop (loopBody plan.blocks)).filter (·.action.createsMessage)).map
          (·.action.isUnion) =
        (Statement.productiveWays program).map (· == .both) ∧
      (((behindMessageDrop (loopBody plan.blocks)).filter (·.action.createsMessage)).length = 1 ↔
        (Statement.productiveWays program).length = 1) := by
  obtain ⟨derived⟩ := (ofOptions_ok_iff options stem plan).mp success
  refine ⟨derived.statements, derived.loopEnd, derived.program_eq, derived.fromClosing_eq,
    derived.creates_message, ?_⟩
  rw [derived.creates_message_length]

theorem message_created_per_send_nestedSend :
    ∃ plan, Plan.ofOptions nestedSend "scope_" = .ok plan ∧
      ((behindMessageDrop (loopBody plan.blocks)).filter (·.action.createsMessage)).map
        (·.action.isUnion) = [true] := by
  have planned : (Plan.ofOptions nestedSend "scope_").toOption.isSome = true := by decide +kernel
  have sends : (Program.ofOptions nestedSend).toOption.map Statement.productiveWays =
      some [.both] := by decide +kernel
  obtain ⟨plan, held⟩ := Option.isSome_iff_exists.mp planned
  have success := ok_of_toOption _ _ held
  obtain ⟨program, _, reads, _, created, _⟩ :=
    message_created_per_send nestedSend "scope_" plan success
  rw [reads] at sends
  refine ⟨plan, success, ?_⟩
  rw [created, Option.some.inj sends]
  rfl

/-- Plans that never create the message table in the loop, and plans that create it twice. -/
theorem message_not_created_once :
    (∃ plan, Plan.ofOptions (sampleOptions "send(no, getVal())") "scope_" = .ok plan ∧
      (behindMessageDrop (loopBody plan.blocks)).filter (·.action.createsMessage) = []) ∧
    (∃ plan, Plan.ofOptions (sampleOptions "send(in, getVal())\nsend(out, getVal())") "scope_" =
        .ok plan ∧
      ((behindMessageDrop (loopBody plan.blocks)).filter
        (·.action.createsMessage)).length = 2) := by
  have none : (Plan.ofOptions (sampleOptions "send(no, getVal())") "scope_").toOption.map
      (fun plan => (behindMessageDrop (loopBody plan.blocks)).filter (·.action.createsMessage)) =
        some [] := by decide +kernel
  have twice : (Plan.ofOptions (sampleOptions "send(in, getVal())\nsend(out, getVal())")
      "scope_").toOption.map (fun plan =>
        ((behindMessageDrop (loopBody plan.blocks)).filter (·.action.createsMessage)).length) =
        some 2 := by decide +kernel
  obtain ⟨silent, planned, created⟩ := Option.map_eq_some_iff.mp none
  obtain ⟨double, plannedTwice, createdTwice⟩ := Option.map_eq_some_iff.mp twice
  exact ⟨⟨silent, ok_of_toOption _ _ planned, created⟩,
    ⟨double, ok_of_toOption _ _ plannedTwice, createdTwice⟩⟩

end Planner

end Superstep
