import Superstep.Proofs.Cleanup
import Superstep.Proofs.Messages
import Superstep.Proofs.Planner.Contexts

/-!
# How many blocks a plan has

A statement becomes at most one block. If the block creates a table that does not outlive the
superstep, the table is dropped by one more block at the end of the loop. So the number of blocks is
settled by counting the statements of each kind, where an `if` counts only if its context is not the
table of combined messages.
-/

namespace Superstep

namespace Statement

def sendsOneWay (statement : Statement) : Bool :=
  statement.way? = some .incoming || statement.way? = some .outgoing

def sendsBothWays (statement : Statement) : Bool := statement.way? = some .both

end Statement

/-- Whether an occurrence is an `if` that intersects its context with the condition. -/
def Occurrence.isInnerIf (occurrence : Occurrence) : Bool :=
  occurrence.statement.kind = .beginIf && occurrence.context ≠ Table.combined

/-- A union stands for two descriptors more than other blocks. -/
theorem Plan.descriptorCount_eq (plan : Plan) :
    plan.descriptorCount = plan.blocks.length + 2 * plan.blocks.countP (·.action.isUnion) := by
  rw [descriptorCount]
  induction plan.blocks with
  | nil => rfl
  | cons block blocks ih =>
    have own : block.descriptorCount = 1 + 2 * (if block.action.isUnion then 1 else 0) := by
      obtain ⟨stage, depth, action⟩ := block
      cases action <;> rfl
    rw [List.foldr_cons, List.length_cons, List.countP_cons]
    omega

namespace Planner

open Block

/-- The blocks of a statement, and the drops of the tables that they create. -/
theorem Step.block_count {state after : PlanState} {planned : Statement} {added : List Block}
    (step : Step state planned added after) :
    added.length + (transientTargets added).length =
      2 * [planned].countP (·.kind = .assign) +
        2 * [(⟨state.scope.current, planned⟩ : Occurrence)].countP (·.isInnerIf) +
        [planned].countP (·.kind = .setValue) + [planned].countP (·.sendsOneWay) +
        [planned].countP (·.sendsBothWays) := by
  cases step with
  | openOuter condition notGraph live outer =>
    have default : state.scope.current = Table.combined := of_decide_eq_true outer
    simp [transientTargets, Occurrence.isInnerIf, default, Statement.kind, Statement.sendsOneWay,
      Statement.sendsBothWays, Statement.way?]
  | openInner condition notGraph live inner =>
    have deeper : state.scope.current ≠ Table.combined := of_decide_eq_false inner
    obtain ⟨dropped, _⟩ := (Table.isReserved_eq_false_iff _).mp
      (FreshNames.next_not_reserved state.names state.tables)
    simp [transientTargets, Action.produced?, intersection, dropped, Occurrence.isInnerIf, deeper,
      Statement.kind, Statement.sendsOneWay, Statement.sendsBothWays, Statement.way?]
  | close => rfl
  | setValue => rfl
  | send direction content way scanned names =>
    -- Messages outlive the superstep, so their table is not dropped with the others.
    have kept : Table.isProtected Table.message = true := by decide
    cases way <;>
      simp [sendBlock?, Sending.action?, Sending.incoming, Sending.outgoing, Sending.select,
        transientTargets, Action.produced?, kept, Occurrence.isInnerIf, Statement.kind,
        Statement.sendsOneWay, Statement.sendsBothWays, Statement.way?, names, Except.toOption]
  | assign target expression scanned assignable =>
    obtain ⟨dropped, _⟩ := (Table.isReserved_eq_false_iff target).mp assignable
    simp [transientTargets, Action.produced?, selection, dropped, Occurrence.isInnerIf,
      Statement.kind, Statement.sendsOneWay, Statement.sendsBothWays, Statement.way?]

/-- Over a run the counts of single statements add up, the drops of what they create included. -/
theorem Steps.block_count {state after : PlanState} {planned : List Statement}
    {added : List Block} (run : Steps state planned added after) :
    added.length + (transientTargets added).length =
      2 * planned.countP (·.kind = .assign) +
        2 * ((nestingOf state).occurrences planned).countP (·.isInnerIf) +
        planned.countP (·.kind = .setValue) + planned.countP (·.sendsOneWay) +
        planned.countP (·.sendsBothWays) := by
  induction run with
  | done => rfl
  | @step state between after first others added more now _ ih =>
    have here := now.block_count
    have cut : (nestingOf state).occurrences (first :: others) =
        [⟨state.scope.current, first⟩] ++ (nestingOf between).occurrences others := by
      rw [now.nesting]
      rfl
    rw [transientTargets_append, cut, ← List.singleton_append]
    simp only [List.length_append, List.countP_append]
    omega

/-- Only sends both ways become unions. -/
theorem Step.union_count {state after : PlanState} {planned : Statement} {added : List Block}
    (step : Step state planned added after) :
    added.countP (·.action.isUnion) = [planned].countP (·.sendsBothWays) := by
  cases step with
  | send direction content way scanned names =>
    cases way <;>
      simp [sendBlock?, Sending.action?, Action.isUnion, Statement.sendsBothWays, Statement.way?,
        names, Except.toOption]
  | openOuter | openInner | close | setValue | assign => rfl

theorem Steps.union_count {state after : PlanState} {planned : List Statement}
    {added : List Block} (run : Steps state planned added after) :
    added.countP (·.action.isUnion) = planned.countP (·.sendsBothWays) := by
  induction run with
  | done => rfl
  | step now _ ih =>
    rw [List.countP_append, now.union_count, ih, ← List.countP_append, List.singleton_append]

/-- The blocks before the loop, none of which is a union. -/
theorem initBlocks_count (algorithm : Algorithm) (message : FirstMessage) :
    (initBlocks algorithm message).length =
        7 + 2 * (algorithm.mentions Table.inCounts).toNat +
          (algorithm.mentions Table.outCounts).toNat ∧
      (initBlocks algorithm message).countP (·.action.isUnion) = 0 := by
  cases incoming : algorithm.mentions Table.inCounts <;>
    cases outgoing : algorithm.mentions Table.outCounts <;>
    simp [initBlocks, firstBlocks, incomingBlocks, outgoingBlocks, incoming, outgoing,
      Action.isUnion]

namespace Derivation

variable {options : List (String × String)} {stem : String} {plan : Plan}
  (derived : Derivation options stem plan)

/-- The loop combines and drops the messages, and in the end drops the combined messages beside the
tables of the statements. -/
theorem body_length :
    derived.body.length =
      3 + (derived.added.length + (transientTargets derived.added).length) := by
  have live := congrArg List.length derived.run.transient
  rw [entry_transient, List.length_append, List.length_singleton] at live
  rw [body_eq, List.length_append, List.length_append, List.length_map, live]
  simp only [List.length_cons, List.length_nil]
  omega

theorem added_count :
    derived.added.length + (transientTargets derived.added).length =
      2 * derived.statements.countP (·.kind = .assign) +
        2 * derived.occurrences.countP (·.isInnerIf) +
        derived.statements.countP (·.kind = .setValue) +
        derived.statements.countP (·.sendsOneWay) +
        derived.statements.countP (·.sendsBothWays) :=
  derived.run.block_count

theorem body_union_count :
    derived.body.countP (·.action.isUnion) = derived.statements.countP (·.sendsBothWays) := by
  have drops : (derived.ended.tables.transient.map dropBlock).countP (·.action.isUnion) = 0 := by
    rw [List.countP_map, List.countP_eq_zero]
    intro table _
    exact Bool.false_ne_true
  rw [body_eq, List.countP_append, List.countP_append, drops, derived.run.union_count]
  exact Nat.zero_add _

include derived

theorem union_count :
    plan.blocks.countP (·.action.isUnion) = derived.statements.countP (·.sendsBothWays) := by
  rw [derived.blocks_eq, List.countP_append, List.countP_cons, List.countP_append,
    (initBlocks_count _ _).2, derived.body_union_count]
  exact Nat.zero_add _

end Derivation

/-- The number of blocks of a plan: twelve for every algorithm, those that count edges, two for each
assignment and each `if` inside of another context than the combined messages, and one for each other
statement that becomes a block. A send both ways counts for two descriptors more. -/
theorem blocks_accounted (options : List (String × String)) (stem : String) (plan : Plan)
    (success : Plan.ofOptions options stem = .ok plan) :
    ∃ derived : Derivation options stem plan,
      Program.ofOptions options = .ok derived.statements ∧
      InForce derived.start derived.occurrences ∧
      plan.blocks.length =
        12 + 2 * (derived.described.mentions Table.inCounts).toNat +
          (derived.described.mentions Table.outCounts).toNat +
          2 * derived.statements.countP (·.kind = .assign) +
          2 * derived.occurrences.countP (·.isInnerIf) +
          derived.statements.countP (·.kind = .setValue) +
          derived.statements.countP (·.sendsOneWay) +
          derived.statements.countP (·.sendsBothWays) ∧
      plan.descriptorCount =
        plan.blocks.length + 2 * derived.statements.countP (·.sendsBothWays) := by
  obtain ⟨derived⟩ := (ofOptions_ok_iff options stem plan).mp success
  refine ⟨derived, derived.program_eq, derived.occurrences_inForce, ?_, ?_⟩
  · have before := (initBlocks_count derived.described derived.message).1
    have inside := derived.body_length
    have counted := derived.added_count
    have blocks := congrArg List.length derived.blocks_eq
    rw [List.length_append, List.length_cons, List.length_append, List.length_singleton] at blocks
    omega
  · rw [plan.descriptorCount_eq, derived.union_count]

/-- A program with both degree tables, sends in three directions, and three `if`s of which the last
has another context than the combined messages. -/
def everyKind : List (String × String) :=
  sampleOptions ("a = in_cnts.id > 0\nif (cur) \x7b\nif (a) \x7b\nif (a) \x7b\nsetVal(1)\n" ++
    "send(all, 1)\n\x7d\n\x7d\n\x7d\nsend(no, 1)\nsend(in, out_cnts.cnt)")

/-- A program with a statement of every kind, one of its three `if`s needing a join. -/
theorem blocks_accounted_everyKind :
    ∃ plan, Plan.ofOptions everyKind "scope_" = .ok plan ∧
      plan.blocks.length = 12 + 2 * 1 + 1 + 2 * 1 + 2 * 1 + 1 + 1 + 1 ∧
      plan.descriptorCount = plan.blocks.length + 2 * 1 := by
  have planned : (Plan.ofOptions everyKind "scope_").toOption.isSome = true := by decide +kernel
  have degrees : (Algorithm.ofOptions everyKind).toOption.map (fun described =>
      (described.mentions Table.inCounts, described.mentions Table.outCounts)) =
        some (true, true) := by decide +kernel
  have read : Program.ofOptions everyKind = .ok [.assign "a" "in_cnts.id > 0", .beginIf "cur",
      .beginIf "a", .beginIf "a", .setValue "1", .send "all" "1", .endIf, .endIf, .endIf,
      .send "no" "1", .send "in" "out_cnts.cnt"] := by decide +kernel
  obtain ⟨plan, found⟩ := Option.isSome_iff_exists.mp planned
  have success := ok_of_toOption _ _ found
  obtain ⟨derived, program, _, blocks, descriptors⟩ :=
    blocks_accounted everyKind "scope_" plan success
  rw [derived.describes] at degrees
  obtain ⟨incoming, outgoing⟩ := Prod.mk.inj (Option.some.inj degrees)
  have statements := Except.ok.inj (program.symm.trans read)
  have inner : derived.occurrences.countP (·.isInnerIf) = 1 := by
    rw [Derivation.occurrences, statements, Nesting.start, degreeTables, incoming, outgoing]
    decide
  rw [incoming, outgoing, inner, statements] at blocks
  rw [statements] at descriptors
  exact ⟨plan, success, blocks, descriptors⟩

end Planner

end Superstep
