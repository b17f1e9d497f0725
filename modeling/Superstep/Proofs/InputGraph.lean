import Superstep.Proofs.Cleanup
import Superstep.Proofs.Planner.Liveness

/-!
# The input graph is only read

A block changes the table that it drops and the table that it writes. The tables that are changed
come from the blocks around the program, from assigned names, from fresh names and from the working
set that is dropped at the end of a superstep; none of these can be a table of the graph.
-/

namespace Superstep

namespace Action

def isUpdate : Action → Bool
  | .updateVertex _ _ => true
  | _ => false

/-- Whether an action is SQL as it is written, of which nothing is known. -/
def isVerbatim : Action → Bool
  | .statement _ => true
  | _ => false

theorem isVerbatim_of_isQuery (action : Action) (query : action.isQuery = true) :
    action.isVerbatim = false := by
  cases action with
  | statement => cases query
  | _ => rfl

end Action

namespace Block

/-- The tables that a block changes: the one that it drops, and the one that it writes. -/
def changed (block : Block) : List String := block.action.dropped?.toList ++ block.target?.toList

theorem target?_of_isQuery (block : Block) (query : block.action.isQuery = true) :
    block.target? = if block.action.isUpdate then some Table.values else block.action.produced? := by
  obtain ⟨stage, depth, action⟩ := block
  cases action with
  | select | union | updateVertex => rfl
  | _ => cases query

theorem mem_changed_of_isQuery (block : Block) (query : block.action.isQuery = true)
    (table : String) :
    table ∈ block.changed ↔
      if block.action.isUpdate then table = Table.values
      else block.action.produced? = some table := by
  have kept := Action.dropped?_of_isQuery block.action query
  rw [changed, kept, target?_of_isQuery block query]
  split <;> simp [eq_comm]

/-- Whether a block writes the vertex values other than by an update. -/
def replacesValues (block : Block) : Bool :=
  block.target? = some Table.values && !block.action.isUpdate

end Block

namespace Planner

open Block

/-- A statement updates the vertex values, or creates messages or a table that plans do not know. -/
theorem Step.mem_changed {state after : PlanState} {planned : Statement} {added : List Block}
    (step : Step state planned added after) (block : Block) (member : block ∈ added)
    (table : String) (changes : table ∈ block.changed) :
    block.action.isUpdate = true ∧ table = Table.values ∨
      block.action.isUpdate = false ∧ (table = Table.message ∨ Table.isReserved table = false) := by
  have query := step.isQuery block member
  have changed := (mem_changed_of_isQuery block query table).mp changes
  cases update : block.action.isUpdate with
  | true =>
    rw [update, if_pos rfl] at changed
    exact .inl ⟨rfl, changed⟩
  | false =>
    rw [update, if_neg Bool.false_ne_true] at changed
    rcases step.created_new block member table changed with message | ⟨free, _⟩
    · exact .inr ⟨rfl, .inl message⟩
    · exact .inr ⟨rfl, .inr free⟩

/-- The statements of a program change the vertex values, the messages and tables with names that
are not reserved. -/
theorem Steps.mem_changed {state after : PlanState} {planned : List Statement} {added : List Block}
    (run : Steps state planned added after) (block : Block) (member : block ∈ added)
    (table : String) (changes : table ∈ block.changed) :
    block.action.isUpdate = true ∧ table = Table.values ∨
      block.action.isUpdate = false ∧ (table = Table.message ∨ Table.isReserved table = false) := by
  induction run with
  | done => cases member
  | step now _ ih =>
    rcases List.mem_append.mp member with early | late
    · exact now.mem_changed block early table changes
    · exact ih late

/-- Before the loop only tables of the plan itself are changed, and the vertex values are replaced
by one block. -/
theorem initBlocks_changed (algorithm : Algorithm) (message : FirstMessage) :
    (∀ block ∈ initBlocks algorithm message, block.action.isVerbatim = false ∧
      ∀ table ∈ block.changed, Table.isBase table = false) ∧
    ∃ copy ∈ initBlocks algorithm message, copy.stage = "copyVertex" ∧
      (initBlocks algorithm message).filter (·.replacesValues) = [copy] := by
  have counted : (incomingBlocks algorithm ++ outgoingBlocks algorithm).filter (·.replacesValues) =
      [] := by
    rw [incomingBlocks, outgoingBlocks]
    split <;> split <;> rfl
  refine ⟨forall_mem_initBlocks ?_ (by decide) (by decide), ?_⟩
  · simp +decide [firstBlocks, changed, Action.dropped?, Block.target?, Action.isVerbatim]
  · rw [initBlocks, List.append_assoc, List.filter_append, counted, List.append_nil]
    exact ⟨_, List.mem_append_left _ (by simp [firstBlocks]), rfl, rfl⟩

namespace Derivation

variable {options : List (String × String)} {stem : String} {plan : Plan}
  (derived : Derivation options stem plan)

/-- In the loop the messages are dropped, the vertex values are updated, and all other tables that
are changed do not outlive the superstep. -/
theorem mem_changed_body (block : Block) (member : block ∈ derived.body) (table : String)
    (changes : table ∈ block.changed) :
    block.action.isUpdate = true ∧ table = Table.values ∨
      block.action.isUpdate = false ∧
        (table = Table.message ∨ table = Table.combined ∨ Table.isReserved table = false) := by
  simp only [body, List.mem_cons, List.mem_append, List.mem_map] at member
  rcases member with rfl | rfl | statement | ⟨dropped, live, rfl⟩
  · exact .inr ⟨rfl, .inr (.inl (List.mem_singleton.mp changes))⟩
  · exact .inr ⟨rfl, .inl (List.mem_singleton.mp changes)⟩
  · rcases derived.run.mem_changed block statement table changes with update | ⟨other, known⟩
    · exact .inl update
    · rcases known with message | free
      · exact .inr ⟨other, .inl message⟩
      · exact .inr ⟨other, .inr (.inr free)⟩
  · obtain rfl : table = dropped := List.mem_singleton.mp changes
    exact .inr ⟨rfl, .inr (derived.mem_transient table live)⟩

theorem verbatim_body (block : Block) (member : block ∈ derived.body) :
    block.action.isVerbatim = false := by
  simp only [body, List.mem_cons, List.mem_append, List.mem_map] at member
  rcases member with rfl | rfl | statement | ⟨dropped, _, rfl⟩
  · rfl
  · rfl
  · exact Action.isVerbatim_of_isQuery _ (derived.run.isQuery block statement)
  · rfl

theorem base_unchanged_body (block : Block) (member : block ∈ derived.body) (table : String)
    (changes : table ∈ block.changed) : Table.isBase table = false := by
  rcases derived.mem_changed_body block member table changes with ⟨_, rfl⟩ | ⟨_, rfl | rfl | free⟩
  · decide
  · decide
  · decide
  · exact ((Table.isReserved_eq_false_iff table).mp free).2.1

/-- Nothing in the loop replaces the table of vertex values. -/
theorem values_kept_body (block : Block) (member : block ∈ derived.body) :
    block.replacesValues = false := by
  by_contra replaces
  simp only [replacesValues, Bool.not_eq_false, Bool.and_eq_true, decide_eq_true_eq,
    Bool.not_eq_true'] at replaces
  have changes : Table.values ∈ block.changed :=
    List.mem_append_right _ (Option.mem_toList.mpr replaces.1)
  rcases derived.mem_changed_body block member _ changes with ⟨update, _⟩ | ⟨_, known⟩
  · rw [replaces.2] at update
    cases update
  · revert known
    decide

include derived

theorem base_unchanged (block : Block) (member : block ∈ plan.blocks) :
    block.action.isVerbatim = false ∧ ∀ table ∈ block.changed, Table.isBase table = false := by
  rw [derived.blocks_eq] at member
  simp only [List.mem_append, List.mem_cons, List.not_mem_nil, or_false] at member
  rcases member with before | rfl | inside | rfl
  · exact (initBlocks_changed _ _).1 block before
  · exact ⟨rfl, fun _ changes => by cases changes⟩
  · exact ⟨derived.verbatim_body block inside, derived.base_unchanged_body block inside⟩
  · exact ⟨rfl, fun _ changes => by cases changes⟩

/-- The vertex values are replaced once, by the copy before the loop. -/
theorem values_replaced_once : ∃ copy ∈ beforeLoop plan.blocks, copy.stage = "copyVertex" ∧
    plan.blocks.filter (·.replacesValues) = [copy] := by
  obtain ⟨_, copy, copies, stage, once⟩ := initBlocks_changed derived.described derived.message
  have inside : derived.body.filter (·.replacesValues) = [] :=
    List.filter_eq_nil_iff.mpr fun block member => by simp [derived.values_kept_body block member]
  refine ⟨copy, ?_, stage, ?_⟩
  · rw [derived.beforeLoop_eq]
    exact copies
  · rw [derived.blocks_eq, List.filter_append, once, List.filter_cons, List.filter_append, inside]
    rfl

/-- In the loop no table that outlives the superstep is dropped, the messages aside. -/
theorem protected_kept (block : Block) (member : block ∈ derived.body) (table : String)
    (kept : Table.isProtected table = true) (other : table ≠ Table.message) :
    block.action.dropped? ≠ some table := by
  intro drops
  have dropped : table ∈ derived.body.filterMap (·.action.dropped?) :=
    List.mem_filterMap.mpr ⟨block, member, drops⟩
  rw [derived.dropped_body] at dropped
  rcases List.mem_cons.mp dropped with message | transient
  · exact other message
  · have lost := ((WorkingSet.mem_transient _ _).mp transient).2
    rw [kept] at lost
    cases lost

end Derivation

/-- No block drops or writes a table of the input graph. The vertex values are created by one block
before the loop and only updated after it, and the loop drops neither them nor the degree tables.
-/
theorem graph_only_read (options : List (String × String)) (stem : String) (plan : Plan)
    (success : Plan.ofOptions options stem = .ok plan) :
    (∀ block ∈ plan.blocks, block.action.isVerbatim = false ∧
      Table.vertex ∉ block.changed ∧ Table.edge ∉ block.changed) ∧
    (∃ copy ∈ beforeLoop plan.blocks, copy.stage = "copyVertex" ∧
      plan.blocks.filter (·.replacesValues) = [copy]) ∧
    ∀ block ∈ loopBody plan.blocks, ∀ table ∈ [Table.values, Table.inCounts, Table.outCounts],
      block.action.dropped? ≠ some table := by
  obtain ⟨derived⟩ := (ofOptions_ok_iff options stem plan).mp success
  refine ⟨?_, derived.values_replaced_once, ?_⟩
  · intro block member
    obtain ⟨known, kept⟩ := derived.base_unchanged block member
    refine ⟨known, ?_, ?_⟩
    · intro changes
      exact absurd (kept _ changes) (by decide)
    · intro changes
      exact absurd (kept _ changes) (by decide)
  · rw [derived.loopBody_eq]
    intro block member table known
    have outlives : ∀ kept ∈ [Table.values, Table.inCounts, Table.outCounts],
        Table.isProtected kept = true ∧ kept ≠ Table.message := by decide
    obtain ⟨kept, other⟩ := outlives table known
    exact derived.protected_kept block member table kept other

/-- Fresh names may start with the name of a table of the graph. -/
theorem graph_only_read_nestedSend :
    ∃ plan, Plan.ofOptions nestedSend "edge" = .ok plan ∧
      (∃ block ∈ plan.blocks, "edge0" ∈ block.changed) ∧
      ∀ block ∈ plan.blocks, Table.edge ∉ block.changed := by
  have created : (Plan.ofOptions nestedSend "edge").toOption.map
      (fun plan => plan.blocks.any fun block => "edge0" ∈ block.changed) = some true := by
    decide +kernel
  obtain ⟨plan, planned, fresh⟩ := Option.map_eq_some_iff.mp created
  have success := ok_of_toOption _ _ planned
  obtain ⟨block, member, changes⟩ := List.any_eq_true.mp fresh
  obtain ⟨unchanged, _⟩ := graph_only_read nestedSend "edge" plan success
  exact ⟨plan, success, ⟨block, member, of_decide_eq_true changes⟩,
    fun other inPlan => (unchanged other inPlan).2.2⟩

end Planner

end Superstep
