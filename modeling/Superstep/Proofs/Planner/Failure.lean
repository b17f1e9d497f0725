import Superstep.Proofs.Planner.Step

/-!
# Steps of planning that fail

A sequence of steps fails in the first of them that fails. The steps before it succeed, and the
error and the state are those of the step that fails. Each statement has its own errors: a closing
brace blames the scopes, and any other statement blames an expression, a table or a direction.
-/

namespace Superstep

namespace PlanError

def isScope : PlanError → Bool
  | .unbalancedScope _ => true
  | .malformed _ | .unknownDirection _ | .noTable _ | .unknownTable _ | .tableRedefined _
  | .reservedTable _ | .unreadable _ | .missingOption _ | .invalidOption _ => false

/-- Whether an error blames what a statement says: an expression, a table or a direction. -/
def isContent : PlanError → Bool
  | .unknownDirection _ | .noTable _ | .unknownTable _ | .tableRedefined _ | .reservedTable _
  | .unreadable _ => true
  | .malformed _ | .unbalancedScope _ | .missingOption _ | .invalidOption _ => false

end PlanError

namespace Planner

variable {α β : Type} (state after : PlanState)

/-- Two steps fail if the first fails, or if the second fails where the first has led. -/
theorem bind_error_iff (step : Planner α) (next : α → Planner β) (error : PlanError) :
    (step >>= next).run state = .error error after ↔
      step.run state = .error error after ∨
        ∃ result between, step.run state = .ok result between ∧
          (next result).run between = .error error after := by
  rw [EStateM.run_bind]
  cases step.run state with
  | ok result between =>
    simp only [EStateM.Result.ok.injEq, reduceCtorEq, false_or]
    constructor
    · intro failure
      exact ⟨result, between, ⟨rfl, rfl⟩, failure⟩
    · rintro ⟨_, _, ⟨rfl, rfl⟩, failure⟩
      exact failure
  | error thrown between => simp

/-- A check that fails has not touched the state. -/
theorem check_error_iff (outcome : Except PlanError α) (error : PlanError) :
    (check outcome).run state = .error error after ↔ outcome = .error error ∧ after = state := by
  cases outcome with
  | ok held =>
    simp only [check, reduceCtorEq, false_and, iff_false]
    intro thrown
    cases thrown
  | error thrown =>
    have run : (check (.error thrown : Except PlanError α)).run state = .error thrown state := rfl
    rw [run]
    simp [eq_comm]

/-- Statements fail in one statement, and all statements before it are planned. -/
theorem statements_error_iff (planned : List Statement) (error : PlanError) :
    (statements planned).run state = .error error after ↔
      ∃ before failed later between, planned = before ++ failed :: later ∧
        (statements before).run state = .ok () between ∧
          (statement failed).run between = .error error after := by
  induction planned generalizing state with
  | nil =>
    have done : (statements []).run state = .ok () state := rfl
    rw [done]
    simp
  | cons first others ih =>
    rw [statements, bind_error_iff]
    constructor
    · rintro (failure | ⟨_, between, now, failure⟩)
      · exact ⟨[], first, others, state, rfl, rfl, failure⟩
      · obtain ⟨before, failed, later, reached, rfl, passed, fails⟩ := (ih between).mp failure
        refine ⟨first :: before, failed, later, reached, rfl, ?_, fails⟩
        rw [statements, bind_ok_iff]
        exact ⟨(), between, now, passed⟩
    · rintro ⟨before, failed, later, reached, split, passed, fails⟩
      cases before with
      | nil =>
        obtain ⟨rfl, rfl⟩ := List.cons.inj split
        have same : reached = state := by
          have done : (statements []).run state = .ok () state := rfl
          rw [done, EStateM.Result.ok.injEq] at passed
          exact passed.2.symm
        rw [same] at fails
        exact .inl fails
      | cons other before =>
        obtain ⟨rfl, rfl⟩ := List.cons.inj split
        rw [statements, bind_ok_iff] at passed
        obtain ⟨_, between, now, rest⟩ := passed
        exact .inr ⟨(), between, now,
          (ih between).mpr ⟨before, failed, later, reached, rfl, rest, fails⟩⟩

/-- Every error of a step is of some kind. -/
def Raises (kind : PlanError → Bool) (step : Planner α) : Prop :=
  ∀ state after error, step.run state = .error error after → kind error = true

section Raises

variable {kind : PlanError → Bool}

theorem Raises.mono {step : Planner α} {more : PlanError → Bool} (raises : Raises kind step)
    (included : ∀ error, kind error = true → more error = true) : Raises more step :=
  fun state after error failure => included error (raises state after error failure)

theorem Raises.bind {step : Planner α} {next : α → Planner β} (first : Raises kind step)
    (later : ∀ value, Raises kind (next value)) : Raises kind (step >>= next) := by
  intro state after error failure
  rcases (bind_error_iff state after step next error).mp failure with early | ⟨result, between, _, late⟩
  · exact first state after error early
  · exact later result between after error late

theorem Raises.check {outcome : Except PlanError α}
    (known : ∀ error, outcome = .error error → kind error = true) :
    Raises kind (check outcome) := by
  intro state after error failure
  exact known error ((check_error_iff state after outcome error).mp failure).1

/-- Faults that are reported as errors of the kind. -/
theorem Raises.described {ε : Type} {outcome : Except ε α} {describe : ε → PlanError}
    (known : ∀ fault, kind (describe fault) = true) :
    Raises kind (Planner.check (outcome.mapError describe)) := by
  refine .check ?_
  intro error refused
  cases outcome with
  | ok value => cases refused
  | error fault =>
    cases refused
    exact known fault

theorem Raises.refuse {condition : Bool} {error : PlanError} {skipped : PUnit → Planner β}
    {others : Planner β} (known : kind error = true) (rest : Raises kind others) :
    Raises kind (if condition = true then throw error >>= skipped else others) := by
  intro state after thrown failure
  cases condition with
  | false => exact rest state after thrown failure
  | true =>
    rcases (bind_error_iff state after _ _ thrown).mp failure with early | ⟨_, _, success, _⟩
    · cases early
      exact known
    · cases success

theorem Raises.total {step : Planner α}
    (runs : ∀ state, ∃ value after, step.run state = .ok value after) : Raises kind step := by
  intro state after error failure
  obtain ⟨value, reached, success⟩ := runs state
  rw [success] at failure
  cases failure

theorem get_raises : Raises kind (get : Planner PlanState) :=
  .total fun state => ⟨state, state, rfl⟩

theorem modify_raises (change : PlanState → PlanState) :
    Raises kind (modify change : Planner Unit) :=
  .total fun state => ⟨(), change state, rfl⟩

theorem create_raises (table : String) : Raises PlanError.isContent (create table) := by
  refine .bind get_raises fun state => .bind (.check ?_) fun tables => modify_raises _
  intro error refused
  unfold WorkingSet.create at refused
  split at refused
  · split at refused
    · cases refused
    · cases refused
      rfl
  · cases refused

theorem checkAllLive_raises (tables : List String) :
    Raises PlanError.isContent (checkAllLive tables) := by
  refine .bind get_raises fun state => .check ?_
  induction tables with
  | nil =>
    intro error refused
    cases refused
  | cons table others ih =>
    intro error refused
    rw [WorkingSet.checkAllLive, WorkingSet.checkLive] at refused
    split at refused
    · exact ih error refused
    · cases refused
      rfl

theorem scan_raises (expression : String) : Raises PlanError.isContent (scan expression) :=
  .described fun _ => rfl

theorem join_raises (target context condition : String) :
    Raises PlanError.isContent (join target [context, condition] "" condition) :=
  .bind (modify_raises _) fun _ => create_raises target

theorem enterScope_raises (condition : String) :
    Raises PlanError.isContent (enterScope condition) := by
  refine .refuse rfl (.bind (checkAllLive_raises _) fun _ => .bind get_raises fun state => ?_)
  dsimp only
  split
  · exact modify_raises _
  · refine .bind (.total fun state => ⟨_, _, rfl⟩) fun target => ?_
    exact .bind (join_raises _ _ _) fun _ => modify_raises _

theorem setValue_raises (value : String) : Raises PlanError.isContent (setValue value) := by
  rw [setValue_eq]
  refine .bind (.total fun state => ⟨_, _, rfl⟩) fun context => ?_
  refine .bind (scan_raises _) fun scanned => .bind (checkAllLive_raises _) fun _ => ?_
  exact .total fun state => ⟨(), _, rfl⟩

/-- Sending blames what the statement says, never its form or the options. -/
theorem sendMessages_raises (way : Direction) (content : String) :
    Raises PlanError.isContent (sendMessages way content) := by
  refine .bind (.total fun state => ⟨_, _, rfl⟩) fun context => ?_
  refine .bind (scan_raises _) fun scanned => .bind (checkAllLive_raises _) fun _ => ?_
  refine .bind (modify_raises _) fun _ => .bind get_raises fun state => ?_
  have recorded : Raises PlanError.isContent
      (do create Table.message; setting "contentStr" content) :=
    .bind (create_raises _) fun _ => modify_raises _
  split
  · exact .bind (modify_raises _) fun _ => recorded
  · exact recorded

theorem send_raises (direction content : String) :
    Raises PlanError.isContent (send direction content) := by
  refine .bind (.described fun _ => rfl) fun way => ?_
  refine .bind (modify_raises _) fun _ => .bind (modify_raises _) fun _ => ?_
  exact .bind (.total fun state => ⟨_, _, rfl⟩) fun context => sendMessages_raises _ _

theorem assign_raises (target expression : String) :
    Raises PlanError.isContent (assign target expression) := by
  refine .refuse rfl (.bind get_raises fun state => .bind (scan_raises _) fun scanned => ?_)
  refine .refuse rfl (.bind (checkAllLive_raises _) fun _ => ?_)
  exact .bind (modify_raises _) fun _ => create_raises target

theorem leaveScope_raises : Raises PlanError.isScope leaveScope := by
  refine .bind get_raises fun state => .bind (.check ?_) fun scope => modify_raises _
  intro error refused
  unfold Scope.leave at refused
  split at refused
  · cases refused
    rfl
  · cases refused

end Raises

/-- No statement fails because of the text that it was read from, or because of an option. -/
theorem statement_raises (planned : Statement) :
    Raises (fun error => error.isContent || error.isScope) (statement planned) := by
  have content : ∀ error : PlanError, error.isContent = true →
      (error.isContent || error.isScope) = true := by
    intro error held
    rw [held, Bool.true_or]
  cases planned with
  | beginIf condition => exact (enterScope_raises condition).mono content
  | setValue value => exact (setValue_raises value).mono content
  | send direction said => exact (send_raises direction said).mono content
  | assign target expression => exact (assign_raises target expression).mono content
  | endIf =>
    refine leaveScope_raises.mono ?_
    intro error held
    rw [held, Bool.or_true]

theorem statements_raises (planned : List Statement) :
    Raises (fun error => error.isContent || error.isScope) (statements planned) := by
  induction planned with
  | nil => exact .total fun state => ⟨(), state, rfl⟩
  | cons first others ih => exact .bind (statement_raises first) fun _ => ih

end Planner

end Superstep
