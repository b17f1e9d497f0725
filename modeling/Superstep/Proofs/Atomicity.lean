import Superstep.Proofs.Planner.Failure
import Superstep.Proofs.Planner.Layout

/-!
# Steps that fail leave the state alone

A step of planning first looks at the state and then changes it, and what may fail is looked at
first. The one exception is the storing of a select: its block is added before the table is found to
exist already. Nothing else can fail behind a change: the message table may be created again, and a
fresh name is never in the way, whatever source it comes from. The steps are those below whole
statements, since a `send` records its direction before its messages are planned.
-/

namespace Superstep

def PlanError.isRedefinition : PlanError → Bool
  | .tableRedefined _ => true
  | .malformed _ | .unbalancedScope _ | .unknownDirection _ | .noTable _ | .unknownTable _
  | .reservedTable _ | .missingOption _ | .invalidOption _ | .unreadable _ => false

/-- The only error of the check is that a table is unknown, and it names one that was asked for. -/
theorem WorkingSet.checkAllLive_error (tables : WorkingSet) (names : List String)
    (error : PlanError) (refused : tables.checkAllLive names = .error error) :
    ∃ name ∈ names, error = .unknownTable name := by
  induction names with
  | nil => cases refused
  | cons name others ih =>
    rw [checkAllLive, checkLive] at refused
    split at refused
    · obtain ⟨missing, member, same⟩ := ih refused
      exact ⟨missing, List.mem_cons_of_mem _ member, same⟩
    · cases refused
      exact ⟨name, List.mem_cons_self, rfl⟩

theorem WorkingSet.create_error (tables : WorkingSet) (table : String) (error : PlanError)
    (refused : tables.create table = .error error) :
    error = .tableRedefined table ∧ table ∈ tables.live := by
  unfold create at refused
  split at refused
  · rename_i found
    split at refused
    · cases refused
    · cases refused
      exact ⟨rfl, List.contains_iff_mem.mp found⟩
  · cases refused

namespace Planner

variable {α β : Type}

/-- Whenever the step fails, the state is as it was. -/
def Atomic (step : Planner α) : Prop :=
  ∀ state after error, step.run state = .error error after → after = state

/-- The step looks at the state and does not change it, whether it fails or not. -/
structure Looks (step : Planner α) : Prop where
  success : ∀ state after value, step.run state = .ok value after → after = state
  failure : Atomic step

theorem Looks.check (outcome : Except PlanError α) : Looks (check outcome) where
  success state after value run := ((check_ok_iff state after outcome value).mp run).2
  failure state after error run := ((check_error_iff state after outcome error).mp run).2

/-- Looking and then looking again changes nothing, wherever it stops. -/
theorem Looks.bind {step : Planner α} {next : α → Planner β} (first : Looks step)
    (later : ∀ value, Looks (next value)) : Looks (step >>= next) where
  success := by
    intro state after value run
    obtain ⟨result, between, early, late⟩ := (bind_ok_iff state after step next value).mp run
    rw [(later result).success between after value late]
    exact first.success state between result early
  failure := by
    intro state after error run
    rcases (bind_error_iff state after step next error).mp run with
      early | ⟨result, between, passed, late⟩
    · exact first.failure state after error early
    · rw [(later result).failure between after error late]
      exact first.success state between result passed

theorem looks_get : Looks (get : Planner PlanState) where
  success state after value run := by cases run; rfl
  failure state after error run := by cases run

theorem looks_context : Looks context where
  success state after value run := by cases run; rfl
  failure state after error run := by cases run

theorem looks_scan (expression : String) : Looks (scan expression) := .check _

theorem looks_checkAllLive (tables : List String) : Looks (checkAllLive tables) :=
  .bind looks_get fun _ => .check _

def failure? (step : Planner α) (state : PlanState) : Option PlanError :=
  match step.run state with
  | .ok _ _ => none
  | .error error _ => some error

theorem run_of_failure? (step : Planner α) (state : PlanState) (error : PlanError)
    (fails : failure? step state = some error) : ∃ after, step.run state = .error error after := by
  unfold failure? at fails
  split at fails
  · cases fails
  · rename_i raised after run
    cases fails
    exact ⟨after, run⟩

section Atomic

theorem Atomic.run_eq {step : Planner α} (atomic : Atomic step) (state : PlanState)
    (error : PlanError) (fails : failure? step state = some error) :
    step.run state = .error error state := by
  obtain ⟨after, run⟩ := run_of_failure? step state error fails
  rw [run, atomic state after error run]

theorem Atomic.bind {step : Planner α} {next : α → Planner β} (looks : Looks step)
    (later : ∀ value, Atomic (next value)) : Atomic (step >>= next) := by
  intro state after error run
  rcases (bind_error_iff state after step next error).mp run with
    early | ⟨result, between, passed, late⟩
  · exact looks.failure state after error early
  · rw [later result between after error late]
    exact looks.success state between result passed

theorem Atomic.refuse {condition : Bool} {error : PlanError} {skipped : PUnit → Planner β}
    {others : Planner β} (rest : Atomic others) :
    Atomic (if condition = true then throw error >>= skipped else others) := by
  cases condition with
  | false => exact rest
  | true =>
    intro state after thrown run
    cases run
    rfl

/-- What never fails cannot fail halfway. -/
theorem Atomic.total {step : Planner α}
    (runs : ∀ state, ∃ value after, step.run state = .ok value after) : Atomic step := by
  intro state after error run
  obtain ⟨value, reached, success⟩ := runs state
  rw [success] at run
  cases run

theorem leaveScope_atomic : Atomic leaveScope :=
  .bind looks_get fun _ => .bind (.check _) fun _ => .total fun _ => ⟨(), _, rfl⟩

theorem setValue_atomic (value : String) : Atomic (setValue value) := by
  rw [setValue_eq]
  refine .bind looks_context fun context => .bind (looks_scan _) fun scanned => ?_
  exact .bind (looks_checkAllLive _) fun _ => .total fun _ => ⟨(), _, rfl⟩

/-- The message table can always be created, so a send does not fail behind its checks. -/
theorem sendMessages_atomic (way : Direction) (content : String) :
    Atomic (sendMessages way content) := by
  refine .bind looks_context fun context => .bind (looks_scan _) fun scanned => ?_
  refine .bind (looks_checkAllLive _) fun _ => .total fun state => ?_
  have created : ∀ before, (create Table.message).run before =
      .ok () { before with tables := ⟨addNew before.tables.live Table.message⟩ } :=
    fun before => run_create_protected Table.message before (by decide)
  have recorded : ∀ before, ∃ after,
      (do create Table.message; setting "contentStr" content : Planner Unit).run before =
        .ok () after := by
    intro before
    rw [EStateM.run_bind, created]
    exact ⟨_, rfl⟩
  simp only [EStateM.run_bind, EStateM.run_modify, EStateM.run_get]
  cases (Sending.plan context content scanned.referencedTables).action? state.listing way with
  | none => exact ⟨(), recorded _⟩
  | some action =>
    simp only [EStateM.run_bind, run_emit]
    exact ⟨(), recorded _⟩

end Atomic

/-- The checks come before the name is taken, and a new name cannot be in the way of the join. -/
theorem enterScopeNaming_atomic (fresh : Planner String) (new : GivesNew fresh)
    (condition : String) : Atomic (enterScopeNaming fresh condition) := by
  refine .refuse (.bind (looks_checkAllLive _) fun _ => .bind looks_get fun seen => ?_)
  refine .total fun state => ?_
  dsimp only
  split
  · exact ⟨(), _, rfl⟩
  · obtain ⟨name, names, given, absent⟩ := new state
    have joined := (join_ok_iff { state with names } _ name seen.scope.current condition ()).mpr
      ⟨fun old => absurd old absent, rfl⟩
    rw [EStateM.run_bind, given]
    simp only [EStateM.run_bind, joined]
    exact ⟨(), _, rfl⟩

theorem enterScope_atomic (condition : String) : Atomic (enterScope condition) := by
  rw [enterScope_eq]
  exact enterScopeNaming_atomic freshName freshName_givesNew condition

/-- What a failed step that stores a select into `target` leaves behind: the state as it was, or one
more block if it failed because the table was there already. -/
inductive Remains (state : PlanState) (stage target : String) : PlanError → PlanState → Prop where
  | nothing (error : PlanError) (other : ∀ table, error ≠ .tableRedefined table) :
      Remains state stage target error state
  | block (query : Select) (into : query.target = some target)
      (exists_before : target ∈ state.tables.live) :
      Remains state stage target (.tableRedefined target)
        { state with listing := { state.listing with
            blocks := state.listing.blocks ++ [⟨stage, state.listing.depth, .select query⟩] } }

/-- Whenever the step fails, it leaves at most the select behind. -/
def Leaves (stage target : String) (step : Planner α) : Prop :=
  ∀ state after error, step.run state = .error error after → Remains state stage target error after

section Leaves

variable {stage target : String}

/-- What looks before the select is stored adds nothing to what is left behind. -/
theorem Leaves.bind {step : Planner α} {next : α → Planner β} (looks : Looks step)
    (raises : Raises (!·.isRedefinition) step) (later : ∀ value, Leaves stage target (next value)) :
    Leaves stage target (step >>= next) := by
  intro state after error run
  rcases (bind_error_iff state after step next error).mp run with
    early | ⟨result, between, passed, late⟩
  · obtain rfl := looks.failure state after error early
    refine .nothing error ?_
    rintro table rfl
    exact absurd (raises _ _ _ early) Bool.false_ne_true
  · obtain rfl := looks.success state between result passed
    exact later result between after error late

theorem Leaves.refuse {condition : Bool} {error : PlanError} {skipped : PUnit → Planner β}
    {others : Planner β} (known : ∀ table, error ≠ .tableRedefined table)
    (rest : Leaves stage target others) :
    Leaves stage target (if condition = true then throw error >>= skipped else others) := by
  cases condition with
  | false => exact rest
  | true =>
    intro state after thrown run
    cases run
    exact .nothing error known

theorem Leaves.run_eq {step : Planner α} (leaves : Leaves stage target step) (state : PlanState)
    (fails : failure? step state = some (.tableRedefined target)) :
    ∃ query : Select, query.target = some target ∧ step.run state = .error (.tableRedefined target)
      { state with listing := { state.listing with
          blocks := state.listing.blocks ++ [⟨stage, state.listing.depth, .select query⟩] } } := by
  obtain ⟨after, run⟩ := run_of_failure? step state _ fails
  cases leaves state after _ run with
  | nothing _ other => exact absurd rfl (other target)
  | block query into _ => exact ⟨query, into, run⟩

/-- The block is added first, and then the table is found to be there. -/
theorem Leaves.store (query : Select) (into : query.target = some target) :
    Leaves stage target (emit stage (.select query) >>= fun _ => create target) := by
  intro state after error run
  rw [EStateM.run_bind, run_emit] at run
  have looks : (check (state.tables.create target)).run
      { state with listing := state.listing.emit stage (.select query) } = .error error after := by
    rcases (bind_error_iff _ _ _ _ _).mp run with stuck | ⟨_, _, seen, late⟩
    · cases stuck
    · cases seen
      rcases (bind_error_iff _ _ _ _ _).mp late with refused | ⟨_, _, _, changed⟩
      · exact refused
      · cases changed
  obtain ⟨refused, rfl⟩ := (check_error_iff _ _ _ _).mp looks
  obtain ⟨rfl, found⟩ := state.tables.create_error target error refused
  exact .block query into found

theorem scan_raises_no_redefinition (expression : String) :
    Raises (!·.isRedefinition) (scan expression) :=
  .described fun _ => rfl

theorem checkAllLive_raises_no_redefinition (tables : List String) :
    Raises (!·.isRedefinition) (checkAllLive tables) := by
  refine .bind get_raises fun state => .check ?_
  intro error refused
  obtain ⟨name, _, rfl⟩ := state.tables.checkAllLive_error tables error refused
  rfl

theorem assign_leaves (target expression : String) :
    Leaves "genVar" target (assign target expression) := by
  refine .refuse (by simp) (.bind looks_get get_raises fun state => ?_)
  refine .bind (looks_scan _) (scan_raises_no_redefinition _) fun scanned => ?_
  refine .refuse (by simp) ?_
  refine .bind (looks_checkAllLive _) (checkAllLive_raises_no_redefinition _) fun _ => ?_
  exact .store _ rfl

/-- A join refuses an empty list of tables before it adds its block. -/
theorem join_leaves (target : String) (tables : List String) (predicate valueSource : String) :
    Leaves "join" target (join target tables predicate valueSource) := by
  cases tables with
  | nil =>
    intro state after error run
    cases run
    exact .nothing _ (by simp)
  | cons first others => exact .store _ rfl

end Leaves

/-- A failed step leaves the state as it was, all of it. Only an assignment or a join that fails
because its table exists already has added its select, one block, and changed nothing else. An `if`
may take its names from any source of new ones. -/
theorem failure_leaves_state :
    (∀ condition, Atomic (enterScope condition)) ∧
    (∀ fresh, GivesNew fresh → ∀ condition, Atomic (enterScopeNaming fresh condition)) ∧
    Atomic leaveScope ∧
    (∀ value, Atomic (setValue value)) ∧
    (∀ way content, Atomic (sendMessages way content)) ∧
    (∀ target expression, Leaves "genVar" target (assign target expression)) ∧
    ∀ target tables predicate valueSource,
      Leaves "join" target (join target tables predicate valueSource) :=
  ⟨enterScope_atomic, enterScopeNaming_atomic, leaveScope_atomic, setValue_atomic,
    sendMessages_atomic, assign_leaves, join_leaves⟩

/-- Inside `if (a)`, with no table `b` and names that would be new. -/
theorem failure_leaves_state_inside_if :
    let state : PlanState := { tables := ⟨["next", "cur", "a"]⟩, scope := ⟨["cur"], "a"⟩ }
    (enterScope "b").run state = .error (.unknownTable "b") state ∧
    (enterScopeNaming freshName "edge").run state = .error (.reservedTable "edge") state ∧
    leaveScope.run { state with scope := {} } =
      .error (.unbalancedScope .strayEnd) { state with scope := {} } ∧
    (setValue "b.val").run state = .error (.unknownTable "b") state ∧
    (sendMessages .both "a.val + b.val").run state = .error (.unknownTable "b") state ∧
    (∃ query : Select, query.target = some "a" ∧
      (assign "a" "getVal() > 0").run state = .error (.tableRedefined "a")
        { state with listing := { state.listing with blocks := [⟨"genVar", 0, .select query⟩] } }) ∧
    ∃ query : Select, query.target = some "a" ∧
      (join "a" ["cur", "a"] "" "cur").run state = .error (.tableRedefined "a")
        { state with listing := { state.listing with blocks := [⟨"join", 0, .select query⟩] } } := by
  intro state
  obtain ⟨enters, names, leaves, sets, sends, assigns, joins⟩ := failure_leaves_state
  refine ⟨(enters "b").run_eq _ _ (by decide +kernel),
    (names freshName freshName_givesNew "edge").run_eq _ _ (by decide +kernel),
    leaves.run_eq _ _ (by decide +kernel), (sets _).run_eq _ _ (by decide +kernel),
    (sends _ _).run_eq _ _ (by decide +kernel), (assigns _ _).run_eq _ (by decide +kernel),
    (joins _ _ _ _).run_eq _ (by decide +kernel)⟩

end Planner

end Superstep
