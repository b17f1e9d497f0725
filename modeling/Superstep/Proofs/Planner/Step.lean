import Superstep.Proofs.FreshNames
import Superstep.Proofs.Loop
import Superstep.Proofs.Planner.Success

/-!
# What planning a statement does

`Step` has one rule for each way in which a statement can be planned, with all that it checks, the
blocks that it adds and the whole state that it leads to. A statement is planned exactly by one of
the rules, so whatever holds of all plans is shown rule by rule.
-/

namespace Superstep

namespace Planner

def intersection (target context condition : String) : Select where
  columns := [context ++ ".id AS id", condition ++ ".val AS val"]
  target := some target
  sources := [context, condition]
  predicate := ""
  idJoin := true
  groupBy := none

/-- The select of an assignment whose filled-in expression reads `tables`. -/
def selection (target filled source : String) (tables : List String) : Select where
  columns := [source ++ ".id AS id", source ++ ".val AS val"]
  target := some target
  sources := addNew tables source
  predicate := filled
  idJoin := true
  groupBy := none

/-- The expression can be read in the state, and reads the tables of `scanned`. -/
structure Reads (state : PlanState) (expression : String) (scanned : Scanned) : Prop where
  scans : Expression.scan expression = .ok scanned
  live : ∀ table ∈ scanned.referencedTables, state.tables.isReadable table = true

/-- The block that a send becomes, if it produces messages. -/
def sendBlock? (state : PlanState) (way : Direction) (content : String) (scanned : Scanned) :
    Option Block :=
  ((Sending.plan state.scope.current content scanned.referencedTables).action?
      state.listing way).map fun action => ⟨"sendMsg", state.listing.depth, action⟩

/-- How planning one statement changes the state, and the blocks that it adds. -/
inductive Step (state : PlanState) : Statement → List Block → PlanState → Prop where
  | openOuter (condition : String) (notGraph : Table.isBase condition = false)
      (live : condition ∈ state.tables.live) (outer : state.scope.isDefault = true) :
      Step state (.beginIf condition) [] { state with scope := state.scope.push condition }
  /-- Further in, the context is a table of its own under a fresh name. -/
  | openInner (condition : String) (notGraph : Table.isBase condition = false)
      (live : condition ∈ state.tables.live) (inner : state.scope.isDefault = false) :
      Step state (.beginIf condition)
        [⟨"join", state.listing.depth, .select
          (intersection (state.names.next state.tables).1 state.scope.current condition)⟩]
        { state with
          names := (state.names.next state.tables).2
          listing := state.listing.emit "join" (.select
            (intersection (state.names.next state.tables).1 state.scope.current condition))
          tables := ⟨addNew state.tables.live (state.names.next state.tables).1⟩
          scope := state.scope.push (state.names.next state.tables).1 }
  | close (scope : Scope)
      (enclosed : state.scope.enclosing = scope.current :: scope.enclosing) :
      Step state .endIf [] { state with scope }
  | setValue (value : String) (scanned : Scanned)
      (reads : Reads state (Expression.fillPlaceholders value state.scope.current) scanned) :
      Step state (.setValue value)
        [⟨"setVal", state.listing.depth, .updateVertex state.scope.current
          (Expression.fillPlaceholders value state.scope.current)⟩]
        { state with
          listing := state.listing.emit "setVal" (.updateVertex state.scope.current
            (Expression.fillPlaceholders value state.scope.current))
          settings := ((state.settings.set "setValContext" state.scope.current).set "setValNewVal"
            (scanned.repoint Table.combined Table.values)).set "isSender"
              (if state.scope.current = Table.combined then "all" else "notAll") }
  /-- The message table counts as created whatever the direction. -/
  | send (direction content : String) (way : Direction) (scanned : Scanned)
      (names : Direction.read direction = .ok way)
      (reads : Reads state (Expression.fillPlaceholders content state.scope.current) scanned) :
      Step state (.send direction content)
        (sendBlock? state way (Expression.fillPlaceholders content state.scope.current)
          scanned).toList
        { state with
          settings := ((state.settings.set "msgDir" way.text).set "SendMsgDir" way.text).set
            "contentStr" (Expression.fillPlaceholders content state.scope.current)
          senders := scanned.referencedTables.foldl (fun set t => insertText t set) state.senders
          listing := { state.listing with blocks := state.listing.blocks ++
            (sendBlock? state way (Expression.fillPlaceholders content state.scope.current)
              scanned).toList }
          tables := ⟨addNew state.tables.live Table.message⟩ }
  | assign (target expression : String) (scanned : Scanned)
      (assignable : Table.isReserved target = false) (new : target ∉ state.tables.live)
      (some : scanned.referencedTables ≠ [])
      (reads : Reads state (Expression.fillPlaceholders expression state.scope.current) scanned) :
      Step state (.assign target expression)
        [⟨"genVar", state.listing.depth, .select
          (selection target (Expression.fillPlaceholders expression state.scope.current)
            (rowSource state.scope scanned.referencedTables) scanned.referencedTables)⟩]
        { state with
          listing := state.listing.emit "genVar" (.select
            (selection target (Expression.fillPlaceholders expression state.scope.current)
              (rowSource state.scope scanned.referencedTables) scanned.referencedTables))
          tables := ⟨addNew state.tables.live target⟩ }

def enterScopeNaming (fresh : Planner String) (condition : String) : Planner Unit := do
  if Table.isBase condition then throw (.reservedTable condition)
  checkAllLive [condition]
  let scope := (← get).scope
  if scope.isDefault then
    modify fun state => { state with scope := state.scope.push condition }
  else
    let target ← fresh
    join target [scope.current, condition] "" condition
    modify fun state => { state with scope := state.scope.push target }

/-- A source of names gives a name that no table has, and changes nothing but itself. -/
def GivesNew (fresh : Planner String) : Prop :=
  ∀ state, ∃ name names, fresh.run state = .ok name { state with names } ∧
    name ∉ state.tables.live

theorem enterScope_eq (condition : String) :
    enterScope condition = enterScopeNaming freshName condition := rfl

theorem freshName_givesNew : GivesNew freshName :=
  fun state => ⟨_, _, rfl, FreshNames.next_not_live state.names state.tables⟩

variable (state after : PlanState)

theorem join_ok_iff (target context condition : String) (result : Unit) :
    (join target [context, condition] "" condition).run state = .ok result after ↔
      (target ∈ state.tables.live → Table.isProtected target = true) ∧
        after = { state with
          listing := state.listing.emit "join" (.select (intersection target context condition))
          tables := ⟨addNew state.tables.live target⟩ } := by
  simp only [join, bind_ok_iff, run_emit, create_ok_iff, EStateM.Result.ok.injEq,
    exists_and_left, exists_eq_left', exists_const, true_and]
  rfl

/-- An `if` is opened by the two rules for it, told apart by where it stands. -/
theorem enterScope_ok_iff (condition : String) :
    (enterScope condition).run state = .ok () after ↔
      ∃ added, Step state (.beginIf condition) added after := by
  simp only [enterScope, refuse_ok_iff, bind_ok_iff, checkAllLive_ok_iff, EStateM.run_get,
    EStateM.Result.ok.injEq, and_assoc, exists_and_left, exists_eq_left', exists_eq_left,
    exists_const, List.forall_mem_singleton, WorkingSet.isReadable_iff]
  constructor
  · rintro ⟨notGraph, readable, success⟩
    have live : condition ∈ state.tables.live := by
      rcases readable with live | graph
      · exact live
      · rw [notGraph] at graph
        cases graph
    cases place : state.scope.isDefault with
    | true =>
      rw [place, if_pos rfl, EStateM.run_modify, EStateM.Result.ok.injEq] at success
      rw [← success.2]
      exact ⟨_, .openOuter condition notGraph live place⟩
    | false =>
      rw [place, if_neg Bool.false_ne_true] at success
      simp only [bind_ok_iff, run_freshName, join_ok_iff, EStateM.run_modify,
        EStateM.Result.ok.injEq, and_assoc, exists_and_left, exists_eq_left', exists_eq_left,
        exists_const, true_and] at success
      rw [← success.2]
      exact ⟨_, .openInner condition notGraph live place⟩
  · rintro ⟨added, step⟩
    cases step with
    | openOuter _ notGraph live place =>
      rw [place, if_pos rfl]
      exact ⟨notGraph, .inl live, rfl⟩
    | openInner _ notGraph live place =>
      rw [place, if_neg Bool.false_ne_true]
      refine ⟨notGraph, .inl live, ?_⟩
      simp only [bind_ok_iff, run_freshName, join_ok_iff, EStateM.run_modify,
        EStateM.Result.ok.injEq, and_assoc, exists_and_left, exists_eq_left', exists_eq_left,
        exists_const, true_and, and_true]
      intro taken
      exact absurd taken (FreshNames.next_not_live state.names state.tables)

theorem leaveScope_ok_iff :
    leaveScope.run state = .ok () after ↔ ∃ added, Step state .endIf added after := by
  simp only [leaveScope, bind_ok_iff, check_ok_iff, EStateM.run_get, EStateM.run_modify,
    EStateM.Result.ok.injEq, and_assoc, exists_and_left, exists_eq_left', exists_eq_left,
    true_and, Scope.leave_ok_iff]
  constructor
  · rintro ⟨scope, enclosed, rfl⟩
    exact ⟨_, .close scope enclosed⟩
  · rintro ⟨added, step⟩
    cases step with
    | close scope enclosed => exact ⟨scope, enclosed, rfl⟩

/-- The value is read twice, but the second reading repeats the first and the rule has one. -/
theorem setValue_ok_iff (value : String) :
    (setValue value).run state = .ok () after ↔
      ∃ added, Step state (.setValue value) added after := by
  simp only [setValue_eq, bind_ok_iff, checkAllLive_ok_iff, scan_ok_iff, run_emit, run_context,
    run_setting, EStateM.Result.ok.injEq, and_assoc, exists_and_left, exists_eq_left',
    exists_eq_left, exists_const, true_and]
  constructor
  · rintro ⟨scanned, scans, live, rfl⟩
    exact ⟨_, .setValue value scanned ⟨scans, live⟩⟩
  · rintro ⟨added, step⟩
    cases step with
    | setValue _ scanned reads => exact ⟨scanned, reads.scans, reads.live, rfl⟩

/-- The state behind the messages of a send, whatever way it goes. -/
theorem sendMessages_ok_iff (way : Direction) (content : String) :
    (sendMessages way content).run state = .ok () after ↔
      ∃ scanned, Reads state content scanned ∧ after = { state with
        senders := scanned.referencedTables.foldl (fun set t => insertText t set) state.senders
        listing := { state.listing with blocks := state.listing.blocks ++
          (sendBlock? state way content scanned).toList }
        tables := ⟨addNew state.tables.live Table.message⟩
        settings := state.settings.set "contentStr" content } := by
  have message : Table.isProtected Table.message = true := by decide
  simp only [sendMessages, bind_ok_iff, checkAllLive_ok_iff, scan_ok_iff, run_context,
    EStateM.run_get, EStateM.run_modify, EStateM.Result.ok.injEq, and_assoc, exists_and_left,
    exists_eq_left', exists_eq_left, exists_const, true_and]
  apply exists_congr
  intro scanned
  rw [← and_assoc]
  apply and_congr
  · exact ⟨fun ⟨scans, live⟩ => ⟨scans, live⟩, fun reads => ⟨reads.scans, reads.live⟩⟩
  -- Without an action the message table is still counted as created, so both cases end alike.
  · rw [sendBlock?]
    cases (Sending.plan state.scope.current content scanned.referencedTables).action?
        state.listing way with
    | none =>
      simp only [bind_ok_iff, create_ok_iff, run_setting, message, implies_true, true_and,
        EStateM.Result.ok.injEq, exists_eq_left, exists_const, Option.map_none, Option.toList_none,
        List.append_nil]
      exact eq_comm
    | some action =>
      simp only [bind_ok_iff, run_emit, create_ok_iff, run_setting, message, implies_true,
        true_and, EStateM.Result.ok.injEq, exists_eq_left, exists_eq_left', exists_const]
      exact eq_comm

theorem send_ok_iff (direction content : String) :
    (send direction content).run state = .ok () after ↔
      ∃ added, Step state (.send direction content) added after := by
  simp only [send, bind_ok_iff, check_ok_iff, mapError_ok_iff, run_context, run_setting,
    EStateM.Result.ok.injEq, and_assoc, exists_and_left, exists_eq_left', exists_eq_left,
    exists_const, true_and, sendMessages_ok_iff]
  constructor
  · rintro ⟨way, names, scanned, reads, rfl⟩
    exact ⟨_, .send direction content way scanned names ⟨reads.scans, reads.live⟩⟩
  · rintro ⟨added, step⟩
    cases step with
    | send _ _ way scanned names reads =>
      exact ⟨way, names, scanned, ⟨reads.scans, reads.live⟩, rfl⟩

/-- That the target is new is checked last, as its table is stored; the rule asks for it among the
others. -/
theorem assign_ok_iff (target expression : String) :
    (assign target expression).run state = .ok () after ↔
      ∃ added, Step state (.assign target expression) added after := by
  simp only [assign, refuse_ok_iff, bind_ok_iff, checkAllLive_ok_iff, scan_ok_iff, create_ok_iff,
    run_emit, EStateM.run_get, EStateM.Result.ok.injEq, and_assoc, exists_and_left,
    exists_eq_left', exists_eq_left, exists_const, true_and, List.isEmpty_eq_false_iff]
  constructor
  · rintro ⟨assignable, scanned, scans, some, live, allowed, rfl⟩
    have new : target ∉ state.tables.live := by
      intro old
      simp [Table.isReserved, allowed old] at assignable
    exact ⟨_, .assign target expression scanned assignable new some ⟨scans, live⟩⟩
  · rintro ⟨added, step⟩
    cases step with
    | assign _ _ scanned assignable new some reads =>
      exact ⟨assignable, scanned, reads.scans, some, reads.live, fun old => absurd old new, rfl⟩

/-- A statement is planned exactly by the rules. -/
theorem statement_ok_iff (planned : Statement) :
    (statement planned).run state = .ok () after ↔ ∃ added, Step state planned added after := by
  cases planned with
  | beginIf condition => exact enterScope_ok_iff state after condition
  | setValue value => exact setValue_ok_iff state after value
  | send direction content => exact send_ok_iff state after direction content
  | endIf => exact leaveScope_ok_iff state after
  | assign target expression => exact assign_ok_iff state after target expression

/-- Statements planned one after the other, and all the blocks that they add. -/
inductive Steps : PlanState → List Statement → List Block → PlanState → Prop where
  | done (state : PlanState) : Steps state [] [] state
  | step {state between after : PlanState} {first : Statement} {others : List Statement}
      {added more : List Block} (now : Step state first added between)
      (later : Steps between others more after) :
      Steps state (first :: others) (added ++ more) after

/-- A run of the planner is a row of steps. -/
theorem statements_ok_iff (planned : List Statement) (result : Unit) :
    (statements planned).run state = .ok result after ↔
      ∃ added, Steps state planned added after := by
  induction planned generalizing state with
  | nil =>
    rw [statements, EStateM.run_pure, EStateM.Result.ok.injEq]
    constructor
    · rintro ⟨_, rfl⟩
      exact ⟨[], .done state⟩
    · rintro ⟨added, run⟩
      cases run
      exact ⟨rfl, rfl⟩
  | cons first others ih =>
    simp only [statements, bind_ok_iff, ih]
    constructor
    · rintro ⟨_, between, success, more, later⟩
      obtain ⟨added, now⟩ := (statement_ok_iff _ _ _).mp success
      exact ⟨_, .step now later⟩
    · rintro ⟨_, run⟩
      cases run with
      | step now later => exact ⟨(), _, (statement_ok_iff _ _ _).mpr ⟨_, now⟩, _, later⟩

/-- What every rule keeps holds after the statements if it holds before them. -/
theorem Steps.preserves (property : PlanState → Prop)
    (kept : ∀ state planned added after, Step state planned added after →
      property state → property after)
    {state after : PlanState} {planned : List Statement} {added : List Block}
    (run : Steps state planned added after) (before : property state) : property after := by
  induction run with
  | done => exact before
  | step now _ ih => exact ih (kept _ _ _ _ now before)

/-- A run of statements can be cut anywhere. -/
theorem Steps.split {state after : PlanState} {earlier later : List Statement} {added : List Block}
    (run : Steps state (earlier ++ later) added after) :
    ∃ between first second, Steps state earlier first between ∧ Steps between later second after ∧
      added = first ++ second := by
  induction earlier generalizing state added with
  | nil => exact ⟨state, [], added, .done state, run, rfl⟩
  | cons statement earlier ih =>
    cases run with
    | step now rest =>
      obtain ⟨between, first, second, front, back, rfl⟩ := ih rest
      exact ⟨between, _, second, .step now front, back, (List.append_assoc _ _ _).symm⟩

theorem Step.listing {state after : PlanState} {planned : Statement} {added : List Block}
    (step : Step state planned added after) :
    after.listing = { state.listing with blocks := state.listing.blocks ++ added } := by
  cases step with
  | openOuter | close => rw [List.append_nil]
  | _ => rfl

theorem Steps.listing {state after : PlanState} {planned : List Statement} {added : List Block}
    (run : Steps state planned added after) :
    after.listing = { state.listing with blocks := state.listing.blocks ++ added } := by
  induction run with
  | done => rw [List.append_nil]
  | step now _ ih => rw [ih, now.listing, List.append_assoc]

theorem Step.isQuery {state after : PlanState} {planned : Statement} {added : List Block}
    (step : Step state planned added after) : ∀ block ∈ added, block.action.isQuery = true := by
  cases step with
  | send direction content way => cases way <;> simp [sendBlock?, Sending.action?, Action.isQuery]
  | _ => simp [Action.isQuery]

theorem Steps.isQuery {state after : PlanState} {planned : List Statement} {added : List Block}
    (run : Steps state planned added after) : ∀ block ∈ added, block.action.isQuery = true := by
  induction run with
  | done => simp
  | step now _ ih =>
    intro block member
    rcases List.mem_append.mp member with early | late
    · exact now.isQuery block early
    · exact ih block late

/-- A program is planned if its lines can be read, its statements can be planned and all scopes are
closed. -/
theorem program_ok_iff (source : String) :
    (program source).run state = .ok () after ↔
      ∃ lines, Program.read source = .ok lines ∧
        (∃ added, Steps state (lines.map (·.statement)) added after) ∧
          after.scope.enclosing = [] := by
  simp only [program, bind_ok_iff, check_ok_iff, mapError_ok_iff, statements_ok_iff,
    EStateM.run_get, EStateM.Result.ok.injEq, Scope.finish_ok_iff, and_assoc, exists_and_left,
    exists_eq_left', exists_eq_left, exists_const]
  constructor
  · rintro ⟨lines, read, _, run, closed, rfl⟩
    exact ⟨lines, read, run, closed⟩
  · rintro ⟨lines, read, run, closed⟩
    exact ⟨lines, read, after, run, closed, rfl⟩

end Planner

end Superstep
