import Superstep.Planner.Loop
import Superstep.Proofs.Outcome

/-!
# Successful steps of planning

What is known when a step succeeds: its checks hold, and the state after it is given by the state
before it. Every lemma is an equivalence, so it also says when a step does succeed.
-/

namespace Superstep

theorem mem_addNew (items : List String) (item other : String) :
    other ∈ addNew items item ↔ other ∈ items ∨ other = item := by
  unfold addNew
  split
  · rename_i member
    constructor
    · exact Or.inl
    · rintro (old | rfl)
      · exact old
      · exact member
  · rw [List.mem_append, List.mem_singleton]

theorem addNew_of_not_mem (items : List String) (item : String) (absent : item ∉ items) :
    addNew items item = items ++ [item] := if_neg absent

namespace Table

theorem isReserved_eq_false_iff (table : String) :
    isReserved table = false ↔
      isProtected table = false ∧ isBase table = false ∧ table ≠ combined := by
  simp [isReserved, and_assoc]

theorem isReserved_of_protected (table : String) (kept : isProtected table = true) :
    isReserved table = true := by
  simp [isReserved, kept]

theorem ne_message_of_not_reserved (table : String) (free : isReserved table = false) :
    table ≠ message := by
  rintro rfl
  revert free
  decide

end Table

namespace WorkingSet

theorem create_ok_iff (tables after : WorkingSet) (table : String) :
    tables.create table = .ok after ↔
      (table ∈ tables.live → Table.isProtected table = true) ∧
        after = ⟨addNew tables.live table⟩ := by
  by_cases live : table ∈ tables.live
  · have same : (⟨addNew tables.live table⟩ : WorkingSet) = tables := by rw [addNew, if_pos live]
    by_cases kept : Table.isProtected table = true
    · simp only [create, contains, live, kept, same, List.contains_eq_mem, decide_true, if_true,
        Except.ok.injEq, implies_true, true_and]
      exact eq_comm
    · simp [create, contains, live, kept]
  · simp only [create, contains, live, List.contains_eq_mem, decide_false, Bool.false_eq_true,
      if_false, addNew_of_not_mem _ _ live, Except.ok.injEq, false_implies, true_and]
    exact eq_comm

theorem isReadable_iff (tables : WorkingSet) (table : String) :
    tables.isReadable table = true ↔ table ∈ tables.live ∨ Table.isBase table = true := by
  simp [isReadable, contains]

theorem mem_transient (tables : WorkingSet) (table : String) :
    table ∈ tables.transient ↔ table ∈ tables.live ∧ Table.isProtected table = false := by
  simp [transient]

theorem checkAllLive_ok_iff (tables : WorkingSet) (names : List String) (result : Unit) :
    tables.checkAllLive names = .ok result ↔ ∀ name ∈ names, tables.isReadable name = true := by
  induction names with
  | nil => simp [checkAllLive]
  | cons name others ih =>
    by_cases readable : tables.isReadable name = true
    · have first : tables.checkLive name = .ok () := if_pos readable
      simp only [checkAllLive, first, List.forall_mem_cons, readable, true_and]
      exact ih
    · have first : tables.checkLive name = .error (.unknownTable name) := if_neg readable
      simp [checkAllLive, first, readable, bind, Except.bind]

end WorkingSet

/-- Leaving a scope needs one to be open, and leads to the next one outside. -/
theorem Scope.leave_ok_iff (scope after : Scope) :
    scope.leave = .ok after ↔ scope.enclosing = after.current :: after.enclosing := by
  unfold Scope.leave
  split
  · rename_i empty
    simp [empty]
  · rename_i outer others inside
    rw [inside]
    constructor
    · intro same
      cases same
      rfl
    · intro same
      cases same
      rfl

theorem Scope.finish_ok_iff (scope : Scope) (result : Unit) :
    scope.finish = .ok result ↔ scope.enclosing = [] := by
  by_cases closed : scope.enclosing = [] <;> simp [Scope.finish, Scope.depth, closed]

namespace Planner

variable {α β : Type} (state after : PlanState)

/-- Two steps succeed one after the other, through the state between them. -/
theorem bind_ok_iff (step : Planner α) (next : α → Planner β) (value : β) :
    (step >>= next).run state = .ok value after ↔
      ∃ result between, step.run state = .ok result between ∧
        (next result).run between = .ok value after := by
  rw [EStateM.run_bind]
  cases step.run state with
  | ok result between =>
    simp only [EStateM.Result.ok.injEq]
    constructor
    · intro success
      exact ⟨result, between, ⟨rfl, rfl⟩, success⟩
    · rintro ⟨_, _, ⟨rfl, rfl⟩, success⟩
      exact success
  | error error between => simp

/-- A refusal at the front of a step is the negation of its condition. -/
theorem refuse_ok_iff (condition : Bool) (error : PlanError) (skipped : PUnit → Planner β)
    (others : Planner β) (value : β) :
    (if condition = true then throw error >>= skipped else others).run state = .ok value after ↔
      condition = false ∧ others.run state = .ok value after := by
  cases condition with
  | false => simp
  | true =>
    simp only [if_true, bind_ok_iff, Bool.true_eq_false, false_and, iff_false]
    rintro ⟨result, between, thrown, _⟩
    cases thrown

theorem check_ok_iff (outcome : Except PlanError α) (value : α) :
    (check outcome).run state = .ok value after ↔ outcome = .ok value ∧ after = state := by
  cases outcome with
  | ok held => simp [check, eq_comm]
  | error error =>
    simp only [check, reduceCtorEq, false_and, iff_false]
    intro thrown
    cases thrown

theorem scan_ok_iff (expression : String) (scanned : Scanned) :
    (scan expression).run state = .ok scanned after ↔
      Expression.scan expression = .ok scanned ∧ after = state := by
  rw [scan, check_ok_iff, mapError_ok_iff]

/-- A text that has been cut into lexemes once is cut into the same lexemes again. -/
theorem scan_again (expression : String) (first : Scanned → Planner α)
    (later : Scanned → Planner β) :
    (do let scanned ← scan expression
        let _ ← first scanned
        let again ← scan expression
        later again) =
      (do let scanned ← scan expression
          let _ ← first scanned
          later scanned) := by
  cases scans : Expression.scan expression with
  | error refusal =>
    have refused : scan expression = throw (.unreadable refusal) := by
      rw [scan, scans]
      rfl
    rw [refused]
    rfl
  | ok scanned =>
    have taken : scan expression = pure scanned := by
      rw [scan, scans]
      rfl
    simp only [taken, pure_bind]

theorem checkAllLive_ok_iff (tables : List String) (result : Unit) :
    (checkAllLive tables).run state = .ok result after ↔
      (∀ table ∈ tables, state.tables.isReadable table = true) ∧ after = state := by
  simp only [checkAllLive, bind_ok_iff, EStateM.run_get, EStateM.Result.ok.injEq]
  constructor
  · rintro ⟨_, _, ⟨rfl, rfl⟩, checked⟩
    rwa [check_ok_iff, WorkingSet.checkAllLive_ok_iff] at checked
  · intro checked
    refine ⟨state, state, ⟨rfl, rfl⟩, ?_⟩
    rwa [check_ok_iff, WorkingSet.checkAllLive_ok_iff]

theorem create_ok_iff (table : String) (result : Unit) :
    (create table).run state = .ok result after ↔
      (table ∈ state.tables.live → Table.isProtected table = true) ∧
        after = { state with tables := ⟨addNew state.tables.live table⟩ } := by
  simp only [create, bind_ok_iff, EStateM.run_get, EStateM.run_modify, EStateM.Result.ok.injEq]
  constructor
  · rintro ⟨_, _, ⟨rfl, rfl⟩, tables, _, checked, _, rfl⟩
    obtain ⟨created, rfl⟩ := (check_ok_iff _ _ _ _).mp checked
    obtain ⟨allowed, rfl⟩ := (WorkingSet.create_ok_iff _ _ _).mp created
    exact ⟨allowed, rfl⟩
  · rintro ⟨allowed, rfl⟩
    have created := (WorkingSet.create_ok_iff state.tables _ table).mpr ⟨allowed, rfl⟩
    exact ⟨state, state, ⟨rfl, rfl⟩, _, state, (check_ok_iff _ _ _ _).mpr ⟨created, rfl⟩, trivial,
      rfl⟩

@[simp] theorem run_emit (stage : String) (action : Action) :
    (emit stage action).run state =
      .ok () { state with listing := state.listing.emit stage action } := rfl

@[simp] theorem run_setting (key value : String) :
    (setting key value).run state =
      .ok () { state with settings := state.settings.set key value } := rfl

@[simp] theorem run_context : context.run state = .ok state.scope.current state := rfl

@[simp] theorem run_freshName :
    freshName.run state =
      .ok (state.names.next state.tables).1
        { state with names := (state.names.next state.tables).2 } := rfl

/-- Behind the block of a `setVal` nothing can fail, the second reading of the value included. -/
theorem setValue_eq (value : String) : setValue value = (do
    let context ← context
    let filled := Expression.fillPlaceholders value context
    let scanned ← scan filled
    checkAllLive scanned.referencedTables
    emit "setVal" (.updateVertex context filled)
    setting "setValContext" context
    setting "setValNewVal" (scanned.repoint Table.combined Table.values)
    setting "isSender" (if context = Table.combined then "all" else "notAll")) := by
  rw [setValue]
  refine congrArg (context >>= ·) (funext fun current => ?_)
  have again := scan_again (Expression.fillPlaceholders value current)
    (fun scanned => do
      checkAllLive scanned.referencedTables
      emit "setVal" (.updateVertex current (Expression.fillPlaceholders value current)))
    (fun scanned => do
      setting "setValContext" current
      setting "setValNewVal" (scanned.repoint Table.combined Table.values)
      setting "isSender" (if current = Table.combined then "all" else "notAll"))
  simpa only [bind_assoc] using again

end Planner

end Superstep
