import Superstep.Proofs.Planner.Layout
import Superstep.Proofs.ProgramLines
import Superstep.Proofs.Token.Readers

/-!
# The contexts of statements

A statement applies to the vertices of its context. The context is decided by the `if`s around the
statement: outside of all of them it is the table of combined messages, the outermost condition is a
context itself, and every further `if` takes a fresh name. Fresh names depend on the tables that
exist, so `Nesting` keeps these beside the scope, and nothing else: no expression is read, and
nothing is refused. Planning goes through exactly these contexts.
-/

namespace Superstep

/-- A statement of a program, and the context that is in force there. -/
structure Occurrence where
  context : String
  statement : Statement
  deriving DecidableEq, Repr

/-- What the contexts of the statements depend on. -/
structure Nesting where
  scope : Scope := {}
  tables : WorkingSet
  names : FreshNames
  deriving DecidableEq, Repr

namespace Nesting

def after (nesting : Nesting) : Statement → Nesting
  | .beginIf condition =>
    if nesting.scope.current = Table.combined then
      { nesting with scope := nesting.scope.push condition }
    else
      let (fresh, names) := nesting.names.next nesting.tables
      { scope := nesting.scope.push fresh, tables := ⟨addNew nesting.tables.live fresh⟩, names }
  | .endIf =>
    match nesting.scope.enclosing with
    | [] => nesting
    | outer :: others => { nesting with scope := ⟨others, outer⟩ }
  | .setValue _ => nesting
  | .send _ _ => { nesting with tables := ⟨addNew nesting.tables.live Table.message⟩ }
  | .assign target _ => { nesting with tables := ⟨addNew nesting.tables.live target⟩ }

/-- The statements of a program, each with its context. -/
def occurrences : Nesting → List Statement → List Occurrence
  | _, [] => []
  | nesting, first :: others =>
    ⟨nesting.scope.current, first⟩ :: occurrences (nesting.after first) others

def start (described : Algorithm) (stem : String) : Nesting where
  tables := ⟨Table.values :: Planner.degreeTables described ++ [Table.combined]⟩
  names := { stem }

theorem occurrences_statement (nesting : Nesting) (program : List Statement) :
    (nesting.occurrences program).map (·.statement) = program := by
  induction program generalizing nesting with
  | nil => rfl
  | cons first others ih => rw [occurrences, List.map_cons, ih]

/-- The contexts of the first statements do not depend on the statements behind them. -/
theorem occurrences_front (nesting : Nesting) (program : List Statement)
    (before later : List Occurrence) (split : nesting.occurrences program = before ++ later) :
    nesting.occurrences (before.map (·.statement)) = before := by
  induction before generalizing nesting program with
  | nil => rfl
  | cons first before ih =>
    cases program with
    | nil => cases split
    | cons statement program =>
      obtain ⟨rfl, behind⟩ := List.cons.inj split
      rw [List.map_cons, occurrences, ih _ _ behind]

end Nesting

namespace Planner

def nestingOf (state : PlanState) : Nesting := ⟨state.scope, state.tables, state.names⟩

/-- When planning that starts in a state comes to a statement, its context is in force. -/
def InForce (start : PlanState) (occurrences : List Occurrence) : Prop :=
  ∀ before current later, occurrences = before ++ current :: later →
    ∃ state, (statements (before.map (·.statement))).run start = .ok () state ∧
      state.scope.current = current.context

/-- The nesting after a statement follows from the statement and the nesting before it. -/
theorem Step.nesting {state after : PlanState} {planned : Statement} {added : List Block}
    (step : Step state planned added after) :
    nestingOf after = (nestingOf state).after planned := by
  cases step with
  | openOuter condition notGraph live outer =>
    have default : (nestingOf state).scope.current = Table.combined := of_decide_eq_true outer
    rw [Nesting.after, if_pos default]
    rfl
  | openInner condition notGraph live inner =>
    have deeper : (nestingOf state).scope.current ≠ Table.combined := of_decide_eq_false inner
    rw [Nesting.after, if_neg deeper]
    rfl
  | close scope enclosed =>
    simp only [Nesting.after, nestingOf, enclosed]
  | setValue | send | assign => rfl

/-- A run can be cut at every statement, and the context of the statement is in force there. -/
theorem Steps.at_occurrence {state after : PlanState} {planned : List Statement}
    {added : List Block} (run : Steps state planned added after) (before later : List Occurrence)
    (current : Occurrence)
    (split : (nestingOf state).occurrences planned = before ++ current :: later) :
    ∃ between next early here late, Steps state (before.map (·.statement)) early between ∧
      between.scope.current = current.context ∧ Step between current.statement here next ∧
      Steps next (later.map (·.statement)) late after := by
  induction before generalizing state planned added with
  | nil =>
    cases run with
    | done => cases split
    | @step _ between _ first others here late now rest =>
      obtain ⟨rfl, rfl⟩ := List.cons.inj split
      rw [Nesting.occurrences_statement]
      exact ⟨state, between, [], here, late, .done state, rfl, now, rest⟩
  | cons earlier before ih =>
    cases run with
    | done => cases split
    | step now rest =>
      obtain ⟨rfl, behind⟩ := List.cons.inj split
      rw [← now.nesting] at behind
      obtain ⟨between, next, early, here, late, front, context, current, back⟩ := ih rest behind
      exact ⟨between, next, _, here, late, .step now front, context, current, back⟩

theorem Steps.inForce {state after : PlanState} {planned : List Statement} {added : List Block}
    (run : Steps state planned added after) :
    InForce state ((nestingOf state).occurrences planned) := by
  intro before current later split
  obtain ⟨between, _, early, _, _, front, context, _⟩ := run.at_occurrence before later current split
  exact ⟨between, (statements_ok_iff _ _ _ _).mpr ⟨early, front⟩, context⟩

/-- A number behind a name makes a name. -/
theorem isName_fresh (names : FreshNames) (number : Nat)
    (stem : Text.isName names.stem.toList = true) :
    Text.isName (names.name number).toList = true := by
  have nameChars : ∀ c ∈ (toString number).toList, Text.isNameChar c = true := by
    intro c member
    have digit := FreshNames.isDigit_of_mem_toString number c member
    simp [Text.isNameChar, Char.isAlphanum, digit]
  rw [FreshNames.name, String.toList_append]
  cases spelled : names.stem.toList with
  | nil =>
    rw [spelled] at stem
    cases stem
  | cons c cs =>
    rw [spelled, Text.isName, Bool.and_eq_true] at stem
    rw [List.cons_append, Text.isName, List.all_append, stem.1, stem.2, Bool.true_and,
      Bool.true_and, List.all_eq_true]
    exact nameChars

theorem Step.stem {state after : PlanState} {planned : Statement} {added : List Block}
    (step : Step state planned added after) : after.names.stem = state.names.stem := by
  cases step <;> rfl

/-- What holds of the names in the statements and of fresh names is kept by the contexts. -/
theorem Step.contexts_hold {state after : PlanState} {planned : Statement} {added : List Block}
    (step : Step state planned added after) (property : String → Prop)
    (named : ∀ name ∈ planned.names, property name)
    (fresh : ∀ number, property (state.names.name number))
    (held : ∀ table ∈ state.scope.current :: state.scope.enclosing, property table) :
    ∀ table ∈ after.scope.current :: after.scope.enclosing, property table := by
  intro table member
  cases step with
  | openOuter condition =>
    rcases List.mem_cons.mp member with rfl | outer
    · exact named _ List.mem_cons_self
    · exact held table outer
  | openInner =>
    rcases List.mem_cons.mp member with rfl | outer
    · exact fresh _
    · exact held table outer
  | close scope enclosed =>
    apply held table (List.mem_cons_of_mem _ _)
    rw [enclosed]
    exact member
  | setValue | send | assign => exact held table member

/-- What holds of the names in a program and of fresh names holds of every context in it. -/
theorem Steps.contexts_hold {state after : PlanState} {planned : List Statement}
    {added : List Block} (run : Steps state planned added after) (property : String → Prop)
    (named : ∀ statement ∈ planned, ∀ name ∈ statement.names, property name)
    (fresh : ∀ number : Nat, property (state.names.stem ++ toString number))
    (held : ∀ table ∈ state.scope.current :: state.scope.enclosing, property table) :
    ∀ occurrence ∈ (nestingOf state).occurrences planned, property occurrence.context := by
  induction run with
  | done => simp [Nesting.occurrences]
  | step now _ ih =>
    rw [List.forall_mem_cons] at named
    rw [Nesting.occurrences, List.forall_mem_cons, ← now.nesting]
    refine ⟨held _ List.mem_cons_self, ih named.2 ?_ ?_⟩
    · rw [now.stem]
      exact fresh
    · exact now.contexts_hold property named.1 fresh held

namespace Derivation

variable {options : List (String × String)} {stem : String} {plan : Plan}
  (derived : Derivation options stem plan)

def occurrences : List Occurrence :=
  (Nesting.start derived.described stem).occurrences derived.statements

theorem occurrences_inForce : InForce derived.start derived.occurrences := derived.run.inForce

/-- The contexts of a program are names, if fresh names are. -/
theorem contexts_isName (named : Text.isName stem.toList = true) :
    ∀ occurrence ∈ derived.occurrences, Text.isName occurrence.context.toList = true := by
  refine derived.run.contexts_hold (fun table => Text.isName table.toList = true) ?_ ?_ ?_
  · intro statement member name within
    exact (Scan.word_of_identifier _ (Program.read_names derived.read statement member name within)).1
  · intro number
    exact isName_fresh derived.start.names number named
  · intro table member
    have combined : Text.isName Table.combined.toList = true := by decide
    rw [List.mem_singleton.mp member]
    exact combined

end Derivation

end Planner

end Superstep
