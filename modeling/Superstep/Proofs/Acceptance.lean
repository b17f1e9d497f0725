import Mathlib.Data.Finset.Basic
import Mathlib.Data.Finset.Dedup
import Mathlib.Data.Nat.Find
import Superstep.Proofs.Planner.Layout
import Superstep.Proofs.ProgramLines

/-!
# Which algorithms can be planned

A walk over the statements of a program keeps the set of live tables and the contexts of the open
scopes, and nothing else: no blocks, no settings, no counter for fresh names. An algorithm can be
planned exactly if its texts can be read and the walk passes every statement and ends outside of
every scope.
-/

namespace Superstep

/-- The tables that are live, the context, and the contexts around it from the inside out. -/
structure Walk where
  live : Finset String
  context : String := Table.combined
  enclosing : List String := []

namespace Walk

theorem exists_fresh (live : Finset String) :
    ∃ number : Nat, "scope_" ++ toString number ∉ live := by
  have free := (FreshNames.skipped_spec {} ⟨live.toList⟩).2
  exact ⟨_, fun member => free (Finset.mem_toList.mpr member)⟩

/-- The first name that is not live. -/
def freshName (live : Finset String) : String := "scope_" ++ toString (Nat.find (exists_fresh live))

/-- The tables that an expression reads once its placeholders are filled in, if it can be cut into
lexemes and all of them are live or belong to the graph. -/
def reads? (walk : Walk) (expression : String) : Option (List String) :=
  match Expression.scan (Expression.fillPlaceholders expression walk.context) with
  | .ok scanned =>
    if ∀ table ∈ scanned.referencedTables, table ∈ walk.live ∨ Table.isBase table = true then
      some scanned.referencedTables
    else none
  | .error _ => none

def push (walk : Walk) (context : String) : Walk :=
  { walk with context, enclosing := walk.context :: walk.enclosing }

/-- The walk behind a statement, if the statement passes its test. -/
def step? (walk : Walk) : Statement → Option Walk
  | .beginIf condition =>
    if condition ∈ walk.live ∧ Table.isBase condition = false then
      if walk.context = Table.combined then some (walk.push condition)
      else
        let fresh := freshName walk.live
        some ({ walk with live := insert fresh walk.live }.push fresh)
    else none
  | .endIf =>
    match walk.enclosing with
    | [] => none
    | outer :: others => some { walk with context := outer, enclosing := others }
  | .setValue value => if (walk.reads? value).isSome then some walk else none
  | .send direction content =>
    if Text.trimmed direction ∈ ["in", "out", "all", "no"] ∧ (walk.reads? content).isSome then
      some { walk with live := insert Table.message walk.live }
    else none
  | .assign target expression =>
    if Table.isProtected target = false ∧ Table.isBase target = false ∧ target ≠ Table.combined ∧
        target ∉ walk.live ∧ (walk.reads? expression).any (!·.isEmpty) then
      some { walk with live := insert target walk.live }
    else none

def run? : Walk → List Statement → Option Walk
  | walk, [] => some walk
  | walk, first :: others => (walk.step? first).bind (run? · others)

/-- The walk before a program: its text says which degree tables there are. -/
def start (update : String) : Walk where
  live := {Table.values, Table.combined} ∪
    ({Table.inCounts, Table.outCounts} : Finset String).filter (Text.mentions update · = true)

end Walk

def requiredKeys : List String :=
  ["End", "InitiateVal", "InitialMessage", "MessageValType", "CombineMessage", "UpdateAndSend"]

/-- The algorithm in a map of options, with empty texts for those that are missing. -/
def Algorithm.inOptions (options : List (String × String)) : Algorithm where
  finish := (options.lookup "End").getD ""
  firstValue := (options.lookup "InitiateVal").getD ""
  firstMessage := (options.lookup "InitialMessage").getD ""
  messageType := (options.lookup "MessageValType").getD ""
  vertexType := options.lookup "VertexValType"
  combine := (options.lookup "CombineMessage").getD ""
  update := (options.lookup "UpdateAndSend").getD ""

/-- All that a map of options is tested for. -/
structure Accepted (options : List (String × String)) : Prop where
  present : ∀ key ∈ requiredKeys, (options.lookup key).isSome = true
  ends : ∃ loopEnd, (Algorithm.inOptions options).loopEnd = .ok loopEnd
  first : ∃ message, (Algorithm.inOptions options).startMessage = .ok message
  combines : ∃ aggregate, Expression.scan (Algorithm.inOptions options).combine = .ok aggregate
  walks : ∃ statements last,
    Program.Say (Program.statementLines (Algorithm.inOptions options).update) statements ∧
      (Walk.start (Algorithm.inOptions options).update).run? statements = some last ∧
        last.enclosing = []

theorem toFinset_addNew (items : List String) (item : String) :
    (addNew items item).toFinset = insert item items.toFinset := by
  ext other
  rw [List.mem_toFinset, mem_addNew, Finset.mem_insert, List.mem_toFinset, or_comm]

theorem Direction.exists_read_iff (source : String) :
    (∃ way, Direction.read source = .ok way) ↔
      Text.trimmed source ∈ ["in", "out", "all", "no"] := by
  simp only [Direction.read, List.mem_cons, List.not_mem_nil, or_false]
  split_ifs <;> simp_all

namespace Planner

/-- What a walk keeps of the state of planning. -/
def walkOf (state : PlanState) : Walk :=
  ⟨state.tables.live.toFinset, state.scope.current, state.scope.enclosing⟩

/-- The counter has passed only names that are live, so that fresh names do not depend on it. -/
structure Numbered (state : PlanState) : Prop where
  stem : state.names.stem = "scope_"
  used : ∀ number < state.names.counter, state.names.name number ∈ state.tables.live

/-- The planner and the walk choose the same fresh name: the first number whose name is not taken. -/
theorem Numbered.next_eq {state : PlanState} (numbered : Numbered state) :
    (state.names.next state.tables).1 = Walk.freshName state.tables.live.toFinset := by
  obtain ⟨number, next, _, free, between⟩ := FreshNames.next_spec state.names state.tables
  have name : ∀ other, state.names.name other = "scope_" ++ toString other := by
    intro other
    rw [FreshNames.name, numbered.stem]
  -- The planner counts on from the last name, the walk from zero. Every name in between is live.
  have first : Nat.find (Walk.exists_fresh state.tables.live.toFinset) = number := by
    rw [Nat.find_eq_iff]
    refine ⟨?_, ?_⟩
    · rw [← name, List.mem_toFinset]
      exact free
    · intro earlier small
      rw [← name, List.mem_toFinset, not_not]
      rcases Nat.lt_or_ge earlier state.names.counter with passed | ahead
      · exact numbered.used earlier passed
      · exact between earlier ahead small
  rw [next, Walk.freshName, first, name]

/-- The numbers below the counter stay in use, since no statement drops a table. -/
theorem Step.numbered {state after : PlanState} {planned : Statement} {added : List Block}
    (step : Step state planned added after) (numbered : Numbered state) : Numbered after := by
  cases step with
  | openOuter | close | setValue => exact ⟨numbered.stem, numbered.used⟩
  | send | assign =>
    refine ⟨numbered.stem, fun number small => ?_⟩
    exact (mem_addNew _ _ _).mpr (.inl (numbered.used number small))
  | openInner =>
    obtain ⟨number, next, _, _, between⟩ := FreshNames.next_spec state.names state.tables
    rw [next]
    refine ⟨numbered.stem, ?_⟩
    intro earlier small
    refine (mem_addNew _ _ _).mpr ?_
    rcases Nat.lt_succ_iff_lt_or_eq.mp small with less | rfl
    · left
      rcases Nat.lt_or_ge earlier state.names.counter with passed | ahead
      · exact numbered.used earlier passed
      · exact between earlier ahead less
    · exact .inr rfl

/-- The walk reads an expression exactly if the planner does, and finds the same tables. -/
theorem reads?_eq_some_iff (state : PlanState) (expression : String) (tables : List String) :
    (walkOf state).reads? expression = some tables ↔
      ∃ scanned, Reads state (Expression.fillPlaceholders expression state.scope.current) scanned ∧
        scanned.referencedTables = tables := by
  have readable : ∀ table, table ∈ state.tables.live.toFinset ∨ Table.isBase table = true ↔
      state.tables.isReadable table = true := by
    intro table
    rw [WorkingSet.isReadable_iff, List.mem_toFinset]
  simp only [Walk.reads?, walkOf, readable]
  constructor
  · intro success
    split at success
    · rename_i scanned scans
      split at success
      · rename_i live
        exact ⟨scanned, ⟨scans, live⟩, Option.some.inj success⟩
      · cases success
    · cases success
  · rintro ⟨scanned, reads, rfl⟩
    simp only [reads.scans, if_pos reads.live]

theorem isSome_reads? (state : PlanState) (expression : String) :
    ((walkOf state).reads? expression).isSome = true ↔
      ∃ scanned,
        Reads state (Expression.fillPlaceholders expression state.scope.current) scanned := by
  simp [Option.isSome_iff_exists, reads?_eq_some_iff]

/-- A walk passes every statement that is planned, and goes on from the same tables and contexts. -/
theorem Step.walks {state after : PlanState} {planned : Statement} {added : List Block}
    (step : Step state planned added after) (numbered : Numbered state) :
    (walkOf state).step? planned = some (walkOf after) := by
  cases step with
  | openOuter condition notGraph live outer =>
    have default : (walkOf state).context = Table.combined := of_decide_eq_true outer
    rw [Walk.step?, if_pos ⟨List.mem_toFinset.mpr live, notGraph⟩, if_pos default]
    rfl
  | openInner condition notGraph live inner =>
    have deeper : (walkOf state).context ≠ Table.combined := of_decide_eq_false inner
    rw [Walk.step?, if_pos ⟨List.mem_toFinset.mpr live, notGraph⟩, if_neg deeper, numbered.next_eq]
    simp only [walkOf, toFinset_addNew]
    rfl
  | close scope enclosed =>
    simp only [Walk.step?, walkOf, enclosed]
  | setValue value scanned reads =>
    rw [Walk.step?, if_pos ((isSome_reads? state value).mpr ⟨scanned, reads⟩)]
    rfl
  | send direction content way scanned names reads =>
    rw [Walk.step?, if_pos ⟨(Direction.exists_read_iff direction).mp ⟨way, names⟩,
      (isSome_reads? state content).mpr ⟨scanned, reads⟩⟩]
    simp only [walkOf, toFinset_addNew]
  | assign target expression scanned assignable new some reads =>
    obtain ⟨notProtected, notGraph, notCombined⟩ :=
      (Table.isReserved_eq_false_iff target).mp assignable
    have read := (reads?_eq_some_iff state expression _).mpr ⟨scanned, reads, rfl⟩
    have tables : ((walkOf state).reads? expression).any (!·.isEmpty) = true := by
      rw [read]
      simpa using some
    have absent : target ∉ (walkOf state).live := fun old => new (List.mem_toFinset.mp old)
    rw [Walk.step?, if_pos ⟨notProtected, notGraph, notCombined, absent, tables⟩]
    simp only [walkOf, toFinset_addNew]

/-- Every statement that a walk passes can be planned. -/
theorem exists_step (state : PlanState) (planned : Statement) (next : Walk)
    (passes : (walkOf state).step? planned = some next) :
    ∃ added after, Step state planned added after := by
  cases planned with
  | beginIf condition =>
    rw [Walk.step?] at passes
    split at passes
    · rename_i test
      have live := List.mem_toFinset.mp test.1
      cases place : state.scope.isDefault with
      | true => exact ⟨_, _, .openOuter condition test.2 live place⟩
      | false => exact ⟨_, _, .openInner condition test.2 live place⟩
    · cases passes
  | endIf =>
    cases enclosed : state.scope.enclosing with
    | nil => simp [Walk.step?, walkOf, enclosed] at passes
    | cons outer others => exact ⟨_, _, .close ⟨others, outer⟩ enclosed⟩
  | setValue value =>
    rw [Walk.step?] at passes
    split at passes
    · rename_i test
      obtain ⟨scanned, reads⟩ := (isSome_reads? state value).mp test
      exact ⟨_, _, .setValue value scanned reads⟩
    · cases passes
  | send direction content =>
    rw [Walk.step?] at passes
    split at passes
    · rename_i test
      obtain ⟨way, names⟩ := (Direction.exists_read_iff direction).mpr test.1
      obtain ⟨scanned, reads⟩ := (isSome_reads? state content).mp test.2
      exact ⟨_, _, .send direction content way scanned names reads⟩
    · cases passes
  | assign target expression =>
    rw [Walk.step?] at passes
    split at passes
    · rename_i test
      obtain ⟨notProtected, notGraph, notCombined, absent, tables⟩ := test
      have assignable := (Table.isReserved_eq_false_iff target).mpr
        ⟨notProtected, notGraph, notCombined⟩
      have new : target ∉ state.tables.live := fun old => absent (List.mem_toFinset.mpr old)
      cases read : (walkOf state).reads? expression with
      | none => simp [read] at tables
      | some held =>
        obtain ⟨scanned, reads, rfl⟩ := (reads?_eq_some_iff state expression held).mp read
        have some : scanned.referencedTables ≠ [] := by simpa [read] using tables
        exact ⟨_, _, .assign target expression scanned assignable new some reads⟩
    · cases passes

theorem Steps.walks {state after : PlanState} {planned : List Statement} {added : List Block}
    (run : Steps state planned added after) (numbered : Numbered state) :
    (walkOf state).run? planned = some (walkOf after) := by
  induction run with
  | done => rfl
  | step now _ ih =>
    rw [Walk.run?, now.walks numbered, Option.bind_some]
    exact ih (now.numbered numbered)

/-- A walk that passes all its tests is followed by planning, statement by statement. -/
theorem exists_steps (state : PlanState) (planned : List Statement) (last : Walk)
    (numbered : Numbered state) (passes : (walkOf state).run? planned = some last) :
    ∃ added after, Steps state planned added after ∧ walkOf after = last := by
  induction planned generalizing state with
  | nil => exact ⟨[], state, .done state, Option.some.inj passes⟩
  | cons first others ih =>
    obtain ⟨next, passed, rest⟩ := Option.bind_eq_some_iff.mp passes
    obtain ⟨added, between, now⟩ := exists_step state first next passed
    -- The step is found from its test alone; what it leads to is settled by `Step.walks`.
    obtain rfl : walkOf between = next := Option.some.inj ((now.walks numbered).symm.trans passed)
    obtain ⟨more, after, later, same⟩ := ih between (now.numbered numbered) rest
    exact ⟨added ++ more, after, .step now later, same⟩

/-- A map of options describes an algorithm if no option that is needed is missing. -/
theorem describes_iff (options : List (String × String)) (described : Algorithm) :
    Algorithm.ofOptions options = .ok described ↔
      (∀ key ∈ requiredKeys, (options.lookup key).isSome = true) ∧
        described = Algorithm.inOptions options := by
  simp only [Algorithm.ofOptions, except_bind_ok_iff, required_ok_iff, OptionKey.name, pure,
    Except.pure, Except.ok.injEq, requiredKeys, List.forall_mem_cons, List.not_mem_nil,
    false_implies, implies_true, and_true, Option.isSome_iff_exists]
  constructor
  · rintro ⟨finish, hasFinish, value, hasValue, message, hasMessage, type, hasType, combine,
      hasCombine, update, hasUpdate, rfl⟩
    simp [Algorithm.inOptions, hasFinish, hasValue, hasMessage, hasType, hasCombine, hasUpdate]
  · rintro ⟨⟨⟨finish, hasFinish⟩, ⟨value, hasValue⟩, ⟨message, hasMessage⟩, ⟨type, hasType⟩,
      ⟨combine, hasCombine⟩, ⟨update, hasUpdate⟩⟩, rfl⟩
    simp [Algorithm.inOptions, hasFinish, hasValue, hasMessage, hasType, hasCombine, hasUpdate]

/-- The walk starts with the tables and the context that planning has when it comes to the program. -/
theorem walkOf_entry (described : Algorithm) (loopEnd : LoopEnd) (names : FreshNames)
    (message : FirstMessage) (aggregate : Scanned) :
    walkOf (entry described loopEnd names message aggregate) = Walk.start described.update := by
  have degrees : ∀ table, table ∈ degreeTables described ↔
      (table = Table.inCounts ∨ table = Table.outCounts) ∧
        Text.mentions described.update table = true := by
    intro table
    rw [mem_degreeTables]
    constructor
    · rintro (⟨mentioned, rfl⟩ | ⟨mentioned, rfl⟩)
      · exact ⟨.inl rfl, mentioned⟩
      · exact ⟨.inr rfl, mentioned⟩
    · rintro ⟨rfl | rfl, mentioned⟩
      · exact .inl ⟨mentioned, rfl⟩
      · exact .inr ⟨mentioned, rfl⟩
  have live : (Table.values :: degreeTables described ++ [Table.combined]).toFinset =
      (Walk.start described.update).live := by
    ext table
    simp only [Walk.start, List.mem_toFinset, List.mem_append, List.mem_cons, degrees,
      List.not_mem_nil, or_false, Finset.mem_union, Finset.mem_insert, Finset.mem_singleton,
      Finset.mem_filter]
    exact or_right_comm
  rw [walkOf, Walk.start]
  exact congrArg (Walk.mk · Table.combined []) live

/-- Planning with the usual names succeeds exactly if the options pass all tests. -/
theorem planned_iff_accepted (options : List (String × String)) :
    (∃ plan, Plan.ofOptions options "scope_" = .ok plan) ↔ Accepted options := by
  constructor
  · rintro ⟨plan, success⟩
    obtain ⟨derived⟩ := (ofOptions_ok_iff options "scope_" plan).mp success
    obtain ⟨present, described⟩ := (describes_iff options _).mp derived.describes
    have passes := derived.run.walks ⟨rfl, fun number small => absurd small (Nat.not_lt_zero _)⟩
    rw [walkOf_entry] at passes
    have said := (Program.read_say _ _).mp ⟨derived.lines, derived.read, rfl⟩
    rw [described] at passes said
    exact {
      present
      ends := ⟨derived.loopEnd, described ▸ derived.ends⟩
      first := ⟨derived.message, described ▸ derived.first⟩
      combines := ⟨derived.aggregate, described ▸ derived.combines⟩
      walks := ⟨_, _, said, passes, derived.balanced⟩ }
  · rintro ⟨present, ⟨loopEnd, ends⟩, ⟨message, first⟩, ⟨aggregate, combines⟩,
      ⟨statements, last, said, passes, balanced⟩⟩
    have describes := (describes_iff options _).mpr ⟨present, rfl⟩
    obtain ⟨lines, read, rfl⟩ := (Program.read_say _ _).mpr said
    rw [← walkOf_entry _ loopEnd { stem := "scope_" } message aggregate] at passes
    obtain ⟨added, ended, run, rfl⟩ := exists_steps _ _ _
      ⟨rfl, fun number small => absurd small (Nat.not_lt_zero _)⟩ passes
    exact ⟨_, (ofOptions_ok_iff options "scope_" _).mpr ⟨⟨_, loopEnd, message, aggregate, lines,
      added, ended, describes, ends, first, combines, read, run, balanced, rfl⟩⟩⟩

end Planner

end Superstep
