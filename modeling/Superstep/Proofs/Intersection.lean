import Mathlib.Data.Finset.Prod
import Superstep.Block.Sql
import Superstep.Proofs.Scopes

/-!
# Nested conditions mean intersection

A join of two tables has a meaning of its own, read off the text of its select: the pairs of rows
with the same id. With it, the context inside of several `if`s holds the rows of the innermost
condition whose ids occur in all of them, although the outermost `if` adds no block and each of the
others adds one join, into a fresh table. It does not matter where the names of these tables come from.
-/

namespace Superstep

/-- The rows of every table: ids with values. -/
abbrev Database (Id Value : Type) := String → Finset (Id × Value)

variable {Id Value : Type}

/-- The table holds the rows of the last condition whose ids occur in every condition. -/
def Denotes (rows evaluated : Database Id Value) (table : String) (conditions : List String) :
    Prop :=
  ∀ id value, (id, value) ∈ evaluated table ↔
    (∃ innermost, conditions.getLast? = some innermost ∧ (id, value) ∈ rows innermost) ∧
      ∀ condition ∈ conditions, ∃ other, (id, other) ∈ rows condition

/-- The innermost condition gives the rows, and the outer ones only restrict their ids. -/
theorem denotes_snoc_iff (rows evaluated : Database Id Value) (table innermost : String)
    (outer : List String) :
    Denotes rows evaluated table (outer ++ [innermost]) ↔
      ∀ id value, (id, value) ∈ evaluated table ↔
        (id, value) ∈ rows innermost ∧
          ∀ condition ∈ outer, ∃ other, (id, other) ∈ rows condition := by
  refine forall_congr' fun id => forall_congr' fun value => iff_congr Iff.rfl ?_
  simp only [List.getLast?_concat, Option.some.injEq, exists_eq_left', List.mem_append,
    List.mem_singleton]
  constructor
  · rintro ⟨row, all⟩
    exact ⟨row, fun condition member => all condition (.inl member)⟩
  · rintro ⟨row, all⟩
    refine ⟨row, ?_⟩
    rintro condition (member | rfl)
    · exact all condition member
    · exact ⟨value, row⟩

/-- The ids of the table are those that occur in every condition. -/
theorem Denotes.exists_row_iff {rows evaluated : Database Id Value} {table : String}
    {conditions : List String} (denotes : Denotes rows evaluated table conditions)
    (some : conditions ≠ []) (id : Id) :
    (∃ value, (id, value) ∈ evaluated table) ↔
      ∀ condition ∈ conditions, ∃ other, (id, other) ∈ rows condition := by
  constructor
  · rintro ⟨value, row⟩
    exact ((denotes id value).mp row).2
  · intro all
    obtain ⟨value, row⟩ := all _ (List.getLast_mem some)
    exact ⟨value, (denotes id value).mpr ⟨⟨_, List.getLast?_eq_some_getLast some, row⟩, all⟩⟩

/-- Only the rows of the one table matter. -/
theorem Denotes.congr {rows evaluated other : Database Id Value} {table : String}
    {conditions : List String} (denotes : Denotes rows evaluated table conditions)
    (same : other table = evaluated table) : Denotes rows other table conditions := by
  intro id value
  rw [same]
  exact denotes id value

section Evaluation

variable [DecidableEq Id] [DecidableEq Value]

/-- The pairs of rows of two tables that have the same id. -/
def Database.pairs (database : Database Id Value) (first second : String) :
    Finset ((Id × Value) × (Id × Value)) :=
  (database first ×ˢ database second).filter fun pair => pair.1.1 = pair.2.1

/-- The rows of a select that joins two tables on `id` and has no other condition: the id of the
first, and the value of one of them. No other select has a meaning here. -/
def Select.joinRows? (select : Select) (database : Database Id Value) :
    Option (Finset (Id × Value)) :=
  match select.sources with
  | [first, second] =>
    if select.conditions = [first ++ ".id = " ++ second ++ ".id"] ∧ select.groupBy = none then
      if select.columns = [first ++ ".id AS id", second ++ ".val AS val"] then
        some ((database.pairs first second).image fun pair => (pair.1.1, pair.2.2))
      else if select.columns = [first ++ ".id AS id", first ++ ".val AS val"] then
        some ((database.pairs first second).image fun pair => (pair.1.1, pair.1.2))
      else none
    else none
  | _ => none

/-- The database behind a block that joins two tables into a third. -/
def Block.joinInto? (block : Block) (database : Database Id Value) : Option (Database Id Value) :=
  match block.action with
  | .select select =>
    match select.target, select.joinRows? database with
    | some target, some rows => some (Function.update database target rows)
    | _, _ => none
  | .statement _ | .createTable _ _ | .dropTable _ | .insert _ _ | .union _ | .updateVertex _ _
  | .beginLoop _ _ | .endLoop _ _ => none

def Block.evaluate (blocks : List Block) (database : Database Id Value) :
    Option (Database Id Value) :=
  blocks.foldlM (fun reached block => block.joinInto? reached) database

end Evaluation

namespace Planner

/-- The contexts of open `if`s with the conditions they were opened with, both from the inside out:
each context denotes its condition and those around it. -/
inductive Stacked (rows evaluated : Database Id Value) : List String → List String → Prop where
  | outside : Stacked rows evaluated [] []
  | inside (table condition : String) {contexts outer : List String}
      (denotes : Denotes rows evaluated table (condition :: outer).reverse)
      (around : Stacked rows evaluated contexts outer) :
      Stacked rows evaluated (table :: contexts) (condition :: outer)

theorem Stacked.congr {rows evaluated other : Database Id Value} {contexts conditions : List String}
    (stacked : Stacked rows evaluated contexts conditions)
    (same : ∀ table ∈ contexts, other table = evaluated table) :
    Stacked rows other contexts conditions := by
  induction stacked with
  | outside => exact .outside
  | inside table condition denotes _ ih =>
    exact .inside table condition (denotes.congr (same table List.mem_cons_self))
      (ih fun table member => same table (List.mem_cons_of_mem _ member))

theorem Stacked.top {rows evaluated : Database Id Value} {table : String}
    {contexts conditions : List String}
    (stacked : Stacked rows evaluated (table :: contexts) conditions) :
    conditions ≠ [] ∧ Denotes rows evaluated table conditions.reverse := by
  cases stacked with
  | inside _ condition denotes => exact ⟨List.cons_ne_nil _ _, denotes⟩

theorem Stacked.length_eq {rows evaluated : Database Id Value} {contexts conditions : List String}
    (stacked : Stacked rows evaluated contexts conditions) :
    contexts.length = conditions.length := by
  induction stacked with
  | outside => rfl
  | inside table condition denotes _ ih => exact congrArg (· + 1) ih

theorem Stacked.drop {rows evaluated : Database Id Value} {contexts conditions : List String}
    (stacked : Stacked rows evaluated contexts conditions) (closed : Nat) :
    Stacked rows evaluated (contexts.drop closed) (conditions.drop closed) := by
  induction closed generalizing contexts conditions with
  | zero => exact stacked
  | succ closed ih =>
    cases stacked with
    | outside => exact .outside
    | inside table condition denotes around => exact ih around

/-- The state inside of `if`s that were opened in `start`, with the tables that their joins give. -/
structure Opened (start : PlanState) (rows : Database Id Value) (state : PlanState)
    (evaluated : Database Id Value) (contexts conditions : List String) : Prop where
  scope : state.scope.contexts = contexts ++ start.scope.contexts
  stacked : Stacked rows evaluated contexts conditions
  keyed : ∀ context ∈ contexts, context ∈ state.tables.live ∧ context ≠ Table.edge ∧
    context ≠ Table.combined
  live : ∀ table ∈ start.tables.live, table ∈ state.tables.live
  kept : ∀ table ∈ start.tables.live, evaluated table = rows table

/-- A table that can be a condition of an `if` and leads away from the outermost context. -/
structure Condition (state : PlanState) (table : String) : Prop where
  live : table ∈ state.tables.live
  notGraph : Table.isBase table = false
  inner : table ≠ Table.combined

theorem Condition.ne_edge {state : PlanState} {table : String} (condition : Condition state table) :
    table ≠ Table.edge := by
  rintro rfl
  exact absurd condition.notGraph (by decide)

theorem Condition.mono {state after : PlanState} {table : String} (condition : Condition state table)
    (grows : ∀ live ∈ state.tables.live, live ∈ after.tables.live) : Condition after table :=
  ⟨grows table condition.live, condition.notGraph, condition.inner⟩

/-- How opening an `if` changes the state, and the blocks that it adds. Any new name will do that is not
the outermost context, and that a join does not take for the edges. -/
inductive Enters (state : PlanState) (condition : String) : List Block → PlanState → Prop where
  | outer (place : state.scope.isDefault = true) :
      Enters state condition [] { state with scope := state.scope.push condition }
  | inner (name : String) (names : FreshNames) (place : state.scope.isDefault = false)
      (absent : name ∉ state.tables.live) (away : name ≠ Table.combined)
      (keyed : name ≠ Table.edge) :
      Enters state condition
        [⟨"join", state.listing.depth, .select
          (intersection name state.scope.current condition)⟩]
        { state with
          names
          listing := state.listing.emit "join" (.select
            (intersection name state.scope.current condition))
          tables := ⟨addNew state.tables.live name⟩
          scope := state.scope.push name }

inductive EntersAll : PlanState → List String → List Block → PlanState → Prop where
  | done (state : PlanState) : EntersAll state [] [] state
  | step {state between after : PlanState} {condition : String} {conditions : List String}
      {added more : List Block} (now : Enters state condition added between)
      (later : EntersAll between conditions more after) :
      EntersAll state (condition :: conditions) (added ++ more) after

/-- An `if` never takes a table away. -/
theorem Enters.grows {state after : PlanState} {condition : String} {added : List Block}
    (enters : Enters state condition added after) :
    ∀ table ∈ state.tables.live, table ∈ after.tables.live := by
  intro table live
  cases enters with
  | outer => exact live
  | inner => exact (mem_addNew _ _ _).mpr (.inl live)

theorem Enters.listing {state after : PlanState} {condition : String} {added : List Block}
    (enters : Enters state condition added after) :
    after.listing = { state.listing with blocks := state.listing.blocks ++ added } := by
  cases enters with
  | outer => rw [List.append_nil]
  | inner => rfl

theorem EntersAll.listing {state after : PlanState} {conditions : List String}
    {added : List Block} (run : EntersAll state conditions added after) :
    after.listing = { state.listing with blocks := state.listing.blocks ++ added } := by
  induction run with
  | done => rw [List.append_nil]
  | step now _ ih => rw [ih, now.listing, List.append_assoc]

/-- Opens an `if` for each condition, one inside the other, with names from any source. -/
def enterScopes (fresh : Planner String) : List String → Planner Unit
  | [] => pure ()
  | condition :: others => do
    enterScopeNaming fresh condition
    enterScopes fresh others

theorem enterScopes_freshName (conditions : List String) :
    enterScopes freshName conditions = statements (conditions.map .beginIf) := by
  induction conditions with
  | nil => rfl
  | cons condition others ih =>
    rw [enterScopes, ih]
    rfl

/-- The source gives no name that stands for something else in a join: the outermost context, or the
edges, which are never joined on their id. -/
def SparesNames (fresh : Planner String) : Prop :=
  ∀ before after name, fresh.run before = .ok name after →
    name ≠ Table.combined ∧ name ≠ Table.edge

/-- Both names are reserved, and a fresh name is not. -/
theorem freshName_sparesNames : SparesNames freshName := by
  intro before after name given
  have unreserved := FreshNames.next_not_reserved before.names before.tables
  rw [run_freshName, EStateM.Result.ok.injEq] at given
  rw [given.1] at unreserved
  constructor
  · rintro rfl
    exact absurd unreserved (by decide)
  · rintro rfl
    exact absurd unreserved (by decide)

section Source

variable {fresh : Planner String} (new : GivesNew fresh) (spares : SparesNames fresh)

include new spares

/-- With a condition that exists, an `if` can always be opened: the name given for its table is new. -/
theorem exists_enter (state : PlanState) (condition : String) (opens : Condition state condition) :
    ∃ added after, (enterScopeNaming fresh condition).run state = .ok () after ∧
      Enters state condition added after := by
  have enters : ∀ after, (enterScopeNaming fresh condition).run state = .ok () after ↔
      (if state.scope.isDefault then
        modify fun state => { state with scope := state.scope.push condition }
      else do
        let target ← fresh
        join target [state.scope.current, condition] "" condition
        modify fun state => { state with scope := state.scope.push target } :
        Planner Unit).run state = .ok () after := by
    intro after
    simp only [enterScopeNaming, refuse_ok_iff, bind_ok_iff, checkAllLive_ok_iff, EStateM.run_get,
      EStateM.Result.ok.injEq, and_assoc, exists_and_left, exists_eq_left', exists_eq_left,
      exists_const, List.forall_mem_singleton, WorkingSet.isReadable_iff, opens.notGraph,
      opens.live, true_and, true_or]
  cases place : state.scope.isDefault with
  | true =>
    refine ⟨_, _, (enters _).mpr ?_, .outer place⟩
    rw [place, if_pos rfl]
    rfl
  | false =>
    obtain ⟨name, names, given, absent⟩ := new state
    obtain ⟨away, keyed⟩ := spares _ _ _ given
    refine ⟨_, _, (enters _).mpr ?_, .inner name names place absent away keyed⟩
    have joined := (join_ok_iff { state with names } _ name state.scope.current condition ()).mpr
      ⟨fun old => absurd old absent, rfl⟩
    rw [place, if_neg Bool.false_ne_true, EStateM.run_bind, given]
    simp only [EStateM.run_bind, joined]
    rfl

/-- No `if` takes a table away, so the conditions further in can still be opened. -/
theorem exists_enters (state : PlanState) (conditions : List String)
    (opens : ∀ condition ∈ conditions, Condition state condition) :
    ∃ added after, (enterScopes fresh conditions).run state = .ok () after ∧
      EntersAll state conditions added after := by
  induction conditions generalizing state with
  | nil => exact ⟨[], state, rfl, .done state⟩
  | cons condition others ih =>
    obtain ⟨added, between, first, now⟩ :=
      exists_enter new spares state condition (opens _ List.mem_cons_self)
    have still : ∀ other ∈ others, Condition between other := fun other member =>
      (opens other (List.mem_cons_of_mem _ member)).mono now.grows
    obtain ⟨more, after, rest, later⟩ := ih between still
    refine ⟨_, after, ?_, .step now later⟩
    rw [enterScopes, EStateM.run_bind, first]
    exact rest

end Source

/-- The outermost `if` adds no block, and its condition is the context. -/
theorem Enters.opened {start after : PlanState} {condition : String} {added : List Block}
    (enters : Enters start condition added after) (top : start.scope.isDefault = true)
    (opens : Condition start condition) (rows : Database Id Value) :
    added = [] ∧ Opened start rows after rows [condition] [condition] := by
  cases enters with
  | inner _ _ inner => rw [top] at inner; cases inner
  | outer =>
    refine ⟨rfl, rfl, .inside condition condition ?_ .outside, ?_, fun _ live => live,
      fun _ _ => rfl⟩
    · rw [List.reverse_singleton, ← List.nil_append [condition], denotes_snoc_iff]
      simp
    · intro context member
      rw [List.mem_singleton.mp member]
      exact ⟨opens.live, opens.ne_edge, opens.inner⟩

/-- Closing as many `if`s as there are contexts on top takes these off and adds nothing. -/
theorem exists_leaves (state : PlanState) (above : List String) (base : Scope)
    (split : state.scope.contexts = above ++ base.contexts) :
    ∃ after, Steps state (List.replicate above.length .endIf) [] after ∧ after.scope = base := by
  induction above generalizing state with
  | nil => exact ⟨state, .done state, Scope.eq_of_contexts _ _ split⟩
  | cons top others ih =>
    have enclosed : state.scope.enclosing = others ++ base.contexts := (List.cons.inj split).2
    obtain ⟨next, rest, parts⟩ : ∃ next rest, others ++ base.contexts = next :: rest := by
      cases others with
      | nil => exact ⟨_, _, rfl⟩
      | cons => exact ⟨_, _, rfl⟩
    have now : Step state .endIf [] { state with scope := ⟨rest, next⟩ } :=
      .close ⟨rest, next⟩ (enclosed.trans parts)
    obtain ⟨after, later, reached⟩ := ih { state with scope := ⟨rest, next⟩ } parts.symm
    exact ⟨after, .step now later, reached⟩

/-- Closing `if`s finds the outer contexts as they were: no later join has written their tables. -/
theorem Opened.leaves {start state : PlanState} {rows evaluated : Database Id Value}
    {contexts conditions : List String}
    (opened : Opened start rows state evaluated contexts conditions) (closed : Nat)
    (bound : closed ≤ conditions.length) :
    ∃ after, (statements (List.replicate closed .endIf)).run state = .ok () after ∧
      after.listing = state.listing ∧
      (closed < conditions.length →
        Denotes rows evaluated after.scope.current (conditions.drop closed).reverse) ∧
      (closed = conditions.length → after.scope = start.scope) := by
  have levels := opened.stacked.length_eq
  obtain ⟨base, whole⟩ : ∃ base : Scope,
      base.contexts = contexts.drop closed ++ start.scope.contexts := by
    cases contexts.drop closed with
    | nil => exact ⟨start.scope, rfl⟩
    | cons top others => exact ⟨⟨others ++ start.scope.contexts, top⟩, rfl⟩
  have split : state.scope.contexts = contexts.take closed ++ base.contexts := by
    rw [whole, ← List.append_assoc, List.take_append_drop, opened.scope]
  obtain ⟨after, run, reached⟩ := exists_leaves state (contexts.take closed) base split
  rw [List.length_take, levels, Nat.min_eq_left bound] at run
  refine ⟨after, (statements_ok_iff _ _ _ _).mpr ⟨[], run⟩, ?_, ?_, ?_⟩
  · rw [run.listing, List.append_nil]
  · intro inside
    have remaining := opened.stacked.drop closed
    cases left : contexts.drop closed with
    | nil =>
      have short := List.drop_eq_nil_iff.mp left
      omega
    | cons top others =>
      rw [left] at remaining whole
      have current : after.scope.current = top := by
        rw [reached]
        exact (List.cons.inj whole).1
      rw [current]
      exact remaining.top.2
  · intro all
    rw [all, ← levels, List.drop_length, List.nil_append] at whole
    rw [reached]
    exact Scope.eq_of_contexts _ _ whole

section Evaluation

variable [DecidableEq Id] [DecidableEq Value]

/-- Away from the edges, the only condition of the join is that the ids agree. -/
theorem intersection_conditions (target context condition : String) (notEdge : context ≠ Table.edge)
    (keyed : condition ≠ Table.edge) :
    (intersection target context condition).conditions =
      [context ++ ".id = " ++ condition ++ ".id"] := by
  have kept : [context, condition].filter (· ≠ Table.edge) = [context, condition] := by
    simp [notEdge, keyed]
  have equations : (intersection target context condition).idEquations =
      [context ++ ".id = " ++ condition ++ ".id"] := by
    rw [Select.idEquations]
    simp only [intersection, if_true]
    rw [kept]
    rfl
  have blank : (Text.trimmed "").isEmpty = true := by decide
  rw [Select.conditions, equations]
  simp only [intersection, blank, if_true, List.append_nil]

/-- Intersecting the table of some conditions with one more. -/
theorem mem_joinInto (database : Database Id Value) (stage target context condition : String)
    (depth : Nat) (notEdge : context ≠ Table.edge) (keyed : condition ≠ Table.edge) :
    ∃ joined : Finset (Id × Value),
      Block.joinInto? ⟨stage, depth, .select (intersection target context condition)⟩ database =
        some (Function.update database target joined) ∧
      ∀ id value, (id, value) ∈ joined ↔
        (id, value) ∈ database condition ∧ ∃ other, (id, other) ∈ database context := by
  refine ⟨(database.pairs context condition).image fun pair => (pair.1.1, pair.2.2), ?_, ?_⟩
  · have rows : (intersection target context condition).joinRows? database =
        some ((database.pairs context condition).image fun pair => (pair.1.1, pair.2.2)) := by
      rw [Select.joinRows?]
      simp only [intersection_conditions target context condition notEdge keyed]
      simp only [intersection, and_self, if_true]
    simp only [Block.joinInto?, rows]
    rfl
  · intro id value
    simp only [Finset.mem_image, Database.pairs, Finset.mem_filter, Finset.mem_product]
    constructor
    · rintro ⟨⟨⟨left, other⟩, right, found⟩, ⟨⟨inContext, inCondition⟩, same⟩, pair⟩
      simp only [Prod.mk.injEq] at pair same
      obtain ⟨rfl, rfl⟩ := pair
      subst same
      exact ⟨inCondition, other, inContext⟩
    · rintro ⟨inCondition, other, inContext⟩
      exact ⟨((id, other), id, value), ⟨⟨inContext, inCondition⟩, rfl⟩, rfl⟩

/-- A further `if` adds one join into a table that was not there, which denotes one condition more. -/
theorem Opened.enter {start state after : PlanState} {rows evaluated : Database Id Value}
    {context : String} {contexts conditions : List String} {added : List Block}
    (opened : Opened start rows state evaluated (context :: contexts) conditions)
    (condition : String) (opens : Condition start condition)
    (enters : Enters state condition added after) :
    ∃ reached fresh, Block.evaluate added evaluated = some reached ∧ added.length = 1 ∧
      Opened start rows after reached (fresh :: context :: contexts) (condition :: conditions) := by
  have current : state.scope.current = context := (List.cons.inj opened.scope).1
  obtain ⟨contextLive, contextKeyed, contextInner⟩ := opened.keyed context List.mem_cons_self
  cases enters with
  | outer outermost =>
    rw [Scope.isDefault, current] at outermost
    exact absurd (of_decide_eq_true outermost) contextInner
  | inner fresh names _ absent away keyed =>
    rw [current]
    obtain ⟨joined, evaluates, member⟩ := mem_joinInto evaluated "join" fresh context condition
      state.listing.depth contextKeyed opens.ne_edge
    have elsewhere : ∀ table ∈ state.tables.live,
        Function.update evaluated fresh joined table = evaluated table := by
      intro table old
      refine Function.update_of_ne ?_ _ _
      rintro rfl
      exact absent old
    refine ⟨Function.update evaluated fresh joined, fresh, ?_, rfl, ?_, ?_, ?_, ?_, ?_⟩
    · rw [Block.evaluate, List.foldlM_cons, evaluates]
      rfl
    · exact congrArg (fresh :: ·) opened.scope
    · refine .inside fresh condition ?_ (opened.stacked.congr fun table member =>
        elsewhere table (opened.keyed table member).1)
      obtain ⟨some, denotes⟩ := opened.stacked.top
      rw [List.reverse_cons, denotes_snoc_iff]
      intro id value
      rw [Function.update_self, member, opened.kept condition opens.live,
        denotes.exists_row_iff (mt List.reverse_eq_nil_iff.mp some)]
    · intro table member
      rcases List.mem_cons.mp member with rfl | old
      · exact ⟨(mem_addNew _ _ _).mpr (.inr rfl), keyed, away⟩
      · obtain ⟨live, keyed⟩ := opened.keyed table old
        exact ⟨(mem_addNew _ _ _).mpr (.inl live), keyed⟩
    · intro table old
      exact (mem_addNew _ _ _).mpr (.inl (opened.live table old))
    · intro table old
      rw [elsewhere table (opened.live table old), opened.kept table old]

/-- One join for each further condition, and the invariant holds behind all of them. -/
theorem Opened.enters {start state after : PlanState} {rows evaluated : Database Id Value}
    {context : String} {contexts conditions : List String} {added : List Block}
    (opened : Opened start rows state evaluated (context :: contexts) conditions)
    (others : List String) (opens : ∀ condition ∈ others, Condition start condition)
    (run : EntersAll state others added after) :
    ∃ reached inner, Block.evaluate added evaluated = some reached ∧ added.length = others.length ∧
      Opened start rows after reached inner (others.reverse ++ conditions) := by
  induction others generalizing state evaluated context contexts conditions added with
  | nil =>
    cases run
    exact ⟨evaluated, _, rfl, rfl, opened⟩
  | cons condition others ih =>
    cases run with
    | step now later =>
      obtain ⟨between, fresh, first, one, deeper⟩ :=
        opened.enter condition (opens _ List.mem_cons_self) now
      obtain ⟨reached, inner, second, rest, inside⟩ :=
        ih deeper (fun other member => opens other (List.mem_cons_of_mem _ member)) later
      refine ⟨reached, inner, ?_, ?_, ?_⟩
      · rw [Block.evaluate, List.foldlM_append, ← Block.evaluate, first]
        exact second
      · rw [List.length_append, one, rest, List.length_cons, Nat.add_comm]
      · rwa [List.reverse_cons, List.append_assoc]

/-- All the `if`s together, from the outermost on. -/
theorem EntersAll.opened {start after : PlanState} {conditions : List String} {added : List Block}
    (run : EntersAll start conditions added after) (top : start.scope.isDefault = true)
    (nonempty : conditions ≠ []) (opens : ∀ condition ∈ conditions, Condition start condition)
    (rows : Database Id Value) :
    added.length + 1 = conditions.length ∧ ∃ evaluated contexts,
      Block.evaluate added rows = some evaluated ∧
      Opened start rows after evaluated contexts conditions.reverse := by
  cases conditions with
  | nil => exact absurd rfl nonempty
  | cons outermost others =>
    cases run with
    | step now later =>
      obtain ⟨rfl, opened⟩ := now.opened top (opens _ List.mem_cons_self) rows
      obtain ⟨evaluated, contexts, evaluates, counted, inner⟩ :=
        opened.enters others (fun other member => opens other (List.mem_cons_of_mem _ member)) later
      rw [← List.reverse_cons] at inner
      exact ⟨congrArg (· + 1) counted, evaluated, contexts, evaluates, inner⟩

/-- The step opens `if`s with the given conditions. With the joins that it adds evaluated in order the
context holds the rows of the last condition whose ids occur in every condition, and no table that was
there before has changed. Closing the innermost of them leads back to what the remaining conditions
denote, and in the end to the scope that it began with. -/
def OpensIntersection (Id Value : Type) [DecidableEq Id] [DecidableEq Value] (enter : Planner Unit)
    (state : PlanState) (conditions : List String) : Prop :=
  ∃ inside added, enter.run state = .ok () inside ∧
    inside.listing.blocks = state.listing.blocks ++ added ∧
    added.length + 1 = conditions.length ∧
    ∀ rows : Database Id Value, ∃ evaluated, Block.evaluate added rows = some evaluated ∧
      (∀ table ∈ state.tables.live, evaluated table = rows table) ∧
      Denotes rows evaluated inside.scope.current conditions ∧
      ∀ closed ≤ conditions.length, ∃ outside,
        (statements (List.replicate closed .endIf)).run inside = .ok () outside ∧
        outside.listing = inside.listing ∧
        (closed < conditions.length → Denotes rows evaluated outside.scope.current
          (conditions.take (conditions.length - closed))) ∧
        (closed = conditions.length → outside.scope = state.scope)

/-- The meaning of nested `if`s, for one source of names. -/
theorem enterScopes_opens {fresh : Planner String} (new : GivesNew fresh)
    (spares : SparesNames fresh) (state : PlanState) (conditions : List String)
    (top : state.scope.isDefault = true) (nonempty : conditions ≠ [])
    (opens : ∀ condition ∈ conditions, Condition state condition) :
    OpensIntersection Id Value (enterScopes fresh conditions) state conditions := by
  obtain ⟨added, inside, entered, run⟩ := exists_enters new spares state conditions opens
  refine ⟨inside, added, entered, ?_, ?_⟩
  · rw [run.listing]
  have opened := fun rows : Database Id Value => run.opened top nonempty opens rows
  refine ⟨(opened fun _ => ∅).1, fun rows => ?_⟩
  obtain ⟨-, evaluated, contexts, evaluates, inner⟩ := opened rows
  have remaining : ∀ closed, (conditions.reverse.drop closed).reverse =
      conditions.take (conditions.length - closed) := by
    intro closed
    rw [List.drop_reverse, List.reverse_reverse]
  have closes := fun closed (bound : closed ≤ conditions.length) =>
    inner.leaves closed (by rwa [List.length_reverse])
  simp only [remaining, List.length_reverse] at closes
  refine ⟨evaluated, evaluates, inner.kept, ?_, closes⟩
  obtain ⟨same, unchanged, -, denotes, -⟩ := closes 0 (Nat.zero_le _)
  cases unchanged
  rw [Nat.sub_zero, List.take_length] at denotes
  exact denotes (List.length_pos_iff.mpr nonempty)

/-- Opening `if`s one after the other at the top succeeds and means intersection, whatever source the
names of the joins come from, as long as they are new and neither the outermost context nor the edges.
The statements of a program have their names from such a source. -/
theorem nested_if_denotes_intersection (state : PlanState) (conditions : List String)
    (top : state.scope.isDefault = true) (nonempty : conditions ≠ [])
    (opens : ∀ condition ∈ conditions, Condition state condition) :
    (∀ fresh, GivesNew fresh → SparesNames fresh →
      OpensIntersection Id Value (enterScopes fresh conditions) state conditions) ∧
    OpensIntersection Id Value (statements (conditions.map .beginIf)) state conditions := by
  refine ⟨fun fresh new spares => enterScopes_opens new spares state conditions top nonempty opens, ?_⟩
  rw [← enterScopes_freshName]
  exact enterScopes_opens freshName_givesNew freshName_sparesNames state conditions top nonempty
    opens

/-- `if (a) { if (b) { if (a) {`, and then one of them closed again. -/
theorem nested_if_denotes_intersection_thrice :
    let state : PlanState := { tables := ⟨["next", "cur", "a", "b"]⟩ }
    let rows : Database Nat Nat := fun table =>
      if table = "a" then {(1, 10), (2, 20)} else if table = "b" then {(2, 5), (3, 7)} else ∅
    ∃ inside outside, ∃ evaluated : Database Nat Nat,
      (statements [.beginIf "a", .beginIf "b", .beginIf "a"]).run state = .ok () inside ∧
      (statements [.endIf]).run inside = .ok () outside ∧
      evaluated inside.scope.current = {(2, 20)} ∧ evaluated outside.scope.current = {(2, 5)} ∧
      evaluated "a" = rows "a" := by
  intro state rows
  have opens : ∀ condition ∈ ["a", "b", "a"], Condition state condition := by
    intro condition member
    rcases List.mem_cons.mp member with rfl | member
    · exact ⟨by decide, by decide, by decide⟩
    rcases List.mem_cons.mp member with rfl | member
    · exact ⟨by decide, by decide, by decide⟩
    rw [List.mem_singleton.mp member]
    exact ⟨by decide, by decide, by decide⟩
  obtain ⟨inside, added, entered, -, -, meaning⟩ :=
    (@nested_if_denotes_intersection Nat Nat _ _ state ["a", "b", "a"] rfl (List.cons_ne_nil _ _)
      opens).2
  obtain ⟨evaluated, -, kept, denotes, closes⟩ := meaning rows
  obtain ⟨outside, left, -, outer, -⟩ := closes 1 (by decide)
  refine ⟨inside, outside, evaluated, entered, left, ?_, ?_, kept "a" (by decide)⟩
  · ext ⟨id, value⟩
    rw [denotes id value]
    simp [rows, exists_or]
    omega
  · ext ⟨id, value⟩
    rw [outer (by decide) id value]
    simp [rows, exists_or]
    omega

end Evaluation

end Planner

end Superstep
