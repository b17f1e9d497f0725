import Mathlib.Data.List.Nodup
import Superstep.Proofs.Cleanup
import Superstep.Proofs.Planner.Contexts
import Superstep.Proofs.Planner.Liveness

/-!
# Tables that are named twice

A select lists its tables, and only an assignment takes care in every case that the list has no table
twice. A send puts the edges behind the tables of its content without a look at them, and an inner
`if` joins its context with a condition that may be the same table. An update runs on its context even
if that is the table of vertex values itself. So a plan names a table twice exactly if its program has
a statement of one of these forms.
-/

namespace Superstep

/-- No select of the block has a table twice, and an update of the vertex values is run on another
table. -/
def Action.NamesOnce : Action → Prop
  | .select query => query.sources.Nodup
  | .union pair => pair.left.select.sources.Nodup ∧ pair.right.select.sources.Nodup
  | .updateVertex context _ => context ≠ Table.values
  | .statement _ | .createTable _ _ | .dropTable _ | .insert _ _ | .beginLoop _ _
  | .endLoop _ _ => True

instance : DecidablePred Action.NamesOnce
  | .select query => inferInstanceAs (Decidable query.sources.Nodup)
  | .union pair => inferInstanceAs
      (Decidable (pair.left.select.sources.Nodup ∧ pair.right.select.sources.Nodup))
  | .updateVertex context _ => inferInstanceAs (Decidable (context ≠ Table.values))
  | .statement _ | .createTable _ _ | .dropTable _ | .insert _ _ | .beginLoop _ _ | .endLoop _ _ =>
    inferInstanceAs (Decidable True)

/-- The statement names a table twice: the condition of an inner `if` is its context, an update is
run on the vertex values, or the content of a send that produces messages reads rows of the edges. -/
def Occurrence.repeats : Occurrence → Bool
  | ⟨context, .beginIf condition⟩ => context ≠ Table.combined && context = condition
  | ⟨context, .setValue _⟩ => context = Table.values
  | ⟨context, .send direction content⟩ =>
    (Direction.read direction).toOption.any (· ≠ .none) &&
      (Expression.scan (Expression.fillPlaceholders content context)).toOption.any
        (Table.edge ∈ ·.referencedTables)
  | ⟨_, .endIf⟩ | ⟨_, .assign _ _⟩ => false

theorem addNew_nodup_iff (items : List String) (item : String) :
    (addNew items item).Nodup ↔ items.Nodup := by
  refine ⟨?_, addNew_nodup items item⟩
  unfold addNew
  split
  · exact id
  · exact fun unique => unique.of_append_left

theorem foldl_addNew_nodup (items new : List String) (unique : items.Nodup) :
    (new.foldl addNew items).Nodup := by
  induction new generalizing items with
  | nil => exact unique
  | cons first others ih => exact ih _ (addNew_nodup items first unique)

theorem Scanned.referencedTables_nodup (scanned : Scanned) : scanned.referencedTables.Nodup :=
  foldl_addNew_nodup [] _ List.nodup_nil

namespace Planner

theorem Sending.addCounts_nodup_iff (sending : Sending) (counts : String) :
    (sending.addCounts counts).sources.Nodup ↔ sending.sources.Nodup := by
  unfold addCounts
  split
  · exact addNew_nodup_iff _ _
  · rfl

/-- The context and the degree tables are added with care, the edges are not. -/
theorem Sending.plan_nodup_iff (context content : String) (scanned : Scanned)
    (keyed : context ≠ Table.edge) :
    (Sending.plan context content scanned.referencedTables).sources.Nodup ↔
      Table.edge ∉ scanned.referencedTables := by
  have tables := addNew_nodup _ context scanned.referencedTables_nodup
  rw [Sending.plan, addCounts_nodup_iff, addCounts_nodup_iff, List.nodup_append]
  constructor
  · rintro ⟨_, _, apart⟩ read
    exact apart _ ((mem_addNew _ _ _).mpr (.inl read)) _ List.mem_cons_self rfl
  · intro absent
    refine ⟨tables, List.nodup_singleton _, ?_⟩
    rintro table member _ edge rfl
    rw [List.mem_singleton.mp edge] at member
    rcases (mem_addNew _ _ _).mp member with read | same
    · exact absent read
    · exact keyed same.symm

/-- All selects of a send have the same sources, so one of them tells for the union. -/
theorem Sending.action?_namesOnce_iff (sending : Sending) (listing : Listing) (way : Direction)
    (action : Action) (acts : sending.action? listing way = some action) :
    action.NamesOnce ↔ sending.sources.Nodup := by
  cases way with
  | none => cases acts
  | incoming | outgoing =>
    cases acts
    rfl
  | both =>
    cases acts
    exact and_self_iff

theorem Sending.exists_action (sending : Sending) (listing : Listing) (way : Direction)
    (sends : way ≠ .none) : ∃ action, sending.action? listing way = some action := by
  cases way with
  | none => exact absurd rfl sends
  | incoming | outgoing | both => exact ⟨_, rfl⟩

/-- In a context other than the edges, a send repeats a table exactly if it goes anywhere and its
content reads the edges. -/
theorem sendBlock_namesOnce_iff (state : PlanState) (way : Direction) (content : String)
    (scanned : Scanned) (keyed : state.scope.current ≠ Table.edge) :
    (∀ block ∈ (sendBlock? state way content scanned).toList, block.action.NamesOnce) ↔
      way = .none ∨ Table.edge ∉ scanned.referencedTables := by
  by_cases silent : way = .none
  · subst silent
    simp [sendBlock?, Sending.action?]
  · obtain ⟨action, acts⟩ := Sending.exists_action
      (Sending.plan state.scope.current content scanned.referencedTables) state.listing way silent
    have single : (sendBlock? state way content scanned).toList =
        [⟨"sendMsg", state.listing.depth, action⟩] := by
      rw [sendBlock?, acts]
      rfl
    rw [single, List.forall_mem_singleton, Sending.action?_namesOnce_iff _ _ _ _ acts,
      Sending.plan_nodup_iff _ _ _ keyed, or_iff_right silent]

/-- A statement in a context that is not the edges names no table twice exactly if it is none of the
three forms. -/
theorem Step.namesOnce_iff {state after : PlanState} {planned : Statement} {added : List Block}
    (step : Step state planned added after) (keyed : state.scope.current ≠ Table.edge) :
    (∀ block ∈ added, block.action.NamesOnce) ↔
      (⟨state.scope.current, planned⟩ : Occurrence).repeats = false := by
  cases step with
  | close => simp [Occurrence.repeats]
  | openOuter condition notGraph live outer =>
    have default : state.scope.current = Table.combined := of_decide_eq_true outer
    simp [Occurrence.repeats, default]
  | openInner condition notGraph live inner =>
    have deeper : state.scope.current ≠ Table.combined := of_decide_eq_false inner
    simp [Occurrence.repeats, deeper, Action.NamesOnce, intersection]
  | setValue => simp [Occurrence.repeats, Action.NamesOnce]
  | assign target expression scanned =>
    simp [Occurrence.repeats, Action.NamesOnce, selection,
      addNew_nodup _ _ scanned.referencedTables_nodup]
  | send direction content way scanned names reads =>
    have repeats : (⟨state.scope.current, .send direction content⟩ : Occurrence).repeats =
        (decide (way ≠ .none) && decide (Table.edge ∈ scanned.referencedTables)) := by
      rw [Occurrence.repeats, names, reads.scans]
      rfl
    rw [repeats, sendBlock_namesOnce_iff state way _ scanned keyed, Bool.and_eq_false_iff,
      decide_eq_false_iff_not, decide_eq_false_iff_not, not_not]

/-- No scope is ever in the edges, since they are not in the working set. -/
theorem Steps.namesOnce_iff {start : List String} {state after : PlanState}
    {planned : List Statement} {added : List Block} (run : Steps state planned added after)
    (sound : Sound start state) (absent : Table.edge ∉ start) :
    (∀ block ∈ added, block.action.NamesOnce) ↔
      ∀ occurrence ∈ (nestingOf state).occurrences planned, occurrence.repeats = false := by
  induction run with
  | done => simp [Nesting.occurrences]
  | @step state between after first others added more now _ ih =>
    have keyed : state.scope.current ≠ Table.edge := by
      intro same
      have live := sound.contexts _ List.mem_cons_self
      rw [same] at live
      exact absent ((sound.reserved Table.edge (by decide) (by decide)).mp live)
    rw [List.forall_mem_append, now.namesOnce_iff keyed, ih (now.sound sound), Nesting.occurrences,
      List.forall_mem_cons, now.nesting]
    rfl

namespace Derivation

variable {options : List (String × String)} {stem : String} {plan : Plan}
  (derived : Derivation options stem plan)

theorem edge_not_mem_startLive : Table.edge ∉ derived.startLive := by
  rw [derived.mem_startLive]
  rintro (values | degree | combined)
  · exact absurd values (by decide)
  · exact absurd (degreeTables_protected _ _ degree) (by decide)
  · exact absurd combined (by decide)

theorem initBlocks_namesOnce (algorithm : Algorithm) (message : FirstMessage) :
    ∀ block ∈ initBlocks algorithm message, block.action.NamesOnce :=
  forall_mem_initBlocks (by simp [firstBlocks, Action.NamesOnce]) trivial
    fun _ => List.nodup_singleton _

/-- The statements of the program decide; the blocks around them never repeat a table. -/
theorem namesOnce_iff :
    (∀ block ∈ plan.blocks, block.action.NamesOnce) ↔
      ∀ occurrence ∈ derived.occurrences, occurrence.repeats = false := by
  have program := derived.run.namesOnce_iff derived.entry_sound derived.edge_not_mem_startLive
  have drops : ∀ block ∈ derived.ended.tables.transient.map dropBlock, block.action.NamesOnce := by
    rw [List.forall_mem_map]
    exact fun _ _ => trivial
  have combines : (combineBlock derived.aggregate).action.NamesOnce ∧
      (dropBlock Table.message).action.NamesOnce := ⟨List.nodup_singleton _, trivial⟩
  rw [derived.blocks_eq, derived.body_eq]
  simp only [List.forall_mem_append, List.forall_mem_cons, List.not_mem_nil, false_implies,
    implies_true, and_true]
  constructor
  · rintro ⟨_, _, ⟨_, inside, _⟩, _⟩
    exact program.mp inside
  · intro distinct
    exact ⟨initBlocks_namesOnce _ _, trivial, ⟨combines, program.mpr distinct, drops⟩, trivial⟩

end Derivation

/-- A plan names no table twice in a select, and runs no update of the vertex values on themselves,
exactly if none of its statements is of one of the three forms in the context that it has. -/
theorem names_once_exactly (options : List (String × String)) (stem : String) (plan : Plan)
    (success : Plan.ofOptions options stem = .ok plan) :
    ∃ derived : Derivation options stem plan,
      Program.ofOptions options = .ok derived.statements ∧
      InForce derived.start derived.occurrences ∧
      ((∀ block ∈ plan.blocks, block.action.NamesOnce) ↔
        ∀ occurrence ∈ derived.occurrences, occurrence.repeats = false) := by
  obtain ⟨derived⟩ := (ofOptions_ok_iff options stem plan).mp success
  exact ⟨derived, derived.program_eq, derived.occurrences_inForce, derived.namesOnce_iff⟩

/-- Two conditions, an update, and messages both ways that read the ends of the edges. -/
def twoConditions : List (String × String) :=
  sampleOptions
    "a = getVal() > 0\nif (a) \x7b\nif (cur) \x7b\nsetVal(1)\nsend(all, edge.src)\n\x7d\n\x7d"

theorem names_once_exactly_twoConditions :
    ∃ plan, Plan.ofOptions twoConditions "scope_" = .ok plan ∧
      ∀ block ∈ plan.blocks, block.action.NamesOnce := by
  have planned : (Plan.ofOptions twoConditions "scope_").toOption.isSome = true := by
    decide +kernel
  have read : Program.ofOptions twoConditions = .ok [.assign "a" "getVal() > 0", .beginIf "a",
      .beginIf "cur", .setValue "1", .send "all" "edge.src", .endIf, .endIf] := by decide +kernel
  have counted : (Algorithm.ofOptions twoConditions).toOption.map degreeTables = some [] := by
    decide +kernel
  obtain ⟨plan, found⟩ := Option.isSome_iff_exists.mp planned
  have success := ok_of_toOption _ _ found
  obtain ⟨derived, program, _, distinct⟩ := names_once_exactly twoConditions "scope_" plan success
  rw [derived.describes] at counted
  have none : degreeTables derived.described = [] := Option.some.inj counted
  refine ⟨plan, success, distinct.mpr ?_⟩
  have statements := Except.ok.inj (program.symm.trans read)
  have places : derived.occurrences = [⟨"cur", .assign "a" "getVal() > 0"⟩, ⟨"cur", .beginIf "a"⟩,
      ⟨"a", .beginIf "cur"⟩, ⟨"scope_0", .setValue "1"⟩, ⟨"scope_0", .send "all" "edge.src"⟩,
      ⟨"scope_0", .endIf⟩, ⟨"a", .endIf⟩] := by
    rw [Derivation.occurrences, statements, Nesting.start, none]
    decide +kernel
  rw [places]
  decide +kernel

/-- An update that is run on the vertex values. -/
def updateOnValues : List (String × String) :=
  sampleOptions "if (next) \x7b\nsetVal(getAggregationVal())\n\x7d\nsend(out, getVal())"

/-- A condition inside of the scope that it opens. -/
def conditionTwice : List (String × String) :=
  sampleOptions "s = getVal() > 0\nif (s) \x7b\nif (s) \x7b\nsend(out, getVal())\n\x7d\n\x7d"

/-- Messages that read the edges as if they had a value. -/
def valueOfEdges : List (String × String) := sampleOptions "send(out, edge.val)"

theorem exists_repeats (options : List (String × String))
    (planned : (Plan.ofOptions options "scope_").toOption.map (fun plan =>
      decide (∀ block ∈ plan.blocks, block.action.NamesOnce)) = some false) :
    ∃ plan, Plan.ofOptions options "scope_" = .ok plan ∧
      ¬ ∀ block ∈ plan.blocks, block.action.NamesOnce := by
  obtain ⟨plan, found, repeats⟩ := Option.map_eq_some_iff.mp planned
  exact ⟨plan, ok_of_toOption _ _ found, of_decide_eq_false repeats⟩

theorem not_names_once :
    (∃ plan, Plan.ofOptions updateOnValues "scope_" = .ok plan ∧
      ¬ ∀ block ∈ plan.blocks, block.action.NamesOnce) ∧
    (∃ plan, Plan.ofOptions conditionTwice "scope_" = .ok plan ∧
      ¬ ∀ block ∈ plan.blocks, block.action.NamesOnce) ∧
    ∃ plan, Plan.ofOptions valueOfEdges "scope_" = .ok plan ∧
      ¬ ∀ block ∈ plan.blocks, block.action.NamesOnce :=
  ⟨exists_repeats _ (by decide +kernel), exists_repeats _ (by decide +kernel),
    exists_repeats _ (by decide +kernel)⟩

end Planner

end Superstep
