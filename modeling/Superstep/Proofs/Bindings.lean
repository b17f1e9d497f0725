import Superstep.Proofs.Planner.Contexts
import Superstep.Proofs.References
import Superstep.Proofs.Token.Renaming

/-!
# What updates and the combination of messages read

An update changes the vertex values and is run on its context, and the messages are combined from the
message table alone. No other table is at hand there. Planning does not see to it: it only asks that
the tables in a new value exist, and it does not look at the tables in the combination at all. So a
plan keeps to the tables at hand exactly if its program and its combination do.
-/

namespace Superstep

def Action.update? : Action → Option (String × String)
  | .updateVertex context value => some (context, value)
  | _ => none

theorem Action.update?_eq_some (action : Action) (context value : String)
    (updates : action.update? = some (context, value)) : action = .updateVertex context value := by
  cases action with
  | updateVertex other given =>
    obtain ⟨rfl, rfl⟩ := Prod.mk.inj (Option.some.inj updates)
    rfl
  | _ => cases updates

/-- The context and the new value of a statement that changes the value. -/
def Occurrence.update? : Occurrence → Option (String × String)
  | ⟨context, .setValue value⟩ => some (context, Expression.fillPlaceholders value context)
  | _ => none

theorem Occurrence.update?_eq_some (occurrence : Occurrence) (context value : String)
    (updates : occurrence.update? = some (context, value)) :
    ∃ given, occurrence = ⟨context, .setValue given⟩ ∧
      value = Expression.fillPlaceholders given context := by
  obtain ⟨other, statement⟩ := occurrence
  cases statement with
  | setValue given =>
    obtain ⟨rfl, rfl⟩ := Prod.mk.inj (Option.some.inj updates)
    exact ⟨given, rfl, rfl⟩
  | _ => cases updates

namespace Expression

variable {tables : List String}

theorem binds_of_munch {text : String} {tokens : List Token} (munch : Munch text.toList tokens)
    (binds : Binds tables text) :
    ∀ token ∈ tokens, ∀ table, token.valueTable? = some table → table ∈ tables := by
  obtain ⟨scanned, scans, bound⟩ := binds
  obtain ⟨again, rescans, rfl⟩ := (scan_tokens_iff _ _).mpr munch
  obtain rfl := Except.ok.inj (scans.symm.trans rescans)
  exact bound

theorem binds_iff_referenced {text : String} {scanned : Scanned} (scans : scan text = .ok scanned) :
    Binds tables text ↔ scanned.referencedTables ⊆ tables := by
  constructor
  · intro binds table member
    obtain ⟨token, inside, refers⟩ := (scanned.mem_referencedTables table).mp member
    have munch := (scan_tokens_iff _ _).mp ⟨scanned, scans, rfl⟩
    exact binds_of_munch munch binds token inside table refers
  · exact Binds.of_scan scans

/-- A label refers to nothing. -/
theorem binds_label_iff {value : String} {scanned : Scanned} (scans : scan value = .ok scanned)
    (label : String) (isLabel : isIdentifier label = true) :
    Binds tables (value ++ " AS " ++ label) ↔ Binds tables value := by
  constructor
  · intro binds
    have munch := (scan_tokens_iff _ _).mp ⟨scanned, scans, rfl⟩
    have isWord : isIdentifier "AS" = true := by decide
    have labelled := (munch.append (.alone (.ident "AS") isWord)).append
      (.alone (.ident label) isLabel)
    have whole : Munch (value ++ " AS " ++ label).toList
        (scanned.tokens ++ [.ident "AS"] ++ [.ident label]) := by
      simpa [Token.text] using labelled
    refine ⟨scanned, scans, ?_⟩
    intro token member
    have behind : token ∈ scanned.tokens ++ [.ident "AS"] ++ [.ident label] :=
      List.mem_append_left _ (List.mem_append_left _ member)
    exact binds_of_munch whole binds token behind
  · intro binds
    exact binds.label label isLabel

end Expression

/-- With a bare name qualified, an expression refers to the table of that name besides those that it
refers to anyway. -/
theorem Scanned.referenced_qualify (scanned : Scanned) (name : String) :
    (scanned.mapTokens (Token.qualify name "val")).referencedTables ⊆ [name] ↔
      scanned.referencedTables ⊆ [name] := by
  have qualified : ∀ token : Token, (∀ table, (token.qualify name "val").valueTable? = some table →
      table ∈ [name]) ↔ ∀ table, token.valueTable? = some table → table ∈ [name] := by
    intro token
    cases token with
    | ident other =>
      rw [Token.qualify]
      split
      · rename_i same
        simp [Token.valueTable?, same]
      · rfl
    | _ => rfl
  have read : ∀ other : Scanned, other.referencedTables ⊆ [name] ↔ ∀ token ∈ other.tokens,
      ∀ table, token.valueTable? = some table → table ∈ [name] := by
    intro other
    constructor
    · intro subset token inside table refers
      exact subset ((other.mem_referencedTables table).mpr ⟨token, inside, refers⟩)
    · intro bound table member
      obtain ⟨token, inside, refers⟩ := (other.mem_referencedTables table).mp member
      exact bound token inside table refers
  rw [read, read, Scanned.tokens_mapTokens, List.forall_mem_map]
  exact forall₂_congr fun token _ => qualified token

namespace Planner

open Expression

/-- Every update refers to the vertex values and its context only, and the combination of messages to
the messages only. -/
structure Confined (plan : Plan) : Prop where
  updates : ∀ block ∈ plan.blocks, ∀ context value,
    block.action = .updateVertex context value → Binds [Table.values, context] value
  combination : ∀ block ∈ plan.blocks, ∀ query, block.action = .select query →
    query.target = some Table.combined →
    query.sources = [Table.message] ∧ ∀ column ∈ query.columns, Binds [Table.message] column

theorem Step.updates {state after : PlanState} {planned : Statement} {added : List Block}
    (step : Step state planned added after) :
    added.filterMap (·.action.update?) =
      [(⟨state.scope.current, planned⟩ : Occurrence)].filterMap (·.update?) := by
  cases step with
  | send direction content way scanned => cases way <;> rfl
  | openOuter | openInner | close | setValue | assign => rfl

/-- The updates are those of the statements, in order. -/
theorem Steps.updates {state after : PlanState} {planned : List Statement} {added : List Block}
    (run : Steps state planned added after) :
    added.filterMap (·.action.update?) =
      ((nestingOf state).occurrences planned).filterMap (·.update?) := by
  induction run with
  | done => rfl
  | step now _ ih =>
    rw [List.filterMap_append, now.updates, ih, now.nesting, Nesting.occurrences,
      ← List.filterMap_append, List.singleton_append]
    rfl

/-- The blocks of statements store no combined messages. -/
theorem Steps.produced_ne_combined {state after : PlanState} {planned : List Statement}
    {added : List Block} (run : Steps state planned added after) :
    ∀ block ∈ added, block.action.produced? ≠ some Table.combined := by
  induction run with
  | done => simp
  | step now _ ih =>
    intro block member creates
    rcases List.mem_append.mp member with here | behind
    · rcases now.created_new block here _ creates with message | ⟨free, _⟩
      · exact absurd message (by decide)
      · exact absurd free (by decide)
    · exact ih block behind creates

namespace Derivation

variable {options : List (String × String)} {stem : String} {plan : Plan}
  (derived : Derivation options stem plan)

theorem initBlocks_updates (algorithm : Algorithm) (message : FirstMessage) :
    (initBlocks algorithm message).filterMap (·.action.update?) = [] :=
  List.filterMap_eq_nil_iff.mpr
    (forall_mem_initBlocks (by simp [firstBlocks, Action.update?]) rfl fun _ => rfl)

/-- The updates of a plan are those that its statements ask for, in their order. -/
theorem updates_eq :
    plan.blocks.filterMap (·.action.update?) = derived.occurrences.filterMap (·.update?) := by
  have front : [combineBlock derived.aggregate, dropBlock Table.message].filterMap
      (·.action.update?) = [] := rfl
  have drops : (derived.ended.tables.transient.map dropBlock).filterMap (·.action.update?) = [] := by
    rw [List.filterMap_eq_nil_iff, List.forall_mem_map]
    exact fun _ _ => rfl
  have back : [loopClose derived.loopEnd].filterMap (·.action.update?) = [] := rfl
  rw [derived.blocks_eq, derived.body_eq, List.filterMap_append, initBlocks_updates,
    List.nil_append, List.filterMap_cons_none rfl, List.filterMap_append, List.filterMap_append,
    List.filterMap_append, front, drops, back, derived.run.updates, List.append_nil,
    List.append_nil, List.nil_append]
  rfl

/-- Only one block stores the combined messages. -/
theorem combination_unique (block : Block) (member : block ∈ plan.blocks)
    (combines : block.action.produced? = some Table.combined) :
    block = combineBlock derived.aggregate := by
  have before : ∀ other ∈ initBlocks derived.described derived.message,
      other.action.produced? ≠ some Table.combined := by
    refine forall_mem_initBlocks ?_ (by decide) ?_
    · simp +decide [firstBlocks, Action.produced?]
    · intro incoming
      cases incoming <;> decide
  rw [derived.blocks_eq, derived.body_eq] at member
  simp only [List.mem_append, List.mem_cons, List.not_mem_nil, or_false, List.mem_map] at member
  rcases member with early | rfl | ((rfl | rfl) | inside | ⟨table, _, rfl⟩) | rfl
  · exact absurd combines (before block early)
  · cases combines
  · rfl
  · cases combines
  · exact absurd combines (derived.run.produced_ne_combined block inside)
  · cases combines
  · cases combines

theorem combination_mem : combineBlock derived.aggregate ∈ plan.blocks := by
  rw [derived.blocks_eq]
  exact List.mem_append_right _ (List.mem_cons_of_mem _ List.mem_cons_self)

/-- The combined value is bound by the messages alone exactly if the expression reads no other
table. -/
theorem combination_bound_iff :
    (∀ column ∈ [Table.message ++ ".id AS id",
        derived.aggregate.qualify Table.message "val" ++ " AS val"],
      Binds [Table.message] column) ↔ derived.aggregate.referencedTables ⊆ [Table.message] := by
  have id : Binds [Table.message] (Table.message ++ ".id AS id") :=
    (binds_field Table.message "id" (by decide) (by decide) fun _ => List.mem_cons_self).label "id"
      (by decide)
  have scans := scan_qualify derived.combines Table.message "val" (by decide)
  have value : Binds [Table.message] (derived.aggregate.qualify Table.message "val" ++ " AS val") ↔
      Binds [Table.message] (derived.aggregate.qualify Table.message "val") := by
    have parted : " AS val" = " AS " ++ "val" := rfl
    rw [parted, ← String.append_assoc]
    exact binds_label_iff scans "val" (by decide)
  rw [← derived.aggregate.referenced_qualify, ← binds_iff_referenced scans, ← value]
  simp [id]

/-- A new value refers to tables that can be read where it is planned. -/
theorem update_readable (before later : List Occurrence) (context value : String)
    (split : derived.occurrences = before ++ ⟨context, .setValue value⟩ :: later) :
    ∃ state scanned, (Planner.statements (before.map (·.statement))).run derived.start = .ok () state ∧
      Expression.scan (fillPlaceholders value context) = .ok scanned ∧
      ∀ table ∈ scanned.referencedTables, state.tables.isReadable table = true := by
  obtain ⟨between, _, early, _, _, front, rfl, step, _⟩ :=
    derived.run.at_occurrence before later _ split
  cases step with
  | setValue _ scanned reads =>
    exact ⟨between, scanned, (statements_ok_iff _ _ _ _).mpr ⟨early, front⟩, reads.scans, reads.live⟩

/-- What every plan is confined to, told from the expressions of the program. -/
theorem confined_iff :
    Confined plan ↔
      (∀ context value, ⟨context, .setValue value⟩ ∈ derived.occurrences →
        Binds [Table.values, context] (fillPlaceholders value context)) ∧
      derived.aggregate.referencedTables ⊆ [Table.message] := by
  constructor
  · intro confined
    refine ⟨?_, ?_⟩
    · intro context value member
      have update : (context, fillPlaceholders value context) ∈
          plan.blocks.filterMap (·.action.update?) := by
        rw [derived.updates_eq]
        exact List.mem_filterMap.mpr ⟨_, member, rfl⟩
      obtain ⟨block, inside, updates⟩ := List.mem_filterMap.mp update
      exact confined.updates block inside _ _ (Action.update?_eq_some _ _ _ updates)
    · have combination := confined.combination _ derived.combination_mem _ rfl rfl
      exact derived.combination_bound_iff.mp combination.2
  · rintro ⟨values, combination⟩
    refine ⟨?_, ?_⟩
    · intro block member context value acts
      have update : (context, value) ∈ derived.occurrences.filterMap (·.update?) := by
        rw [← derived.updates_eq]
        refine List.mem_filterMap.mpr ⟨block, member, ?_⟩
        rw [acts]
        rfl
      obtain ⟨occurrence, inside, updates⟩ := List.mem_filterMap.mp update
      obtain ⟨given, rfl, rfl⟩ := Occurrence.update?_eq_some _ _ _ updates
      exact values context given inside
    · intro block member query acts combines
      have produced : block.action.produced? = some Table.combined := by
        rw [acts]
        exact combines
      obtain rfl := derived.combination_unique block member produced
      cases acts
      exact ⟨rfl, derived.combination_bound_iff.mpr combination⟩

end Derivation

/-- A plan keeps to the tables at hand exactly if the new values and the combination in its options
do. Its updates are those of the statements, each in its context, and of a new value it is only known
that its tables can be read. -/
theorem confined_exactly (options : List (String × String)) (stem : String) (plan : Plan)
    (success : Plan.ofOptions options stem = .ok plan) :
    ∃ (derived : Derivation options stem plan) (combine : String) (aggregate : Scanned),
      Program.ofOptions options = .ok derived.statements ∧
      InForce derived.start derived.occurrences ∧
      options.lookup "CombineMessage" = some combine ∧
      Expression.scan combine = .ok aggregate ∧
      plan.blocks.filterMap (·.action.update?) = derived.occurrences.filterMap (·.update?) ∧
      (∀ before later context value,
        derived.occurrences = before ++ ⟨context, .setValue value⟩ :: later →
        ∃ state scanned, (statements (before.map (·.statement))).run derived.start = .ok () state ∧
          Expression.scan (fillPlaceholders value context) = .ok scanned ∧
          ∀ table ∈ scanned.referencedTables, state.tables.isReadable table = true) ∧
      (Confined plan ↔
        (∀ context value, ⟨context, .setValue value⟩ ∈ derived.occurrences →
          Binds [Table.values, context] (fillPlaceholders value context)) ∧
        aggregate.referencedTables ⊆ [Table.message]) := by
  obtain ⟨derived⟩ := (ofOptions_ok_iff options stem plan).mp success
  exact ⟨derived, derived.described.combine, derived.aggregate, derived.program_eq,
    derived.occurrences_inForce, derived.combine_eq, derived.combines, derived.updates_eq,
    derived.update_readable, derived.confined_iff⟩

/-- In a scope the new value is the value of the context. -/
def valueOfContext : List (String × String) :=
  sampleOptions "if (cur) \x7b\nsetVal(getAggregationVal())\n\x7d\nsend(out, getVal())"

theorem confined_exactly_valueOfContext :
    ∃ plan, Plan.ofOptions valueOfContext "scope_" = .ok plan ∧ Confined plan := by
  have planned : (Plan.ofOptions valueOfContext "scope_").toOption.isSome = true := by
    decide +kernel
  have read : Program.ofOptions valueOfContext = .ok [.beginIf "cur",
      .setValue "getAggregationVal()", .endIf, .send "out" "getVal()"] := by decide +kernel
  have value : Binds [Table.values, "cur"] (fillPlaceholders "getAggregationVal()" "cur") :=
    binds_field "cur" "val" (by decide) (by decide) fun _ => by decide
  have messages : (Expression.scan "MIN(message)").toOption.map (·.referencedTables) = some [] := by
    decide +kernel
  obtain ⟨plan, found⟩ := Option.isSome_iff_exists.mp planned
  have success := ok_of_toOption _ _ found
  obtain ⟨derived, combine, aggregate, program, _, given, scans, _, _, confined⟩ :=
    confined_exactly valueOfContext "scope_" plan success
  have statements := Except.ok.inj (program.symm.trans read)
  refine ⟨plan, success, confined.mpr ⟨?_, ?_⟩⟩
  · have places : derived.occurrences = [⟨"cur", .beginIf "cur"⟩,
        ⟨"cur", .setValue "getAggregationVal()"⟩, ⟨"cur", .endIf⟩,
        ⟨"cur", .send "out" "getVal()"⟩] := by
      rw [Derivation.occurrences, statements]
      rfl
    intro context given member
    rw [places] at member
    obtain ⟨rfl, rfl⟩ : context = "cur" ∧ given = "getAggregationVal()" := by simpa using member
    exact value
  · obtain rfl : "MIN(message)" = combine := Option.some.inj given
    rw [scans] at messages
    have none : aggregate.referencedTables = [] := Option.some.inj messages
    rw [none]
    exact List.nil_subset _

/-- The combination refers to a table that does not exist. -/
def foreignCombination : List (String × String) :=
  [("End", "NO_MESSAGE"), ("InitiateVal", "0"), ("InitialMessage", "1, 0"),
    ("MessageValType", "int"), ("CombineMessage", "MIN(x.val)"),
    ("UpdateAndSend", "send(out, getVal())")]

/-- The new value refers to a table that exists and that is not at hand. -/
def foreignValue : List (String × String) :=
  sampleOptions "x = getVal() > 0\nsetVal(x.val)\nsend(out, getVal())"

/-- A value that reads a table which the update does not name, and a combination that does so. -/
theorem not_confined :
    (∃ plan, Plan.ofOptions foreignValue "scope_" = .ok plan ∧ ¬ Confined plan) ∧
      ∃ plan, Plan.ofOptions foreignCombination "scope_" = .ok plan ∧ ¬ Confined plan := by
  refine ⟨?_, ?_⟩
  · have planned : (Plan.ofOptions foreignValue "scope_").toOption.map (fun plan =>
        plan.blocks.filterMap (·.action.update?)) = some [("cur", "x.val")] := by decide +kernel
    have value : Munch "x.val".toList [.qualified "x" "val"] :=
      .alone (.qualified "x" "val") ⟨by decide, by decide⟩
    obtain ⟨plan, found, updates⟩ := Option.map_eq_some_iff.mp planned
    refine ⟨plan, ok_of_toOption _ _ found, ?_⟩
    intro confined
    obtain ⟨block, inside, update⟩ := List.mem_filterMap.mp (updates ▸ List.mem_cons_self)
    have binds := confined.updates block inside _ _ (Action.update?_eq_some _ _ _ update)
    have bound := binds_of_munch value binds _ List.mem_cons_self "x" rfl
    exact absurd bound (by decide)
  · have planned : (Plan.ofOptions foreignCombination "scope_").toOption.isSome = true := by
      decide +kernel
    have messages : (Expression.scan "MIN(x.val)").toOption.map (·.referencedTables) =
        some ["x"] := by decide +kernel
    obtain ⟨plan, found⟩ := Option.isSome_iff_exists.mp planned
    have success := ok_of_toOption _ _ found
    obtain ⟨derived⟩ := (ofOptions_ok_iff _ _ _).mp success
    refine ⟨plan, success, ?_⟩
    intro confined
    have subset := (derived.confined_iff.mp confined).2
    have scans := derived.combines
    rw [← Option.some.inj derived.combine_eq] at scans
    rw [scans] at messages
    have foreign : derived.aggregate.referencedTables = ["x"] := Option.some.inj messages
    rw [foreign] at subset
    exact absurd (subset List.mem_cons_self) (by decide)

end Planner

end Superstep
