import Superstep.Proofs.Planner.Step

/-!
# The layout of a plan

A plan is the blocks that create the first tables, the loop, and in the loop the blocks of one
superstep: the messages are combined and dropped, the statements follow, and the tables of the
superstep are dropped. `algorithm_ok_iff` says when there is a plan, with all its blocks.
-/

namespace Superstep

/-- The plan that a map of options comes to. Fresh names start with `stem`. -/
def Plan.ofOptions (options : List (String × String)) (stem : String) : Except PlanError Plan := do
  (← Algorithm.ofOptions options).plan { stem }

/-- The statements of the update program in a map of options. -/
def Program.ofOptions (options : List (String × String)) : Except PlanError (List Statement) := do
  let algorithm ← Algorithm.ofOptions options
  let lines ← (Program.read algorithm.update).mapError .malformed
  return lines.map (·.statement)

namespace Planner

def dropBlock (table : String) : Block := ⟨"drop" ++ table, 1, .dropTable table⟩

/-- The table of the edges that enter a vertex, or of those that leave it. -/
def degreeTable (incoming : Bool) : String := if incoming then Table.inCounts else Table.outCounts

def degreeSelect (incoming : Bool) : Select :=
  let (key, counted) := if incoming then ("dest", "src") else ("src", "dest")
  { columns := [key ++ " AS id", "COUNT(" ++ counted ++ ") AS cnt"]
    target := some (degreeTable incoming)
    sources := [Table.edge]
    predicate := ""
    idJoin := false
    groupBy := some key }

def firstBlocks (algorithm : Algorithm) (message : FirstMessage) : List Block :=
  [⟨"initdropcur", 0, .dropTable Table.combined⟩,
    ⟨"initdropmsg", 0, .dropTable Table.message⟩,
    ⟨"initdropnext", 0, .dropTable Table.values⟩,
    ⟨"initdropoutcnts", 0, .dropTable Table.outCounts⟩,
    ⟨"copyVertex", 0, .select {
      columns := ["id AS id", cast algorithm.startValue.sql algorithm.valueType ++ " AS val"]
      target := some Table.values
      sources := [Table.vertex]
      predicate := ""
      idJoin := false
      groupBy := none }⟩,
    ⟨"createMsg", 0, .createTable Table.message ["id int", "val " ++ algorithm.messageType]⟩,
    ⟨"initMsg", 0, .insert Table.message (firstRows message algorithm.messageType)⟩]

def incomingBlocks (algorithm : Algorithm) : List Block :=
  if algorithm.mentions Table.inCounts then
    [⟨"initdropincnts", 0, .dropTable Table.inCounts⟩,
      ⟨"genCnt", 0, .select (degreeSelect true)⟩]
  else []

def outgoingBlocks (algorithm : Algorithm) : List Block :=
  if algorithm.mentions Table.outCounts then [⟨"genCnt", 0, .select (degreeSelect false)⟩] else []

def initBlocks (algorithm : Algorithm) (message : FirstMessage) : List Block :=
  firstBlocks algorithm message ++ incomingBlocks algorithm ++ outgoingBlocks algorithm

/-- What holds of the first blocks and of those that count edges holds of all blocks before the loop,
whichever edges are counted. -/
theorem forall_mem_initBlocks {holds : Block → Prop} {algorithm : Algorithm} {message : FirstMessage}
    (first : ∀ block ∈ firstBlocks algorithm message, holds block)
    (cleared : holds ⟨"initdropincnts", 0, .dropTable Table.inCounts⟩)
    (counted : ∀ incoming, holds ⟨"genCnt", 0, .select (degreeSelect incoming)⟩) :
    ∀ block ∈ initBlocks algorithm message, holds block := by
  rw [initBlocks, List.forall_mem_append, List.forall_mem_append]
  refine ⟨⟨first, ?_⟩, ?_⟩
  · rw [incomingBlocks]
    split
    · exact List.forall_mem_cons.mpr ⟨cleared, List.forall_mem_singleton.mpr (counted true)⟩
    · exact List.forall_mem_nil _
  · rw [outgoingBlocks]
    split
    · exact List.forall_mem_singleton.mpr (counted false)
    · exact List.forall_mem_nil _

/-- The degree tables that exist because the program has their names in its text. -/
def degreeTables (algorithm : Algorithm) : List String :=
  (if algorithm.mentions Table.inCounts then [Table.inCounts] else []) ++
    (if algorithm.mentions Table.outCounts then [Table.outCounts] else [])

def loopStart (loopEnd : LoopEnd) : Block :=
  ⟨"beginWhile", 0, .beginLoop loopEnd.flagStart (Block.loopFlag ++ " != 0")⟩

def loopClose (loopEnd : LoopEnd) : Block := ⟨"endWhile", 0, .endLoop loopEnd Table.message⟩

/-- The block that combines the messages. -/
def combineBlock (aggregate : Scanned) : Block :=
  ⟨"combineMsg", 1, .select {
    columns := [Table.message ++ ".id AS id", aggregate.qualify Table.message "val" ++ " AS val"]
    target := some Table.combined
    sources := [Table.message]
    predicate := ""
    idJoin := false
    groupBy := some "id" }⟩

def initState (algorithm : Algorithm) (names : FreshNames) (message : FirstMessage) :
    PlanState where
  listing := ⟨initBlocks algorithm message, 0⟩
  tables := ⟨Table.values :: Table.message :: degreeTables algorithm⟩
  names := names

def loopState (algorithm : Algorithm) (loopEnd : LoopEnd) (names : FreshNames)
    (message : FirstMessage) : PlanState :=
  { initState algorithm names message with
    listing := ⟨initBlocks algorithm message ++ [loopStart loopEnd], 1⟩ }

/-- The state in which the first statement of the program is planned. -/
def entry (algorithm : Algorithm) (loopEnd : LoopEnd) (names : FreshNames) (message : FirstMessage)
    (aggregate : Scanned) : PlanState where
  listing := ⟨initBlocks algorithm message ++
    [loopStart loopEnd, combineBlock aggregate, dropBlock Table.message], 1⟩
  tables := ⟨Table.values :: degreeTables algorithm ++ [Table.combined]⟩
  settings := Settings.set {} "aggFunc" (aggregate.qualify Table.message "val")
  names := names

def closed (state : PlanState) (loopEnd : LoopEnd) : PlanState :=
  { state with
    listing := ⟨state.listing.blocks ++ state.tables.transient.map dropBlock ++
      [loopClose loopEnd], 0⟩
    tables := state.tables.dropTransient }

theorem run_create_protected (table : String) (state : PlanState)
    (kept : Table.isProtected table = true) :
    (create table).run state =
      .ok () { state with tables := ⟨addNew state.tables.live table⟩ } :=
  (create_ok_iff state _ table ()).mpr ⟨fun _ => kept, rfl⟩

/-- Counting edges never fails: its table may be created again. -/
theorem run_countEdges (incoming : Bool) (state : PlanState) :
    (countEdges incoming).run state = .ok () { state with
      listing := state.listing.emit "genCnt" (.select (degreeSelect incoming))
      tables := ⟨addNew state.tables.live (degreeTable incoming)⟩ } := by
  cases incoming with
  | true =>
    rw [countEdges, EStateM.run_bind, run_emit]
    exact run_create_protected Table.inCounts _ (by decide)
  | false =>
    rw [countEdges, EStateM.run_bind, run_emit]
    exact run_create_protected Table.outCounts _ (by decide)

/-- The tables before the loop are planned whenever the first message can be read. -/
theorem init_ok_iff (algorithm : Algorithm) (names : FreshNames) (after : PlanState)
    (result : Unit) :
    (init algorithm).run { names } = .ok result after ↔
      ∃ message, algorithm.startMessage = .ok message ∧
        after = initState algorithm names message := by
  have values : Table.isProtected Table.values = true := by decide
  have message : Table.isProtected Table.message = true := by decide
  simp only [init, drop, bind_ok_iff, run_emit, create_ok_iff, check_ok_iff, values, message,
    implies_true, EStateM.Result.ok.injEq, and_assoc, exists_and_left, exists_eq_left',
    exists_eq_left, exists_const, true_and]
  apply exists_congr
  intro first
  apply and_congr_right
  intro _
  have started : addNew (addNew [] Table.values) Table.message = [Table.values, Table.message] := by
    decide
  have counted : addNew [Table.values, Table.message] (degreeTable true) =
      [Table.values, Table.message, Table.inCounts] := by decide
  have countedOut : addNew [Table.values, Table.message] (degreeTable false) =
      [Table.values, Table.message, Table.outCounts] := by decide
  have countedBoth : addNew [Table.values, Table.message, Table.inCounts] (degreeTable false) =
      [Table.values, Table.message, Table.inCounts, Table.outCounts] := by decide
  cases incoming : algorithm.mentions Table.inCounts <;>
    cases outgoing : algorithm.mentions Table.outCounts <;>
    simp [run_countEdges, initState, initBlocks, firstBlocks, incomingBlocks, outgoingBlocks,
      degreeTables, Listing.emit, incoming, outgoing, started, counted, countedOut, countedBoth,
      eq_comm]

/-- The drops become blocks in their order. -/
theorem run_dropAll (tables : List String) (state : PlanState) (inLoop : state.listing.depth = 1) :
    (dropAll tables).run state = .ok () { state with
      listing := ⟨state.listing.blocks ++ tables.map dropBlock, 1⟩ } := by
  induction tables generalizing state with
  | nil =>
    rw [dropAll, EStateM.run_pure, List.map_nil, List.append_nil, ← inLoop]
  | cons table others ih =>
    have dropped := ih { state with
      listing := state.listing.emit ("drop" ++ table) (.dropTable table) } inLoop
    rw [dropAll, EStateM.run_bind, drop, run_emit]
    refine dropped.trans ?_
    simp [Listing.emit, dropBlock, inLoop]

theorem endLoop_ok_iff (loopEnd : LoopEnd) (state after : PlanState)
    (inLoop : state.listing.depth = 1) :
    (endLoop loopEnd).run state = .ok () after ↔ after = closed state loopEnd := by
  have drops := run_dropAll state.tables.transient
    { state with tables := state.tables.dropTransient } inLoop
  simp only [endLoop, bind_ok_iff, EStateM.run_get, EStateM.run_modify, run_emit, drops,
    EStateM.Result.ok.injEq, and_assoc, exists_and_left, exists_eq_left', exists_const, true_and]
  exact eq_comm

theorem mem_degreeTables (algorithm : Algorithm) (table : String) :
    table ∈ degreeTables algorithm ↔
      algorithm.mentions Table.inCounts = true ∧ table = Table.inCounts ∨
        algorithm.mentions Table.outCounts = true ∧ table = Table.outCounts := by
  cases incoming : algorithm.mentions Table.inCounts <;>
    cases outgoing : algorithm.mentions Table.outCounts <;>
    simp [degreeTables, incoming, outgoing]

theorem degreeTables_ne (algorithm : Algorithm) (other table : String)
    (different : other ≠ Table.inCounts ∧ other ≠ Table.outCounts)
    (member : table ∈ degreeTables algorithm) : table ≠ other := by
  rintro rfl
  rcases (mem_degreeTables algorithm table).mp member with ⟨_, same⟩ | ⟨_, same⟩
  · exact different.1 same
  · exact different.2 same

theorem degreeTables_protected (algorithm : Algorithm) (table : String)
    (member : table ∈ degreeTables algorithm) : Table.isProtected table = true := by
  rcases (mem_degreeTables algorithm table).mp member with ⟨_, rfl⟩ | ⟨_, rfl⟩ <;> decide

theorem combined_new (algorithm : Algorithm) :
    Table.combined ∉ Table.values :: Table.message :: degreeTables algorithm := by
  have known : Table.combined ∉ [Table.values, Table.message] := by decide
  intro old
  rcases List.mem_append.mp (show Table.combined ∈ [Table.values, Table.message] ++
    degreeTables algorithm from old) with early | degree
  · exact known early
  · exact degreeTables_ne algorithm Table.combined _ (by decide) degree rfl

/-- The tables in which the program starts: the combined messages are there, the messages are not. -/
theorem entry_tables (algorithm : Algorithm) :
    (⟨addNew (Table.values :: Table.message :: degreeTables algorithm) Table.combined⟩ :
        WorkingSet).remove Table.message =
      ⟨Table.values :: degreeTables algorithm ++ [Table.combined]⟩ := by
  have kept : (degreeTables algorithm).filter (· ≠ Table.message) = degreeTables algorithm := by
    apply List.filter_eq_self.mpr
    intro table member
    exact decide_eq_true (degreeTables_ne algorithm Table.message table (by decide) member)
  have values : Table.values ≠ Table.message := by decide
  have combined : Table.combined ≠ Table.message := by decide
  rw [addNew_of_not_mem _ _ (combined_new algorithm), WorkingSet.remove, List.filter_append,
    List.filter_cons, List.filter_cons, kept]
  simp [values, combined]

/-- Combining the messages leads to the state in which the program is planned. -/
theorem superstep_ok_iff (algorithm : Algorithm) (loopEnd : LoopEnd) (names : FreshNames)
    (message : FirstMessage) (after : PlanState) :
    (superstep algorithm).run (loopState algorithm loopEnd names message) = .ok () after ↔
      ∃ aggregate, Expression.scan algorithm.combine = .ok aggregate ∧
        (program algorithm.update).run (entry algorithm loopEnd names message aggregate) =
          .ok () after := by
  simp only [superstep, drop, bind_ok_iff, run_emit, run_setting, scan_ok_iff, create_ok_iff,
    EStateM.run_modify, EStateM.Result.ok.injEq, and_assoc, exists_and_left, exists_eq_left',
    exists_eq_left, exists_const, true_and]
  apply exists_congr
  intro aggregate
  apply and_congr_right
  intro _
  have new : Table.combined ∉ (loopState algorithm loopEnd names message).tables.live :=
    combined_new algorithm
  simp only [new, false_implies, true_and]
  simp only [loopState, initState, entry_tables, Listing.emit, entry, combineBlock, dropBlock,
    List.append_assoc, List.cons_append, List.nil_append]

/-- Whether an algorithm can be planned, and the state that planning it leads to. -/
theorem algorithm_ok_iff (described : Algorithm) (loopEnd : LoopEnd) (names : FreshNames)
    (after : PlanState) :
    (algorithm described loopEnd).run { names } = .ok () after ↔
      ∃ message aggregate lines added ended,
        described.startMessage = .ok message ∧
        Expression.scan described.combine = .ok aggregate ∧
        Program.read described.update = .ok lines ∧
        Steps (entry described loopEnd names message aggregate) (lines.map (·.statement))
          added ended ∧
        ended.scope.enclosing = [] ∧ after = closed ended loopEnd := by
  have opened : ∀ message, (beginLoop loopEnd).run (initState described names message) =
      .ok () (loopState described loopEnd names message) := fun _ => rfl
  -- Statements leave the depth alone, so the loop is closed at the depth at which it was opened.
  have inLoop : ∀ message aggregate planned added ended,
      Steps (entry described loopEnd names message aggregate) planned added ended →
        ended.listing.depth = 1 := by
    intro message aggregate planned added ended run
    rw [run.listing]
    rfl
  rw [algorithm]
  simp only [bind_ok_iff, init_ok_iff]
  constructor
  · rintro ⟨_, _, ⟨message, first, rfl⟩, _, _, begun, _, _, combined, finished⟩
    rw [opened, EStateM.Result.ok.injEq] at begun
    obtain ⟨_, rfl⟩ := begun
    obtain ⟨aggregate, scans, planned⟩ := (superstep_ok_iff _ _ _ _ _).mp combined
    obtain ⟨lines, read, ⟨added, run⟩, balanced⟩ := (program_ok_iff _ _ _).mp planned
    have ending := (endLoop_ok_iff loopEnd _ _ (inLoop _ _ _ _ _ run)).mp finished
    exact ⟨message, aggregate, lines, added, _, first, scans, read, run, balanced, ending⟩
  · rintro ⟨message, aggregate, lines, added, ended, first, scans, read, run, balanced, ending⟩
    have planned := (program_ok_iff _ _ _).mpr ⟨lines, read, ⟨added, run⟩, balanced⟩
    have combined := (superstep_ok_iff _ _ _ _ _).mpr ⟨aggregate, scans, planned⟩
    have finished := (endLoop_ok_iff loopEnd _ _ (inLoop _ _ _ _ _ run)).mpr ending
    exact ⟨(), _, ⟨message, first, rfl⟩, (), _, opened message, (), _, combined, finished⟩

theorem required_ok_iff (options : List (String × String)) (key : OptionKey) (value : String) :
    Algorithm.required options key = .ok value ↔ options.lookup key.name = some value := by
  unfold Algorithm.required
  cases options.lookup key.name <;> simp

theorem update_of_ofOptions (options : List (String × String)) (described : Algorithm)
    (describes : Algorithm.ofOptions options = .ok described) :
    options.lookup OptionKey.update.name = some described.update := by
  simp only [Algorithm.ofOptions, except_bind_ok_iff, required_ok_iff] at describes
  obtain ⟨_, _, _, _, _, _, _, _, _, _, update, held, described⟩ := describes
  rw [← Except.ok.inj described]
  exact held

/-- All that a plan comes from: the texts that were read, and the program's statements planned one
after the other. -/
structure Derivation (options : List (String × String)) (stem : String) (plan : Plan) where
  described : Algorithm
  loopEnd : LoopEnd
  message : FirstMessage
  aggregate : Scanned
  lines : List ProgramLine
  /-- The blocks of the program's statements. -/
  added : List Block
  /-- The state after the last statement. -/
  ended : PlanState
  describes : Algorithm.ofOptions options = .ok described
  ends : described.loopEnd = .ok loopEnd
  first : described.startMessage = .ok message
  combines : Expression.scan described.combine = .ok aggregate
  read : Program.read described.update = .ok lines
  run : Steps (entry described loopEnd { stem } message aggregate) (lines.map (·.statement))
    added ended
  balanced : ended.scope.enclosing = []
  result : plan = (closed ended loopEnd).plan

/-- A plan comes from an end of the loop that is understood and a run of the planner. -/
theorem plan_ok_iff (described : Algorithm) (names : FreshNames) (plan : Plan) :
    described.plan names = .ok plan ↔
      ∃ loopEnd state, described.loopEnd = .ok loopEnd ∧
        (algorithm described loopEnd).run { names } = .ok () state ∧ plan = state.plan := by
  rw [Algorithm.plan, except_bind_ok_iff]
  apply exists_congr
  intro loopEnd
  cases (algorithm described loopEnd).run { names } with
  | ok result state => simp [eq_comm]
  | error error state => simp

/-- Plans are what there are derivations of: all that is known of plans is shown of derivations. -/
theorem ofOptions_ok_iff (options : List (String × String)) (stem : String) (plan : Plan) :
    Plan.ofOptions options stem = .ok plan ↔ Nonempty (Derivation options stem plan) := by
  simp only [Plan.ofOptions, except_bind_ok_iff, plan_ok_iff, algorithm_ok_iff]
  constructor
  · rintro ⟨described, describes, loopEnd, _, ends, ⟨message, aggregate, lines, added, ended, first,
      combines, read, run, balanced, rfl⟩, result⟩
    exact ⟨⟨described, loopEnd, message, aggregate, lines, added, ended, describes, ends, first,
      combines, read, run, balanced, result⟩⟩
  · rintro ⟨derived⟩
    exact ⟨derived.described, derived.describes, derived.loopEnd, _, derived.ends,
      ⟨derived.message, derived.aggregate, derived.lines, derived.added, derived.ended,
        derived.first, derived.combines, derived.read, derived.run, derived.balanced, rfl⟩,
      derived.result⟩

namespace Derivation

variable {options : List (String × String)} {stem : String} {plan : Plan}
  (derived : Derivation options stem plan)

theorem planned : (algorithm derived.described derived.loopEnd).run { names := { stem } } =
    .ok () (closed derived.ended derived.loopEnd) :=
  (algorithm_ok_iff _ _ _ _).mpr ⟨derived.message, derived.aggregate, derived.lines, derived.added,
    derived.ended, derived.first, derived.combines, derived.read, derived.run, derived.balanced,
    rfl⟩

def statements : List Statement := derived.lines.map (·.statement)

def start : PlanState :=
  entry derived.described derived.loopEnd { stem } derived.message derived.aggregate

theorem program_eq : Program.ofOptions options = .ok derived.statements := by
  have lines := (mapError_ok_iff _ PlanError.malformed _).mpr derived.read
  rw [Program.ofOptions, except_bind_ok_iff]
  refine ⟨derived.described, derived.describes, ?_⟩
  rw [except_bind_ok_iff]
  exact ⟨derived.lines, lines, rfl⟩

theorem combine_eq : options.lookup "CombineMessage" = some derived.described.combine := by
  have describes := derived.describes
  simp only [Algorithm.ofOptions, except_bind_ok_iff, required_ok_iff] at describes
  obtain ⟨_, _, _, _, _, _, _, _, combine, held, _, _, described⟩ := describes
  rw [← Except.ok.inj described]
  exact held

def body : List Block :=
  combineBlock derived.aggregate :: dropBlock Table.message ::
    (derived.added ++ derived.ended.tables.transient.map dropBlock)

theorem body_eq :
    derived.body = [combineBlock derived.aggregate, dropBlock Table.message] ++
      (derived.added ++ derived.ended.tables.transient.map dropBlock) := rfl

theorem blocks_eq :
    plan.blocks = initBlocks derived.described derived.message ++
      loopStart derived.loopEnd :: (derived.body ++ [loopClose derived.loopEnd]) := by
  have planned := congrArg Plan.blocks derived.result
  rw [planned]
  simp [closed, PlanState.plan, derived.run.listing, entry, body]

theorem initBlocks_plain (algorithm : Algorithm) (message : FirstMessage) :
    ∀ block ∈ initBlocks algorithm message, block.opensLoop = false :=
  forall_mem_initBlocks (by simp [firstBlocks, Block.opensLoop]) rfl fun _ => rfl

theorem body_plain : ∀ block ∈ derived.body, block.closesLoop = false := by
  intro block member
  simp only [body, List.mem_cons, List.mem_append, List.mem_map] at member
  rcases member with rfl | rfl | statement | ⟨table, _, rfl⟩
  · rfl
  · rfl
  · exact Block.closesLoop_of_isQuery block (derived.run.isQuery block statement)
  · rfl

theorem beforeLoop_eq :
    Block.beforeLoop plan.blocks = initBlocks derived.described derived.message := by
  rw [derived.blocks_eq]
  exact Block.beforeLoop_append _ _ _ (initBlocks_plain _ _) rfl

theorem loopBody_eq : Block.loopBody plan.blocks = derived.body := by
  rw [derived.blocks_eq]
  exact Block.loopBody_append _ _ _ _ _ (initBlocks_plain _ _) rfl derived.body_plain rfl

theorem fromClosing_eq : Block.fromClosing plan.blocks = [loopClose derived.loopEnd] := by
  rw [derived.blocks_eq]
  exact Block.fromClosing_append _ _ _ _ _ (initBlocks_plain _ _) rfl derived.body_plain rfl

end Derivation

/-- The options of an algorithm that runs until no messages are left, with a given program. -/
def sampleOptions (update : String) : List (String × String) :=
  [("End", "NO_MESSAGE"), ("InitiateVal", "0"), ("InitialMessage", "1, 0"),
    ("MessageValType", "int"), ("CombineMessage", "MIN(message)"), ("UpdateAndSend", update)]

theorem sampleOptions_lookup (update other key : String) (different : key ≠ OptionKey.update.name) :
    (sampleOptions update).lookup key = (sampleOptions other).lookup key := by
  have single : ∀ value : String, List.lookup key [(OptionKey.update.name, value)] = none := by
    intro value
    rw [List.lookup_eq_none_iff]
    intro entry member
    rw [List.mem_singleton.mp member]
    exact bne_iff_ne.mpr different
  have parted : ∀ value, sampleOptions value =
      (sampleOptions value).take 5 ++ [(OptionKey.update.name, value)] := fun _ => rfl
  rw [parted update, parted other, List.lookup_append, List.lookup_append, single, single]
  rfl

/-- An `if` in an `if`, and a send in the innermost scope. -/
def nestedSend : List (String × String) :=
  sampleOptions ("a = getVal() > 0\nif (a) \x7b\nif (a) \x7b\n" ++
    "send(all, getVal() / out_cnts.cnt)\n\x7d\n\x7d")

end Planner

end Superstep
