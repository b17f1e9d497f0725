import Mathlib.Data.Finset.Option
import Superstep.Proofs.Messages

/-!
# Running the loop again and again

Blocks run over the set of tables that exist. A block fails if a table that it needs is missing, or
if a table that it creates is there already. Planning goes over the program once, but the loop
repeats it: the loop must find the tables as it left them.
-/

namespace Superstep

/-- The tables that exist after an action, if the action does not fail. -/
def Action.replay (action : Action) (tables : Finset String) : Option (Finset String) :=
  if (∀ table ∈ action.required, table ∈ tables) ∧ ∀ table ∈ action.created?, table ∉ tables then
    some ((tables \ action.dropped?.toFinset) ∪ action.created?.toFinset)
  else none

namespace Block

/-- The tables that exist after blocks that run one after the other, if none of them fails. -/
def replay : List Block → Finset String → Option (Finset String)
  | [], tables => some tables
  | block :: others, tables => (block.action.replay tables).bind (replay others)

/-- The messages are not needed before they are created. -/
def messageCreatedFirst : List Block → Bool
  | [] => true
  | block :: others => Table.message ∉ block.action.required &&
      (block.action.createsMessage || messageCreatedFirst others)

theorem replay_append (first second : List Block) (tables : Finset String) :
    replay (first ++ second) tables = (replay first tables).bind (replay second) := by
  induction first generalizing tables with
  | nil => rfl
  | cons block others ih =>
    rw [List.cons_append, replay, replay, Option.bind_assoc]
    exact congrArg _ (funext ih)

theorem replay_singleton (block : Block) (tables : Finset String) :
    replay [block] tables = block.action.replay tables := by
  rw [replay]
  exact Option.bind_fun_some _

/-- What leaves the tables as it found them can be repeated. -/
theorem replay_replicate (blocks : List Block) (tables : Finset String)
    (returns : replay blocks tables = some tables) (times : Nat) :
    replay (List.replicate times blocks).flatten tables = some tables := by
  induction times with
  | zero => rfl
  | succ times ih =>
    rw [List.replicate_succ, List.flatten_cons, replay_append, returns]
    exact ih

/-- Blocks that do not fail without messages create them before they need them. -/
theorem messageCreatedFirst_of_replay (blocks : List Block) (tables after : Finset String)
    (plain : ∀ block ∈ blocks, block.action.created? = block.action.produced?)
    (absent : Table.message ∉ tables) (ran : replay blocks tables = some after) :
    messageCreatedFirst blocks = true := by
  induction blocks generalizing tables with
  | nil => rfl
  | cons block others ih =>
    obtain ⟨between, now, later⟩ := Option.bind_eq_some_iff.mp ran
    unfold Action.replay at now
    split at now
    · rename_i runs
      obtain rfl := Option.some.inj now
      have unread : Table.message ∉ block.action.required := fun member => absent (runs.1 _ member)
      by_cases creates : block.action.createsMessage = true
      · simp [messageCreatedFirst, unread, creates]
      · have still := ih _ (fun other member => plain other (List.mem_cons_of_mem _ member))
          (by
            rw [plain block List.mem_cons_self]
            simpa [absent, Action.createsMessage] using creates) later
        simp [messageCreatedFirst, unread, still]
    · cases now

theorem messageCreatedFirst_of_unread (blocks : List Block)
    (unread : ∀ block ∈ blocks, Table.message ∉ block.action.required) :
    messageCreatedFirst blocks = true := by
  induction blocks with
  | nil => rfl
  | cons block others ih =>
    have still := ih fun other member => unread other (List.mem_cons_of_mem _ member)
    simp [messageCreatedFirst, unread block List.mem_cons_self, still]

/-- Once the messages are created, later blocks may read them. -/
theorem messageCreatedFirst_append (first second : List Block) :
    messageCreatedFirst (first ++ second) = true ↔
      messageCreatedFirst first = true ∧
        ((∃ block ∈ first, block.action.createsMessage = true) ∨
          messageCreatedFirst second = true) := by
  induction first with
  | nil => simp [messageCreatedFirst]
  | cons block others ih =>
    simp only [List.cons_append, messageCreatedFirst, Bool.and_eq_true, Bool.or_eq_true, ih,
      List.exists_mem_cons_iff]
    by_cases creates : block.action.createsMessage = true <;> simp [creates, and_assoc]

end Block

/-- The tables that an earlier run may have left behind. -/
def Table.leftovers : Finset String :=
  {Table.combined, Table.message, Table.values, Table.inCounts, Table.outCounts}

/-- From the graph and from whatever an earlier run has left, no block fails however often the loop
is run, and the tables after each superstep are those before the first. -/
def Plan.Replays (plan : Plan) : Prop :=
  ∀ leftover ⊆ Table.leftovers, ∃ start, ∀ times,
    Block.replay (Block.beforeLoop plan.blocks ++
      (List.replicate times (Block.loopBody plan.blocks ++ Block.fromClosing plan.blocks)).flatten)
      ({Table.vertex, Table.edge} ∪ leftover) = some start

/-- The degree tables that messages are selected from are created before the loop. -/
abbrev Plan.DegreesCreated (plan : Plan) : Prop :=
  ∀ block ∈ Block.loopBody plan.blocks, block.action.createsMessage = true →
    ∀ table ∈ block.action.sources, table = Table.inCounts ∨ table = Table.outCounts →
      ∃ earlier ∈ Block.beforeLoop plan.blocks, earlier.action.created? = some table

namespace Planner

open Block

/-- The tables that exist are those in the working set and those outside of it. The messages are
left open, since they count as created whenever something is sent. -/
def Matches (outside : Finset String) (state : PlanState) (tables : Finset String) : Prop :=
  ∀ table, table ≠ Table.message → (table ∈ tables ↔ table ∈ outside ∨ table ∈ state.tables.live)

/-- The degree tables that blocks select messages from are among the given tables. -/
def DegreesIn (tables : List String) (blocks : List Block) : Prop :=
  ∀ block ∈ blocks, block.action.createsMessage = true → ∀ table ∈ block.action.sources,
    table = Table.inCounts ∨ table = Table.outCounts → table ∈ tables

section Run

variable {outside : Finset String} {start : List String}
  (base : ∀ table, Table.isBase table = true → table ∈ outside)
  (known : ∀ table ∈ outside, Table.isReserved table = true) (values : Table.values ∈ start)

section Single

variable {state after : PlanState} {planned : Statement} {added : List Block}
  (step : Step state planned added after) {tables : Finset String}
  (matching : Matches outside state tables)

include step matching

include base values in
/-- What a statement requires is there, if messages and degree tables are there where it needs them. -/
theorem Step.required_present (sound : Sound start state) (block : Block) (member : block ∈ added)
    (read : Table.message ∈ block.action.required → Table.message ∈ tables)
    (counted : block.action.createsMessage = true → ∀ table ∈ block.action.sources,
      table = Table.inCounts ∨ table = Table.outCounts → table ∈ start)
    (table : String) (required : table ∈ block.action.required) : table ∈ tables := by
  by_cases message : table = Table.message
  · exact message ▸ read (message ▸ required)
  rw [matching table message]
  -- Every other table is live, in the graph, or a degree table, which no statement touches.
  rcases step.required_readable (sound.contexts _ List.mem_cons_self)
    ((sound.reserved _ (by decide) (by decide)).mpr values) block member table required with
    readable | ⟨creates, source, degree⟩
  · rcases (WorkingSet.isReadable_iff _ _).mp readable with live | graph
    · exact .inr live
    · exact .inl (base table graph)
  · have reserved : Table.isReserved table = true := by
      rcases degree with rfl | rfl <;> decide
    exact .inr ((sound.reserved table reserved message).mpr (counted creates table source degree))

include known in
/-- What a statement creates is not there yet, if it does not create the messages again. -/
theorem Step.created_absent (block : Block) (member : block ∈ added)
    (once : block.action.createsMessage = true → Table.message ∉ tables) (table : String)
    (creates : block.action.produced? = some table) : table ∉ tables := by
  rcases step.created_new block member table creates with rfl | ⟨free, absent⟩
  · exact once (decide_eq_true creates)
  · rw [matching table (Table.ne_message_of_not_reserved table free)]
    rintro (old | live)
    · rw [known table old] at free
      cases free
    · exact absent live

end Single

include base known values

/-- The block of a statement does not fail, if the messages are there when they are needed and not
when they are created. -/
theorem Step.replays {state after : PlanState} {planned : Statement} {added : List Block}
    (step : Step state planned added after) (sound : Sound start state) (tables : Finset String)
    (matching : Matches outside state tables)
    (read : Table.message ∉ tables → messageCreatedFirst added = true)
    (once : ∀ block ∈ added, block.action.createsMessage = true → Table.message ∉ tables)
    (counted : DegreesIn start added) :
    ∃ later, replay added tables = some later ∧ Matches outside after later ∧
      (Table.message ∈ later ↔
        Table.message ∈ tables ∨ ∃ block ∈ added, block.action.createsMessage = true) := by
  rcases step.added_cases with rfl | ⟨block, rfl⟩
  · refine ⟨tables, rfl, ?_, by simp⟩
    intro table other
    rw [matching table other, step.mem_live table other]
    simp
  · have self : block ∈ [block] := List.mem_singleton.mpr rfl
    have query := step.isQuery block self
    have created := Action.created?_of_isQuery block.action query
    have present : Table.message ∈ block.action.required → Table.message ∈ tables := by
      intro required
      by_contra missing
      have first := read missing
      simp [messageCreatedFirst, required] at first
    have ready := step.required_present base values matching sound block self present
      (counted block self)
    have new := step.created_absent known matching block self (once block self)
    refine ⟨tables ∪ block.action.produced?.toFinset, ?_, ?_, ?_⟩
    · rw [replay_singleton, Action.replay, if_pos ⟨ready, created ▸ new⟩, created,
        Action.dropped?_of_isQuery _ query]
      simp
    · intro table other
      rw [Finset.mem_union, matching table other, step.mem_live table other, Option.mem_toFinset]
      simp [or_assoc]
    · rw [Finset.mem_union, Option.mem_toFinset]
      simp [Action.createsMessage]

/-- The blocks of the program do not fail, if the messages are created once and not needed earlier. -/
theorem Steps.replays {state after : PlanState} {planned : List Statement} {added : List Block}
    (run : Steps state planned added after) (sound : Sound start state) (tables : Finset String)
    (matching : Matches outside state tables)
    (read : Table.message ∉ tables → messageCreatedFirst added = true)
    (once : (added.filter (·.action.createsMessage)).length ≤
      if Table.message ∈ tables then 0 else 1)
    (counted : DegreesIn start added) :
    ∃ later, replay added tables = some later ∧ Matches outside after later ∧
      (Table.message ∈ later ↔
        Table.message ∈ tables ∨ ∃ block ∈ added, block.action.createsMessage = true) := by
  induction run generalizing tables with
  | done => exact ⟨tables, rfl, matching, by simp⟩
  | @step state between after first others added more now _ ih =>
    rw [List.filter_append, List.length_append] at once
    have some : ∀ block ∈ added, block.action.createsMessage = true →
        0 < (added.filter (·.action.createsMessage)).length :=
      fun _ member creates => List.length_pos_of_mem (List.mem_filter.mpr ⟨member, creates⟩)
    have absent : ∀ block ∈ added, block.action.createsMessage = true → Table.message ∉ tables := by
      intro block member creates present
      have positive := some block member creates
      rw [if_pos present] at once
      omega
    obtain ⟨middle, ran, matched, there⟩ := now.replays base known values sound tables matching
      (fun missing => ((messageCreatedFirst_append _ _).mp (read missing)).1) absent
      (fun block member => counted block (List.mem_append_left _ member))
    -- Once the messages are there, none of the later blocks may create them.
    have remaining : (more.filter (·.action.createsMessage)).length ≤
        if Table.message ∈ middle then 0 else 1 := by
      split
      · rename_i present
        rcases there.mp present with old | ⟨block, member, creates⟩
        · rw [if_pos old] at once
          omega
        · have positive := some block member creates
          split at once <;> omega
      · split at once <;> omega
    obtain ⟨later, ranOn, matchedOn, thereOn⟩ := ih (now.sound sound) middle matched
      (by
        intro missing
        rw [there, not_or] at missing
        obtain ⟨_, created | unread⟩ := (messageCreatedFirst_append _ _).mp (read missing.1)
        · exact absurd created missing.2
        · exact unread)
      remaining (fun block member => counted block (List.mem_append_right _ member))
    refine ⟨later, ?_, matchedOn, ?_⟩
    · rw [replay_append, ran]
      exact ranOn
    · rw [thereOn, there]
      simp only [List.mem_append, or_and_right, exists_or, or_assoc]

end Run

/-- The tables that the drops before the loop leave. -/
def leftAlone (tables : Finset String) : Finset String :=
  (((tables \ {Table.combined}) \ {Table.message}) \ {Table.values}) \ {Table.outCounts}

def loopTables (algorithm : Algorithm) (outside : Finset String) : Finset String :=
  insert Table.message (insert Table.values outside) ∪ (degreeTables algorithm).toFinset

theorem replay_firstBlocks (algorithm : Algorithm) (message : FirstMessage) (tables : Finset String)
    (vertex : Table.vertex ∈ tables) :
    replay (firstBlocks algorithm message) tables =
      some (insert Table.message (insert Table.values (leftAlone tables))) := by
  cases message <;>
    simp +decide [firstBlocks, replay, Action.replay, Action.required, Action.sources,
      Action.created?, Action.produced?, Action.dropped?, firstRows, leftAlone, vertex]

theorem replay_incomingBlocks (algorithm : Algorithm) (tables : Finset String)
    (edge : Table.edge ∈ tables) :
    replay (incomingBlocks algorithm) tables = some (tables ∪
      (if algorithm.mentions Table.inCounts then [Table.inCounts] else []).toFinset) := by
  have again : insert Table.inCounts (tables \ {Table.inCounts}) =
      insert Table.inCounts tables := by grind
  cases incoming : algorithm.mentions Table.inCounts <;>
    simp +decide [incomingBlocks, incoming, replay, Action.replay, Action.required, Action.sources,
      Action.created?, Action.produced?, Action.dropped?, degreeSelect, degreeTable, edge, again]

theorem replay_outgoingBlocks (algorithm : Algorithm) (tables : Finset String)
    (edge : Table.edge ∈ tables) (absent : Table.outCounts ∉ tables) :
    replay (outgoingBlocks algorithm) tables = some (tables ∪
      (if algorithm.mentions Table.outCounts then [Table.outCounts] else []).toFinset) := by
  cases outgoing : algorithm.mentions Table.outCounts <;>
    simp +decide [outgoingBlocks, outgoing, replay, Action.replay, Action.required, Action.sources,
      Action.created?, Action.produced?, Action.dropped?, degreeSelect, degreeTable, edge, absent]

/-- No block before the loop fails, whatever is left of an earlier run. -/
theorem replay_initBlocks (algorithm : Algorithm) (message : FirstMessage) (tables : Finset String)
    (vertex : Table.vertex ∈ tables) (edge : Table.edge ∈ tables) :
    replay (initBlocks algorithm message) tables =
      some (loopTables algorithm (leftAlone tables)) := by
  have hasEdge : Table.edge ∈ insert Table.message (insert Table.values (leftAlone tables)) := by
    simp +decide [leftAlone, edge]
  have noDegree : Table.outCounts ∉
      insert Table.message (insert Table.values (leftAlone tables)) := by
    simp +decide [leftAlone]
  have different : Table.outCounts ≠ Table.inCounts := by decide
  rw [initBlocks, replay_append, replay_append, replay_firstBlocks algorithm message tables vertex,
    Option.bind_some, replay_incomingBlocks algorithm _ hasEdge, Option.bind_some,
    replay_outgoingBlocks, loopTables, degreeTables, List.toFinset_append, Finset.union_assoc]
  · exact Finset.mem_union_left _ hasEdge
  · rw [Finset.mem_union, not_or]
    refine ⟨noDegree, ?_⟩
    split <;> simp [different]

/-- Dropping tables takes exactly these away. -/
theorem replay_drops (dropped : List String) (tables : Finset String) :
    replay (dropped.map dropBlock) tables = some (tables \ dropped.toFinset) := by
  induction dropped generalizing tables with
  | nil => simp [replay]
  | cons table others ih =>
    have first : (dropBlock table).action.replay tables = some (tables \ {table}) := by
      simp [dropBlock, Action.replay, Action.required, Action.sources, Action.created?,
        Action.produced?, Action.dropped?]
    rw [List.map_cons, replay, first, Option.bind_some, ih, List.toFinset_cons, Finset.insert_eq,
      sdiff_sdiff_left]
    rfl

theorem mem_loopTables (algorithm : Algorithm) (outside : Finset String) (table : String) :
    table ∈ loopTables algorithm outside ↔
      table ∈ outside ∨ table = Table.message ∨ table = Table.values ∨
        table ∈ degreeTables algorithm := by
  simp only [loopTables, Finset.mem_union, Finset.mem_insert, List.mem_toFinset]
  tauto

namespace Derivation

variable {options : List (String × String)} {stem : String} {plan : Plan}
  (derived : Derivation options stem plan)

/-- The tables that are kept at the end of the loop, the messages aside, are those before it. -/
theorem ended_protected (table : String) (other : table ≠ Table.message) :
    table ∈ derived.ended.tables.live ∧ Table.isProtected table = true ↔
      table = Table.values ∨ table ∈ degreeTables derived.described := by
  have reserved : Table.isProtected table = true → (table ∈ derived.ended.tables.live ↔
      table = Table.values ∨ table ∈ degreeTables derived.described ∨ table = Table.combined) := by
    intro kept
    rw [derived.ended_sound.reserved table (Table.isReserved_of_protected table kept) other,
      mem_startLive]
  constructor
  · rintro ⟨live, kept⟩
    rcases (reserved kept).mp live with isValues | degree | rfl
    · exact .inl isValues
    · exact .inr degree
    · exact absurd kept (by decide)
  · rintro (rfl | degree)
    · exact ⟨(reserved (by decide)).mpr (.inl rfl), by decide⟩
    · have kept := degreeTables_protected _ _ degree
      exact ⟨(reserved kept).mpr (.inr (.inl degree)), kept⟩

section Loop

variable {outside : Finset String}
  (base : ∀ table, Table.isBase table = true → table ∈ outside)
  (known : ∀ table ∈ outside, table ∈ [Table.vertex, Table.edge, Table.inCounts])

include known

theorem outside_apart (table : String) (member : table ∈ outside) :
    table ≠ Table.combined ∧ table ≠ Table.message ∧ Table.isReserved table = true := by
  have apart : ∀ table ∈ [Table.vertex, Table.edge, Table.inCounts],
      table ≠ Table.combined ∧ table ≠ Table.message ∧ Table.isReserved table = true := by decide
  exact apart table (known table member)

/-- Combining and dropping the messages leaves what the program starts from. -/
theorem replay_combine :
    ∃ tables, replay [combineBlock derived.aggregate, dropBlock Table.message]
        (loopTables derived.described outside) = some tables ∧
      Matches outside (entry derived.described derived.loopEnd { stem } derived.message
        derived.aggregate) tables ∧ Table.message ∉ tables := by
  have there : Table.message ∈ loopTables derived.described outside :=
    (mem_loopTables _ _ _).mpr (.inr (.inl rfl))
  have new : Table.combined ∉ loopTables derived.described outside := by
    rw [mem_loopTables]
    rintro (old | message | values | degree)
    · exact (outside_apart known _ old).1 rfl
    · exact absurd message (by decide)
    · exact absurd values (by decide)
    · exact degreeTables_ne _ _ _ (by decide) degree rfl
  refine ⟨insert Table.combined (loopTables derived.described outside) \ {Table.message},
    ?_, ?_, ?_⟩
  · simp [replay, combineBlock, dropBlock, Action.replay, Action.required, Action.sources,
      Action.created?, Action.produced?, Action.dropped?, there, new]
  · intro table other
    rw [Finset.mem_sdiff, Finset.mem_insert, Finset.mem_singleton, and_iff_left other,
      mem_loopTables]
    simp only [entry, List.mem_append, List.mem_cons, List.not_mem_nil, or_false, other, false_or]
    tauto
  · simp

theorem outside_not_transient (table : String) (member : table ∈ outside) :
    table ∉ derived.ended.tables.transient := by
  intro dropped
  obtain ⟨notCombined, _, reserved⟩ := outside_apart known table member
  rcases derived.mem_transient table dropped with isCombined | free
  · exact notCombined isCombined
  · rw [reserved] at free
    cases free

/-- What is left once the tables of the superstep are dropped. -/
theorem dropped_back (later : Finset String) (matched : Matches outside derived.ended later)
    (message : Table.message ∈ later) :
    later \ derived.ended.tables.transient.toFinset = loopTables derived.described outside := by
  ext table
  rw [Finset.mem_sdiff, List.mem_toFinset, mem_loopTables]
  by_cases isMessage : table = Table.message
  · subst isMessage
    -- The messages are protected, so they are not dropped.
    refine iff_of_true ⟨message, ?_⟩ (.inr (.inl rfl))
    rw [WorkingSet.mem_transient]
    exact fun dropped => absurd dropped.2 (by decide)
  rw [matched table isMessage, or_iff_right isMessage, ← derived.ended_protected table isMessage]
  constructor
  · rintro ⟨old | live, kept⟩
    · exact .inl old
    · rw [WorkingSet.mem_transient, not_and, Bool.not_eq_false] at kept
      exact .inr ⟨live, kept live⟩
  · rintro (old | ⟨live, kept⟩)
    · exact ⟨.inl old, derived.outside_not_transient known table old⟩
    · refine ⟨.inr live, ?_⟩
      rw [WorkingSet.mem_transient, kept]
      exact fun dropped => Bool.true_eq_false.mp dropped.2

include base

/-- One superstep does not fail and leaves the tables as it found them, if it creates the messages
once and does not need them earlier. -/
theorem replay_superstep (first : messageCreatedFirst derived.added = true)
    (once : (derived.added.filter (·.action.createsMessage)).length = 1)
    (counted : DegreesIn (degreeTables derived.described) derived.added) :
    replay (derived.body ++ [loopClose derived.loopEnd]) (loopTables derived.described outside) =
      some (loopTables derived.described outside) := by
  obtain ⟨entered, combined, matching, absent⟩ := derived.replay_combine known
  obtain ⟨later, ran, matched, there⟩ := derived.run.replays base
    (fun table member => (outside_apart known table member).2.2) List.mem_cons_self
    derived.entry_sound entered matching (fun _ => first) (by rw [once, if_neg absent])
    (fun block member creates table source degree =>
      List.mem_append_left _ (List.mem_cons_of_mem _
        (counted block member creates table source degree)))
  have message : Table.message ∈ later := by
    obtain ⟨block, creates⟩ := List.exists_mem_of_length_pos (once ▸ Nat.one_pos)
    obtain ⟨member, creates⟩ := List.mem_filter.mp creates
    exact there.mpr (.inr ⟨block, member, creates⟩)
  rw [derived.body_eq, replay_append, replay_append, combined, Option.bind_some, replay_append, ran,
    Option.bind_some, replay_drops, derived.dropped_back known later matched message,
    Option.bind_some, replay_singleton]
  have remains : Table.message ∈ loopTables derived.described outside :=
    (mem_loopTables _ _ _).mpr (.inr (.inl rfl))
  simp [loopClose, Action.replay, Action.required, Action.created?, Action.produced?,
    Action.dropped?, remains]

end Loop

/-- Blocks behind the drop of the messages create only what they select. -/
theorem created?_behind (block : Block)
    (member : block ∈ derived.added ++ derived.ended.tables.transient.map dropBlock) :
    block.action.created? = block.action.produced? := by
  rcases List.mem_append.mp member with statement | dropped
  · exact Action.created?_of_isQuery _ (derived.run.isQuery block statement)
  · obtain ⟨table, _, rfl⟩ := List.mem_map.mp dropped
    rfl

end Derivation

theorem created_initBlocks (algorithm : Algorithm) (message : FirstMessage) :
    (initBlocks algorithm message).filterMap (·.action.created?) =
      Table.values :: Table.message :: degreeTables algorithm := by
  cases incoming : algorithm.mentions Table.inCounts <;>
    cases outgoing : algorithm.mentions Table.outCounts <;>
    simp [initBlocks, firstBlocks, incomingBlocks, outgoingBlocks, degreeTables, incoming, outgoing,
      Action.created?, Action.produced?, degreeSelect, degreeTable]

/-- As long as nothing is sent, the messages are not needed. -/
theorem Step.message_unread {start : List String} {state after : PlanState} {planned : Statement}
    {added : List Block} (step : Step state planned added after) (sound : Sound start state)
    (values : Table.values ∈ start) (absent : Table.message ∉ state.tables.live) (block : Block)
    (member : block ∈ added) : Table.message ∉ block.action.required := by
  intro required
  rcases step.required_readable (sound.contexts _ List.mem_cons_self)
    ((sound.reserved _ (by decide) (by decide)).mpr values) block member _ required with
    readable | ⟨_, _, degree⟩
  · rcases (WorkingSet.isReadable_iff _ _).mp readable with live | graph
    · exact absent live
    · exact absurd graph (by decide)
  · exact absurd degree (by decide)

/-- The messages come into the working set with a block that creates them, or with a send in
direction `no`. -/
theorem Step.message_live {state after : PlanState} {planned : Statement} {added : List Block}
    (step : Step state planned added after) (live : Table.message ∈ after.tables.live) :
    Table.message ∈ state.tables.live ∨ planned.way? = some .none ∨
      ∃ block ∈ added, block.action.createsMessage = true := by
  cases step with
  | openOuter | close | setValue => exact .inl live
  | openInner =>
    refine .inl (((mem_addNew _ _ _).mp live).resolve_right ?_)
    exact (Table.ne_message_of_not_reserved _ (FreshNames.next_not_reserved _ _)).symm
  | assign target expression scanned assignable =>
    refine .inl (((mem_addNew _ _ _).mp live).resolve_right ?_)
    exact (Table.ne_message_of_not_reserved target assignable).symm
  | send direction content way scanned names =>
    right
    cases way with
    | none => exact .inl (by rw [Statement.way?, names]; rfl)
    | incoming | outgoing | both => exact .inr ⟨_, List.mem_singleton.mpr rfl, decide_eq_true rfl⟩

/-- A program without a send in direction `no` creates the messages before it needs them. -/
theorem Steps.messageCreatedFirst {start : List String} {state after : PlanState}
    {planned : List Statement} {added : List Block} (run : Steps state planned added after)
    (sound : Sound start state) (values : Table.values ∈ start)
    (absent : Table.message ∉ state.tables.live)
    (loud : ∀ way ∈ planned.filterMap Statement.way?, way ≠ .none) :
    Block.messageCreatedFirst added = true := by
  induction run with
  | done => rfl
  | @step state between after first others added more now _ ih =>
    rw [messageCreatedFirst_append]
    refine ⟨messageCreatedFirst_of_unread _ (now.message_unread sound values absent), ?_⟩
    -- Behind the block that creates the messages nothing is left to show.
    by_cases created : ∃ block ∈ added, block.action.createsMessage = true
    · exact .inl created
    · right
      apply ih (now.sound sound)
      · intro live
        rcases now.message_live live with old | silent | creates
        · exact absent old
        · exact loud _ (List.mem_filterMap.mpr ⟨first, List.mem_cons_self, silent⟩) rfl
        · exact created creates
      · intro way member
        obtain ⟨other, later, names⟩ := List.mem_filterMap.mp member
        exact loud way (List.mem_filterMap.mpr ⟨other, List.mem_cons_of_mem _ later, names⟩)

section Leftover

variable {leftover : Finset String} (few : leftover ⊆ Table.leftovers)

theorem base_leftAlone (table : String) (graph : Table.isBase table = true) :
    table ∈ leftAlone ({Table.vertex, Table.edge} ∪ leftover) := by
  simp only [Table.isBase, Bool.or_eq_true, decide_eq_true_eq] at graph
  rcases graph with rfl | rfl <;> simp +decide [leftAlone]

include few

theorem known_leftAlone (table : String)
    (member : table ∈ leftAlone ({Table.vertex, Table.edge} ∪ leftover)) :
    table ∈ [Table.vertex, Table.edge, Table.inCounts] := by
  have old : table ∈ leftover → table ∈ Table.leftovers := fun left => few left
  simp only [Table.leftovers, Finset.mem_insert, Finset.mem_singleton] at old
  simp only [leftAlone, Finset.mem_sdiff, Finset.mem_union, Finset.mem_insert,
    Finset.mem_singleton] at member
  simp only [List.mem_cons, List.not_mem_nil, or_false]
  tauto

end Leftover

namespace Derivation

variable {options : List (String × String)} {stem : String} {plan : Plan}
  (derived : Derivation options stem plan)

theorem replay_beforeLoop (leftover : Finset String) :
    replay (beforeLoop plan.blocks) ({Table.vertex, Table.edge} ∪ leftover) =
      some (loopTables derived.described (leftAlone ({Table.vertex, Table.edge} ∪ leftover))) := by
  rw [derived.beforeLoop_eq]
  exact replay_initBlocks _ _ _ (by simp) (by simp)

/-- The three conditions on the program are enough for the loop to run again and again. -/
theorem replays (first : Block.messageCreatedFirst derived.added = true)
    (once : (derived.added.filter (·.action.createsMessage)).length = 1)
    (counted : DegreesIn (degreeTables derived.described) derived.added) : plan.Replays := by
  intro leftover few
  refine ⟨loopTables derived.described (leftAlone ({Table.vertex, Table.edge} ∪ leftover)), ?_⟩
  intro times
  rw [replay_append, derived.replay_beforeLoop leftover, derived.loopBody_eq,
    derived.fromClosing_eq, Option.bind_some]
  exact replay_replicate _ _ (derived.replay_superstep base_leftAlone (known_leftAlone few) first
    once counted) times

/-- In a loop that can be replayed the messages are not read before they are created. -/
theorem created_first_of_replays (replays : plan.Replays) :
    Block.messageCreatedFirst (derived.added ++ derived.ended.tables.transient.map dropBlock) =
      true := by
  obtain ⟨start, runs⟩ := replays ∅ (Finset.empty_subset _)
  obtain ⟨entered, combined, _, absent⟩ :=
    derived.replay_combine (known_leftAlone (Finset.empty_subset _))
  have superstep := runs 1
  rw [replay_append, derived.replay_beforeLoop, Option.bind_some, List.replicate_one,
    List.flatten_singleton, derived.loopBody_eq, derived.body_eq, replay_append, replay_append,
    combined, Option.bind_some] at superstep
  obtain ⟨after, ran, _⟩ := Option.bind_eq_some_iff.mp superstep
  exact messageCreatedFirst_of_replay _ entered after derived.created?_behind absent ran

theorem degree_of_created (table : String)
    (degree : table = Table.inCounts ∨ table = Table.outCounts)
    (created : ∃ block ∈ beforeLoop plan.blocks, block.action.created? = some table) :
    table ∈ degreeTables derived.described := by
  rw [derived.beforeLoop_eq, ← List.mem_filterMap, created_initBlocks] at created
  rcases degree with rfl | rfl <;> simpa +decide using created

theorem message_not_started : Table.message ∉ derived.startLive := by
  rw [derived.mem_startLive]
  rintro (values | degree | combined)
  · exact absurd values (by decide)
  · exact degreeTables_ne _ _ _ (by decide) degree rfl
  · exact absurd combined (by decide)

end Derivation

/-- A send that counts behind one in direction `no`, and a statement in between that reads messages. -/
def silentThenSend : List (String × String) :=
  sampleOptions "send(no, getVal())\nx = message.val > 0\nsend(out, getVal())"

/-- Take a program that sends once in a direction other than `no`, from degree tables that are
created before the loop. Its plan can be run again and again if and only if the messages are not
needed before they are created. This is so if the program has no other send; a send in direction
`no` before the one that counts lets statements read messages that are not there. -/
theorem loop_replays_iff (options : List (String × String)) (stem : String) (plan : Plan)
    (program : List Statement) (success : Plan.ofOptions options stem = .ok plan)
    (reads : Program.ofOptions options = .ok program)
    (one : (Statement.productiveWays program).length = 1) (counted : plan.DegreesCreated) :
    (plan.Replays ↔ messageCreatedFirst (behindMessageDrop (loopBody plan.blocks)) = true) ∧
      ((program.filterMap Statement.way?).length = 1 → plan.Replays) := by
  obtain ⟨derived⟩ := (ofOptions_ok_iff options stem plan).mp success
  obtain rfl : derived.statements = program := Except.ok.inj (derived.program_eq.symm.trans reads)
  have once : (derived.added.filter (·.action.createsMessage)).length = 1 := by
    rw [← one, ← derived.creates_message_length, derived.behindMessageDrop_eq, List.filter_append,
      drops_create_no_message, List.append_nil]
  have degrees : DegreesIn (degreeTables derived.described) derived.added := by
    intro block member creates table source degree
    have inside : block ∈ loopBody plan.blocks := by
      rw [derived.loopBody_eq, derived.body_eq]
      exact List.mem_append_right _ (List.mem_append_left _ member)
    exact derived.degree_of_created table degree (counted block inside creates table source degree)
  refine ⟨⟨?_, ?_⟩, ?_⟩
  · rw [derived.behindMessageDrop_eq]
    exact derived.created_first_of_replays
  · rw [derived.behindMessageDrop_eq, messageCreatedFirst_append]
    exact fun first => derived.replays first.1 once degrees
  · intro alone
    -- The only send is the one that counts, so none has direction `no`.
    have loud : ∀ way ∈ derived.statements.filterMap Statement.way?, way ≠ .none := by
      have all := List.length_filter_eq_length_iff.mp (one.trans alone.symm)
      exact fun way member => of_decide_eq_true (all way member)
    exact derived.replays (derived.run.messageCreatedFirst derived.entry_sound List.mem_cons_self
      derived.message_not_started loud) once degrees

theorem loop_replays_iff_nestedSend :
    ∃ plan, Plan.ofOptions nestedSend "scope_" = .ok plan ∧ plan.Replays := by
  have planned : (Plan.ofOptions nestedSend "scope_").toOption.map
      (fun plan => decide plan.DegreesCreated) = some true := by decide +kernel
  have sends : (Program.ofOptions nestedSend).toOption.map (·.filterMap Statement.way?) =
      some [.both] := by decide +kernel
  obtain ⟨plan, held, counted⟩ := Option.map_eq_some_iff.mp planned
  obtain ⟨program, read, ways⟩ := Option.map_eq_some_iff.mp sends
  have success := ok_of_toOption _ _ held
  have one : (Statement.productiveWays program).length = 1 := by
    rw [Statement.productiveWays, ways]
    decide
  exact ⟨plan, success, (loop_replays_iff nestedSend "scope_" plan program success
    (ok_of_toOption _ _ read) one (of_decide_eq_true counted)).2 (by rw [ways]; rfl)⟩

/-- A send in direction `no` lets the next statement read messages that the loop has dropped. -/
theorem message_read_before_created :
    ∃ plan program, Plan.ofOptions silentThenSend "scope_" = .ok plan ∧
      Program.ofOptions silentThenSend = .ok program ∧
      (Statement.productiveWays program).length = 1 ∧ plan.DegreesCreated ∧
      replay (beforeLoop plan.blocks ++ loopBody plan.blocks) {Table.vertex, Table.edge} =
        none := by
  have planned : (Plan.ofOptions silentThenSend "scope_").toOption.map
      (fun plan => decide (plan.DegreesCreated ∧ replay (beforeLoop plan.blocks ++
        loopBody plan.blocks) {Table.vertex, Table.edge} = none)) = some true := by decide +kernel
  have sends : (Program.ofOptions silentThenSend).toOption.map
      (fun program => (Statement.productiveWays program).length) = some 1 := by decide +kernel
  obtain ⟨plan, held, fails⟩ := Option.map_eq_some_iff.mp planned
  obtain ⟨program, read, one⟩ := Option.map_eq_some_iff.mp sends
  exact ⟨plan, program, ok_of_toOption _ _ held, ok_of_toOption _ _ read, one,
    of_decide_eq_true fails⟩

end Planner

end Superstep
