import Superstep.Proofs.Planner.Layout

/-!
# The tables that statements use

What the blocks of a statement need and create, in terms of the working set. A block needs tables
that can be read, and a degree table for messages at most; it creates a table that is not there yet.
The contexts of all open scopes stay in the working set.
-/

namespace Superstep

namespace Planner

theorem Sending.mem_sources_addCounts (sending : Sending) (counts table : String) :
    table ∈ (sending.addCounts counts).sources ↔
      table ∈ sending.sources ∨ Text.mentions sending.content counts = true ∧ table = counts := by
  unfold addCounts
  split_ifs with named
  · rw [mem_addNew, and_iff_right named]
  · simp [named]

/-- A send selects from the tables that its content reads, its context, the edges and the degree
tables. -/
theorem Sending.mem_sources_plan (context content table : String) (referenced : List String)
    (member : table ∈ (Sending.plan context content referenced).sources) :
    table ∈ referenced ∨ table = context ∨ table = Table.edge ∨ table = Table.inCounts ∨
      table = Table.outCounts := by
  rcases (mem_sources_addCounts _ _ _).mp member with outer | ⟨_, isIn⟩
  · rcases (mem_sources_addCounts _ _ _).mp outer with plain | ⟨_, isOut⟩
    · simp only [List.mem_append, mem_addNew, List.mem_singleton] at plain
      rcases plain with (read | isContext) | isEdge
      · exact .inl read
      · exact .inr (.inl isContext)
      · exact .inr (.inr (.inl isEdge))
    · exact .inr (.inr (.inr (.inr isOut)))
  · exact .inr (.inr (.inr (.inl isIn)))

/-- What a send becomes creates the message table from the tables of the send. -/
theorem Sending.action?_spec (sending : Sending) (listing : Listing) (way : Direction)
    (action : Action) (acts : sending.action? listing way = some action) :
    action.produced? = some Table.message ∧ action.required = action.sources ∧
      ∀ table ∈ action.sources, table ∈ sending.sources := by
  cases way with
  | none => cases acts
  | incoming | outgoing =>
    cases acts
    exact ⟨rfl, rfl, fun _ member => member⟩
  | both =>
    cases acts
    refine ⟨rfl, rfl, ?_⟩
    intro table member
    rcases List.mem_append.mp member with left | right
    · exact left
    · exact right

theorem mem_sendBlock? (state : PlanState) (way : Direction) (content : String) (scanned : Scanned)
    (block : Block) (member : block ∈ (sendBlock? state way content scanned).toList) :
    (Sending.plan state.scope.current content scanned.referencedTables).action? state.listing way =
      some block.action := by
  obtain ⟨action, acts, rfl⟩ := Option.map_eq_some_iff.mp (Option.mem_toList.mp member)
  exact acts

theorem rowSource_mem (scope : Scope) (tables : List String) :
    rowSource scope tables = scope.current ∨ rowSource scope tables ∈ tables := by
  unfold rowSource
  split
  · split
    · exact .inr (List.mem_singleton.mpr rfl)
    · exact .inl rfl
  · exact .inl rfl

section Step

variable {state after : PlanState} {planned : Statement} {added : List Block}
  (step : Step state planned added after)

include step

theorem Step.added_cases : added = [] ∨ ∃ block, added = [block] := by
  cases step with
  | openOuter | close => exact .inl rfl
  | send direction content way scanned =>
    cases sendBlock? state way (Expression.fillPlaceholders content state.scope.current)
        scanned with
    | none => exact .inl rfl
    | some block => exact .inr ⟨block, rfl⟩
  | openInner | setValue | assign => exact .inr ⟨_, rfl⟩

/-- A block needs tables that can be read. Only a block that creates messages also takes a degree
table that the working set may not have. -/
theorem Step.required_readable (context : state.scope.current ∈ state.tables.live)
    (values : Table.values ∈ state.tables.live) (block : Block) (member : block ∈ added)
    (table : String) (required : table ∈ block.action.required) :
    state.tables.isReadable table = true ∨
      block.action.createsMessage = true ∧ table ∈ block.action.sources ∧
        (table = Table.inCounts ∨ table = Table.outCounts) := by
  have readable : ∀ other, other ∈ state.tables.live → state.tables.isReadable other = true :=
    fun other live => (WorkingSet.isReadable_iff _ _).mpr (.inl live)
  cases step with
  | openOuter | close => cases member
  | openInner condition notGraph live =>
    obtain rfl := List.mem_singleton.mp member
    left
    rcases List.mem_cons.mp required with rfl | rest
    · exact readable _ context
    · exact List.mem_singleton.mp rest ▸ readable _ live
  | setValue =>
    obtain rfl := List.mem_singleton.mp member
    left
    rcases List.mem_cons.mp required with rfl | rest
    · exact readable _ values
    · exact List.mem_singleton.mp rest ▸ readable _ context
  | send direction content way scanned names reads =>
    obtain ⟨creates, same, sources⟩ :=
      Sending.action?_spec _ _ _ _ (mem_sendBlock? _ _ _ _ _ member)
    rw [same] at required
    -- The content is searched for the names of the degree tables, which need not be live.
    rcases Sending.mem_sources_plan _ _ _ _ (sources table required) with read | rfl | rfl | degree
    · exact .inl (reads.live table read)
    · exact .inl (readable _ context)
    · exact .inl ((WorkingSet.isReadable_iff _ _).mpr (.inr (by decide)))
    · exact .inr ⟨decide_eq_true creates, required, degree⟩
  | assign target expression scanned assignable new some reads =>
    obtain rfl := List.mem_singleton.mp member
    left
    rcases (mem_addNew _ _ _).mp required with read | rfl
    · exact reads.live table read
    · rcases rowSource_mem state.scope scanned.referencedTables with isContext | read
      · rw [isContext]
        exact readable _ context
      · exact reads.live _ read

/-- A block creates the message table, or a table that is new and that plans do not know. -/
theorem Step.created_new (block : Block) (member : block ∈ added) (table : String)
    (creates : block.action.produced? = some table) :
    table = Table.message ∨ Table.isReserved table = false ∧ table ∉ state.tables.live := by
  cases step with
  | openOuter | close => cases member
  | setValue =>
    obtain rfl := List.mem_singleton.mp member
    cases creates
  | openInner =>
    obtain rfl := List.mem_singleton.mp member
    cases creates
    exact .inr ⟨FreshNames.next_not_reserved _ _, FreshNames.next_not_live _ _⟩
  | send =>
    obtain ⟨message, _⟩ := Sending.action?_spec _ _ _ _ (mem_sendBlock? _ _ _ _ _ member)
    rw [message] at creates
    exact .inl (Option.some.inj creates).symm
  | assign target expression scanned assignable new =>
    obtain rfl := List.mem_singleton.mp member
    cases creates
    exact .inr ⟨assignable, new⟩

/-- The working set grows by what the blocks create. The message table may come without a block. -/
theorem Step.mem_live (table : String) (other : table ≠ Table.message) :
    table ∈ after.tables.live ↔
      table ∈ state.tables.live ∨ ∃ block ∈ added, block.action.produced? = some table := by
  cases step with
  | openOuter | close | setValue => simp [Action.produced?]
  | openInner | assign =>
    simp [mem_addNew, Action.produced?, intersection, selection, eq_comm]
  | send direction content way scanned =>
    rw [mem_addNew, or_iff_left other]
    refine ⟨.inl, ?_⟩
    rintro (live | ⟨block, member, creates⟩)
    · exact live
    · obtain ⟨message, _⟩ := Sending.action?_spec _ _ _ _ (mem_sendBlock? _ _ _ _ _ member)
      rw [message] at creates
      exact absurd (Option.some.inj creates).symm other

end Step

/-- What the statements of a program keep. -/
structure Sound (start : List String) (state : PlanState) : Prop where
  /-- The tables that plans know come and go outside of the program, the messages aside. -/
  reserved : ∀ table, Table.isReserved table = true → table ≠ Table.message →
    (table ∈ state.tables.live ↔ table ∈ start)
  contexts : ∀ table ∈ state.scope.current :: state.scope.enclosing, table ∈ state.tables.live

/-- Each statement keeps the invariant of the working set. -/
theorem Step.sound {start : List String} {state after : PlanState} {planned : Statement}
    {added : List Block} (step : Step state planned added after) (sound : Sound start state) :
    Sound start after := by
  have grows : ∀ table, table ∈ state.tables.live → table ∈ after.tables.live := by
    intro table live
    cases step with
    | openOuter | close | setValue => exact live
    | openInner | send | assign => exact (mem_addNew _ _ _).mpr (.inl live)
  refine ⟨?_, ?_⟩
  · intro table known other
    rw [← sound.reserved table known other, step.mem_live table other, or_iff_left]
    rintro ⟨block, member, creates⟩
    rcases step.created_new block member table creates with message | ⟨free, _⟩
    · exact other message
    · rw [known] at free
      cases free
  · intro table member
    cases step with
    | openOuter condition _ live =>
      rcases List.mem_cons.mp member with rfl | outer
      · exact live
      · exact sound.contexts table outer
    | openInner =>
      rcases List.mem_cons.mp member with rfl | outer
      · exact (mem_addNew _ _ _).mpr (.inr rfl)
      · exact grows table (sound.contexts table outer)
    | close scope enclosed =>
      refine sound.contexts table (List.mem_cons_of_mem _ ?_)
      rw [enclosed]
      exact member
    | setValue | send | assign => exact grows table (sound.contexts table member)

namespace Derivation

variable {options : List (String × String)} {stem : String} {plan : Plan}
  (derived : Derivation options stem plan)

/-- The tables of the working set when the program starts. -/
def startLive : List String := Table.values :: degreeTables derived.described ++ [Table.combined]

theorem mem_startLive (table : String) :
    table ∈ derived.startLive ↔
      table = Table.values ∨ table ∈ degreeTables derived.described ∨ table = Table.combined := by
  simp [startLive]

theorem entry_sound : Sound derived.startLive
    (entry derived.described derived.loopEnd { stem } derived.message derived.aggregate) := by
  refine ⟨fun _ _ _ => Iff.rfl, ?_⟩
  intro table member
  rw [List.mem_singleton.mp member]
  exact List.mem_append_right _ (List.mem_singleton.mpr rfl)

theorem ended_sound : Sound derived.startLive derived.ended :=
  Steps.preserves (Sound derived.startLive) (fun _ _ _ _ step => step.sound) derived.run
    derived.entry_sound

/-- What is dropped at the end of the loop are the combined messages and tables that plans do not
know. -/
theorem mem_transient (table : String) (member : table ∈ derived.ended.tables.transient) :
    table = Table.combined ∨ Table.isReserved table = false := by
  obtain ⟨live, dropped⟩ := (WorkingSet.mem_transient _ _).mp member
  by_cases known : Table.isReserved table = true
  · have other : table ≠ Table.message := by
      rintro rfl
      exact absurd dropped (by decide)
    have started := (derived.ended_sound.reserved table known other).mp live
    rcases (derived.mem_startLive table).mp started with rfl | degree | isCombined
    · exact absurd dropped (by decide)
    · rw [degreeTables_protected _ _ degree] at dropped
      cases dropped
    · exact .inl isCombined
  · exact .inr (Bool.not_eq_true _ ▸ known)

end Derivation

end Planner

end Superstep
