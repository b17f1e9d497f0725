import Superstep.Proofs.Planner.Contexts
import Superstep.Proofs.Replay
import Superstep.Proofs.Statement.Parts
import Superstep.Proofs.Text.Overlap

/-!
# The degree tables that messages are selected from

Two searches decide about a degree table. It is created before the loop if its name stands in the text
of the program, and messages are selected from it if its name stands in the content of the send once
the placeholders are filled in. Filling in brings in the name of the context, so the two can differ.
They agree exactly if no name of a degree table appears where a context is filled in, or the program
has that name anyway.
-/

namespace Superstep

open Text

def Statement.sent? : Statement → Option String
  | .send direction content =>
    if (Direction.read direction).toOption.any (· ≠ .none) then some content else none
  | _ => none

theorem Statement.sent?_mem_parts {statement : Statement} {content : String}
    (sent : statement.sent? = some content) : content ∈ statement.parts := by
  cases statement with
  | send direction sending =>
    rw [sent?] at sent
    split_ifs at sent
    rw [parts, ← Option.some.inj sent]
    exact List.mem_cons_of_mem _ List.mem_cons_self
  | beginIf | setValue | endIf | assign => cases sent

theorem Statement.names_subset_parts (statement : Statement) :
    statement.names ⊆ statement.parts := by
  cases statement <;> simp [names, parts]

namespace Expression

/-- The name of a table stands where a context is filled in: in the context, in what is before it, or
partly in the one and partly in the other. -/
def Conjured (table context content : String) : Prop :=
  ∃ before behind, content.toList = before ++ (combinedPlaceholder.toList ++ behind) ∧
    table.toList <:+: before ++ context.toList

/-- No name runs into a placeholder for the combined messages. -/
def PlaceholdersApart (content : String) : Prop :=
  ∀ before behind c, content.toList = before ++ (combinedPlaceholder.toList ++ behind) →
    before.getLast? = some c → isNameChar c = false

end Expression

namespace Planner

open Expression

section Filling

variable (incoming : Bool)

/-- The names of degree tables overlap neither with placeholders nor with what stands in their place,
but for the context. -/
theorem degreeTable_apart :
    Apart (degreeTable incoming).toList combinedPlaceholder.toList ∧
      Apart (degreeTable incoming).toList valuePlaceholder.toList ∧
      Apart (degreeTable incoming).toList ".val".toList ∧
      Apart (degreeTable incoming).toList (Table.values ++ ".val").toList := by
  cases incoming <;>
    exact ⟨NoOverlap.apart (by decide), NoOverlap.apart (by decide), NoOverlap.apart (by decide),
      NoOverlap.apart (by decide)⟩

/-- The name of a degree table stands in a content once it is filled in exactly if it stood there
before or is conjured up by the context. -/
theorem mentions_fillPlaceholders_iff (content context : String) :
    mentions (fillPlaceholders content context) (degreeTable incoming) = true ↔
      mentions content (degreeTable incoming) = true ∨
        Conjured (degreeTable incoming) context content := by
  have some : combinedPlaceholder.toList ≠ [] := by decide
  obtain ⟨combined, value, field, values⟩ := degreeTable_apart incoming
  rw [mentions_iff, mentions_iff, fillPlaceholders, String.toList_ofList,
    value.infix_replace_iff values (by decide), String.toList_append]
  constructor
  · exact infix_replace_cases context.toList field _ some content.toList
  · intro found
    by_cases plain : (degreeTable incoming).toList <:+: content.toList
    · exact combined.infix_replace some plain
    · obtain ⟨before, behind, split, touches⟩ := found.resolve_left plain
      have new : ¬ (degreeTable incoming).toList <:+: before := by
        intro old
        rw [split] at plain
        exact plain (old.trans (List.prefix_append _ _).isInfix)
      rw [split]
      refine infix_replace_of_touching context.toList "getAggregationVal(".toList ')' before behind
        (by decide) ?_ new touches
      cases incoming <;> decide

/-- The numbers of fresh names are no part of the names of degree tables. -/
theorem degree_in_numbered_iff (stem : String) (number : Nat) :
    (degreeTable incoming).toList <:+: (stem ++ toString number).toList ↔
      (degreeTable incoming).toList <:+: stem.toList := by
  have letters : (degreeTable incoming).toList.all (!·.isDigit) = true := by
    cases incoming <;> decide
  have some : (degreeTable incoming).toList ≠ [] := by cases incoming <;> decide
  rw [String.toList_append]
  apply infix_append_right_iff _ _ _ some
  intro c inNumber inName
  have letter := List.all_eq_true.mp letters c inName
  rw [FreshNames.isDigit_of_mem_toString number c inNumber] at letter
  cases letter

end Filling

/-- Messages are selected from a degree table if their content reads it, if it is the context, or if
its name stands in the content. -/
theorem Sending.degree_mem_sources_plan (context content : String) (referenced : List String)
    (incoming : Bool) :
    degreeTable incoming ∈ (Sending.plan context content referenced).sources ↔
      degreeTable incoming ∈ referenced ∨ degreeTable incoming = context ∨
        mentions content (degreeTable incoming) = true := by
  have notEdge : degreeTable incoming ≠ Table.edge := by cases incoming <;> decide
  rw [plan, mem_sources_addCounts, mem_sources_addCounts, addCounts_content, List.mem_append, mem_addNew,
    List.mem_singleton, or_iff_left notEdge]
  have different : Table.inCounts ≠ Table.outCounts := by decide
  cases incoming <;> simp [degreeTable, or_assoc, different, different.symm]

section Run

variable {start : List String} (incoming : Bool) (absent : degreeTable incoming ∉ start)

include absent

/-- From a degree table that was not created before, only a send selects whose content has its name. -/
theorem Step.degree_source_iff {state after : PlanState} {planned : Statement} {added : List Block}
    (step : Step state planned added after) (sound : Sound start state) :
    (∃ block ∈ added, block.action.createsMessage = true ∧
        degreeTable incoming ∈ block.action.sources) ↔
      ∃ content, planned.sent? = some content ∧
        mentions (fillPlaceholders content state.scope.current) (degreeTable incoming) = true := by
  have known : Table.isReserved (degreeTable incoming) = true ∧
      degreeTable incoming ≠ Table.message ∧ Table.isBase (degreeTable incoming) = false := by
    cases incoming <;> decide
  have missing : degreeTable incoming ∉ state.tables.live := by
    rw [sound.reserved _ known.1 known.2.1]
    exact absent
  cases step with
  | openOuter | close | setValue =>
    simp [Statement.sent?, Action.createsMessage, Action.produced?]
  | openInner =>
    have other := Table.ne_message_of_not_reserved _
      (FreshNames.next_not_reserved state.names state.tables)
    simp [Action.createsMessage, Action.produced?, intersection, other, Statement.sent?]
  | assign target expression scanned assignable =>
    have other := Table.ne_message_of_not_reserved target assignable
    simp [Action.createsMessage, Action.produced?, selection, other, Statement.sent?]
  | send direction content way scanned names reads =>
    have unread : degreeTable incoming ∉ scanned.referencedTables := by
      intro read
      rcases (WorkingSet.isReadable_iff _ _).mp (reads.live _ read) with live | graph
      · exact missing live
      · rw [known.2.2] at graph
        cases graph
    have elsewhere : degreeTable incoming ≠ state.scope.current :=
      fun same => missing (same ▸ sound.contexts _ List.mem_cons_self)
    have source := Sending.degree_mem_sources_plan state.scope.current
      (fillPlaceholders content state.scope.current) scanned.referencedTables incoming
    rw [or_iff_right unread, or_iff_right elsewhere] at source
    cases way <;>
      simp [sendBlock?, Sending.action?, Sending.incoming, Sending.outgoing, Sending.select,
        Listing.subSelect, Action.createsMessage, Action.produced?, Action.sources, source,
        Statement.sent?, names, Except.toOption]

/-- Over a run: some send selects from the table exactly if the content of some send names it. -/
theorem Steps.degree_source_iff {state after : PlanState} {planned : List Statement}
    {added : List Block} (run : Steps state planned added after) (sound : Sound start state) :
    (∃ block ∈ added, block.action.createsMessage = true ∧
        degreeTable incoming ∈ block.action.sources) ↔
      ∃ occurrence ∈ (nestingOf state).occurrences planned, ∃ content,
        occurrence.statement.sent? = some content ∧
          mentions (fillPlaceholders content occurrence.context) (degreeTable incoming) = true := by
  induction run with
  | done => simp [Nesting.occurrences]
  | step now _ ih =>
    have later := ih (now.sound sound)
    have here := now.degree_source_iff incoming absent sound
    simp only [List.mem_append, or_and_right, exists_or]
    rw [here, later, Nesting.occurrences, now.nesting]
    simp only [List.mem_cons, exists_eq_or_imp]
    rfl

end Run

namespace Derivation

variable {options : List (String × String)} {stem : String} {plan : Plan}
  (derived : Derivation options stem plan) (incoming : Bool)

theorem degree_created_iff :
    (∃ block ∈ Block.beforeLoop plan.blocks,
        block.action.created? = some (degreeTable incoming)) ↔
      mentions derived.described.update (degreeTable incoming) = true := by
  rw [derived.beforeLoop_eq, ← List.mem_filterMap, created_initBlocks, List.mem_cons, List.mem_cons,
    mem_degreeTables]
  cases incoming <;> simp +decide [degreeTable, Algorithm.mentions]

theorem degree_not_started
    (unnamed : mentions derived.described.update (degreeTable incoming) = false) :
    degreeTable incoming ∉ derived.startLive := by
  rw [derived.mem_startLive, mem_degreeTables]
  cases incoming <;> simp_all +decide [degreeTable, Algorithm.mentions]

/-- The statements of the program are the only place in the loop where messages are created. -/
theorem mem_added_of_createsMessage (block : Block) (member : block ∈ Block.loopBody plan.blocks)
    (creates : block.action.createsMessage = true) : block ∈ derived.added := by
  rw [derived.loopBody_eq] at member
  simp only [body, List.mem_cons, List.mem_append, List.mem_map] at member
  rcases member with rfl | rfl | statement | ⟨table, _, rfl⟩
  · exact absurd creates (by simp +decide [combineBlock, Action.createsMessage, Action.produced?])
  · cases creates
  · exact statement
  · cases creates

/-- Only sends select from the degree tables, so only their sources have to be looked at. -/
theorem degreesCreated_iff :
    plan.DegreesCreated ↔ ∀ incoming,
      (∃ block ∈ derived.added, block.action.createsMessage = true ∧
        degreeTable incoming ∈ block.action.sources) →
      mentions derived.described.update (degreeTable incoming) = true := by
  constructor
  · rintro created incoming ⟨block, member, creates, source⟩
    have inside : block ∈ Block.loopBody plan.blocks := by
      rw [derived.loopBody_eq, derived.body_eq]
      exact List.mem_append_right _ (List.mem_append_left _ member)
    have degree : degreeTable incoming = Table.inCounts ∨
        degreeTable incoming = Table.outCounts := by
      cases incoming
      · exact .inr rfl
      · exact .inl rfl
    exact (derived.degree_created_iff incoming).mp (created block inside creates _ source degree)
  · intro named block member creates table source degree
    obtain ⟨incoming, rfl⟩ : ∃ incoming, table = degreeTable incoming := by
      rcases degree with rfl | rfl
      · exact ⟨true, rfl⟩
      · exact ⟨false, rfl⟩
    have statement := derived.mem_added_of_createsMessage block member creates
    exact (derived.degree_created_iff incoming).mpr
      (named incoming ⟨block, statement, creates, source⟩)

/-- What a statement of the program is made of stands in the text of the program. -/
theorem part_infix_update (occurrence : Occurrence) (member : occurrence ∈ derived.occurrences)
    (part : String) (inside : part ∈ occurrence.statement.parts) :
    part.toList <:+: derived.described.update.toList := by
  have statement : occurrence.statement ∈ derived.statements := by
    rw [← Nesting.occurrences_statement (Nesting.start derived.described stem) derived.statements]
    exact List.mem_map_of_mem member
  exact Program.read_parts derived.read _ statement part inside

/-- A degree table is named in the text of the program, or no context conjures it up in a send. -/
theorem degree_counted_iff :
    ((∃ block ∈ derived.added, block.action.createsMessage = true ∧
        degreeTable incoming ∈ block.action.sources) →
      mentions derived.described.update (degreeTable incoming) = true) ↔
      ∀ occurrence ∈ derived.occurrences, ∀ content, occurrence.statement.sent? = some content →
        Conjured (degreeTable incoming) occurrence.context content →
          mentions derived.described.update (degreeTable incoming) = true := by
  by_cases named : mentions derived.described.update (degreeTable incoming) = true
  · simp [named]
  have absent := derived.degree_not_started incoming (Bool.eq_false_iff.mpr named)
  have sources := derived.run.degree_source_iff incoming absent derived.entry_sound
  -- No content has the name, since the program does not, so it can only be conjured up.
  have plain : ∀ occurrence ∈ derived.occurrences, ∀ content,
      occurrence.statement.sent? = some content →
        mentions content (degreeTable incoming) = false := by
    intro occurrence member content sent
    rw [Bool.eq_false_iff, ne_eq, mentions_iff]
    intro inside
    have part := derived.part_infix_update occurrence member content
      (Statement.sent?_mem_parts sent)
    exact named ((mentions_iff _ _).mpr (inside.trans part))
  rw [sources]
  constructor
  · intro unused occurrence member content sent conjured
    refine unused ⟨occurrence, member, content, sent, ?_⟩
    exact (mentions_fillPlaceholders_iff incoming content occurrence.context).mpr (.inr conjured)
  · rintro agree ⟨occurrence, member, content, sent, found⟩
    have old := plain occurrence member content sent
    rw [mentions_fillPlaceholders_iff, old, or_iff_right Bool.false_ne_true] at found
    exact agree occurrence member content sent found

/-- The name of a degree table stands in a context only if the program has it or fresh names do. -/
theorem degree_in_context (occurrence : Occurrence) (member : occurrence ∈ derived.occurrences)
    (inside : (degreeTable incoming).toList <:+: occurrence.context.toList) :
    mentions derived.described.update (degreeTable incoming) = true ∨
      mentions stem (degreeTable incoming) = true := by
  refine derived.run.contexts_hold (fun context =>
    (degreeTable incoming).toList <:+: context.toList →
      mentions derived.described.update (degreeTable incoming) = true ∨
        mentions stem (degreeTable incoming) = true) ?_ ?_ ?_ occurrence member inside
  · intro statement spelled name isName found
    have part := Program.read_parts derived.read statement spelled name
      (statement.names_subset_parts isName)
    exact .inl ((mentions_iff _ _).mpr (found.trans part))
  · intro number found
    exact .inr ((mentions_iff _ _).mpr ((degree_in_numbered_iff incoming stem number).mp found))
  · intro context isStart found
    obtain rfl : context = Table.combined := List.mem_singleton.mp isStart
    have free : mentions Table.combined (degreeTable incoming) = false := by
      cases incoming <;> decide
    rw [← mentions_iff, free] at found
    cases found

/-- If placeholders stand apart from names, then only what the program has, or fresh names have, is
conjured up. -/
theorem degree_of_conjured (occurrence : Occurrence) (member : occurrence ∈ derived.occurrences)
    (content : String) (sent : occurrence.statement.sent? = some content)
    (apart : PlaceholdersApart content)
    (conjured : Conjured (degreeTable incoming) occurrence.context content) :
    mentions derived.described.update (degreeTable incoming) = true ∨
      mentions stem (degreeTable incoming) = true := by
  obtain ⟨before, behind, split, found⟩ := conjured
  rcases List.infix_append_iff_ne_nil.mp found with inBefore | inContext |
    ⟨left, right, some, _, spelled, ends, _⟩
  · have part := derived.part_infix_update occurrence member content
      (Statement.sent?_mem_parts sent)
    rw [split] at part
    have front : before <:+: before ++ (combinedPlaceholder.toList ++ behind) :=
      (List.prefix_append _ _).isInfix
    exact .inl ((mentions_iff _ _).mpr (inBefore.trans (front.trans part)))
  · exact derived.degree_in_context incoming occurrence member inContext
  · -- The name runs into the placeholder.
    obtain ⟨earlier, rfl⟩ := ends
    obtain ⟨c, last⟩ := Option.isSome_iff_exists.mp (List.getLast?_isSome.mpr some)
    have letters : (degreeTable incoming).toList.all isNameChar = true := by
      cases incoming <;> decide
    have letter : isNameChar c = true := by
      apply List.all_eq_true.mp letters c
      rw [spelled]
      exact List.mem_append_left _ (List.mem_of_getLast? last)
    have free := apart _ _ c split (by rw [List.getLast?_append, last]; rfl)
    rw [free] at letter
    cases letter

end Derivation

/-- The degree tables that messages are selected from are created before the loop if and only if the
program has the name of every degree table that a context conjures up in the content of a send. This
is so if fresh names have no such name in them and no name runs into a placeholder in those contents.
-/
theorem degrees_created_iff (options : List (String × String)) (stem : String) (plan : Plan)
    (success : Plan.ofOptions options stem = .ok plan) :
    ∃ (derived : Derivation options stem plan) (update : String),
      options.lookup OptionKey.update.name = some update ∧
      Program.ofOptions options = .ok derived.statements ∧
      InForce derived.start derived.occurrences ∧
      (plan.DegreesCreated ↔ ∀ incoming, ∀ occurrence ∈ derived.occurrences, ∀ content,
        occurrence.statement.sent? = some content →
          Conjured (degreeTable incoming) occurrence.context content →
            mentions update (degreeTable incoming) = true) ∧
      ((∀ incoming, mentions stem (degreeTable incoming) = false) →
        (∀ occurrence ∈ derived.occurrences, ∀ content,
          occurrence.statement.sent? = some content → PlaceholdersApart content) →
        plan.DegreesCreated) := by
  obtain ⟨derived⟩ := (ofOptions_ok_iff options stem plan).mp success
  have exactly := derived.degreesCreated_iff.trans (forall_congr' derived.degree_counted_iff)
  refine ⟨derived, derived.described.update, update_of_ofOptions _ _ derived.describes,
    derived.program_eq, derived.occurrences_inForce, exactly, ?_⟩
  intro free apart
  rw [exactly]
  intro incoming occurrence member content sent conjured
  have found := derived.degree_of_conjured incoming occurrence member content sent
    (apart occurrence member content sent) conjured
  rw [free, or_iff_left Bool.false_ne_true] at found
  exact found

/-- The send of `nestedSend` selects from a degree table, which is there, and its context conjures up
no other. -/
theorem degrees_created_iff_nestedSend :
    ∃ (plan : Plan) (derived : Derivation nestedSend "scope_" plan),
      Plan.ofOptions nestedSend "scope_" = .ok plan ∧
      (∃ block ∈ Block.loopBody plan.blocks, block.action.createsMessage = true ∧
        Table.outCounts ∈ block.action.sources) ∧
      ∀ occurrence ∈ derived.occurrences, ∀ content,
        occurrence.statement.sent? = some content →
          ¬ Conjured Table.inCounts occurrence.context content := by
  have planned : (Plan.ofOptions nestedSend "scope_").toOption.map (fun plan =>
      decide (plan.DegreesCreated ∧ ∃ block ∈ Block.loopBody plan.blocks,
        block.action.createsMessage = true ∧ Table.outCounts ∈ block.action.sources)) =
      some true := by decide +kernel
  obtain ⟨plan, found, holds⟩ := Option.map_eq_some_iff.mp planned
  obtain ⟨created, selects⟩ := of_decide_eq_true holds
  have success := ok_of_toOption _ _ found
  obtain ⟨derived, update, given, _, _, exactly, _⟩ :=
    degrees_created_iff nestedSend "scope_" plan success
  refine ⟨plan, derived, success, selects, ?_⟩
  intro occurrence member content sent conjured
  have named := exactly.mp created true occurrence member content sent conjured
  have free : (nestedSend.lookup OptionKey.update.name).map (mentions · Table.inCounts) =
      some false := by decide +kernel
  rw [given, Option.map_some, Option.some.injEq] at free
  rw [show degreeTable true = Table.inCounts from rfl, free] at named
  cases named

/-- A name of a degree table comes about where a letter meets the context, or from fresh names. -/
theorem degrees_not_created :
    (∃ plan, Plan.ofOptions (sampleOptions
        "s = getVal() > 0\nif (s) \x7b\nsend(out, 'in_cntgetAggregationVal()')\n\x7d") "scope_" =
          .ok plan ∧ ¬ plan.DegreesCreated) ∧
    (∃ plan, Plan.ofOptions (sampleOptions ("s = getVal() > 0\nif (s) \x7b\nif (s) \x7b\n" ++
        "send(out, getAggregationVal())\n\x7d\n\x7d")) "in_cnts" = .ok plan ∧
          ¬ plan.DegreesCreated) := by
  have joined : (Plan.ofOptions (sampleOptions
      "s = getVal() > 0\nif (s) \x7b\nsend(out, 'in_cntgetAggregationVal()')\n\x7d")
      "scope_").toOption.map (fun plan => decide plan.DegreesCreated) = some false := by
    decide +kernel
  have fresh : (Plan.ofOptions (sampleOptions ("s = getVal() > 0\nif (s) \x7b\nif (s) \x7b\n" ++
      "send(out, getAggregationVal())\n\x7d\n\x7d")) "in_cnts").toOption.map
        (fun plan => decide plan.DegreesCreated) = some false := by decide +kernel
  obtain ⟨first, planned, missing⟩ := Option.map_eq_some_iff.mp joined
  obtain ⟨second, plannedFresh, missingFresh⟩ := Option.map_eq_some_iff.mp fresh
  exact ⟨⟨first, ok_of_toOption _ _ planned, of_decide_eq_false missing⟩,
    ⟨second, ok_of_toOption _ _ plannedFresh, of_decide_eq_false missingFresh⟩⟩

end Planner

end Superstep
