import Superstep.Proofs.Planner.Contexts
import Superstep.Proofs.Planner.Liveness
import Superstep.Proofs.Token.Joining

/-!
# The tables that selects refer to

The texts of a select are put together from an expression, the context and fixed words. They can be
read again, and every vertex table that they refer to is a table that the select selects from. The
context is a name and exists, because every context is the table of combined messages, a condition
of the program or a fresh name.
-/

namespace Superstep

theorem mem_foldl_addNew (items new : List String) (item : String) :
    item ∈ new.foldl addNew items ↔ item ∈ items ∨ item ∈ new := by
  induction new generalizing items with
  | nil => simp
  | cons first others ih => rw [List.foldl_cons, ih, mem_addNew, List.mem_cons, or_assoc]

theorem Scanned.mem_referencedTables (scanned : Scanned) (table : String) :
    table ∈ scanned.referencedTables ↔
      ∃ token ∈ scanned.tokens, token.valueTable? = some table := by
  rw [referencedTables, mem_foldl_addNew, List.mem_filterMap]
  simp

theorem Token.valueTable?_qualified (table field other : String) :
    (Token.qualified table field).valueTable? = some other ↔
      (field = "id" ∨ field = "val") ∧ table = other := by
  simp [valueTable?]

namespace Expression

/-- The text can be read, and each table whose vertex rows it refers to is one of `tables`. -/
def Binds (tables : List String) (text : String) : Prop :=
  ∃ scanned, scan text = .ok scanned ∧
    ∀ token ∈ scanned.tokens, ∀ table, token.valueTable? = some table → table ∈ tables

variable {tables : List String}

theorem binds_iff (text : String) :
    Binds tables text ↔ ∃ tokens, Munch text.toList tokens ∧
      ∀ token ∈ tokens, ∀ table, token.valueTable? = some table → table ∈ tables := by
  constructor
  · rintro ⟨scanned, scans, bound⟩
    exact ⟨scanned.tokens, (scan_tokens_iff _ _).mp ⟨scanned, scans, rfl⟩, bound⟩
  · rintro ⟨tokens, munch, bound⟩
    obtain ⟨scanned, scans, rfl⟩ := (scan_tokens_iff _ _).mpr munch
    exact ⟨scanned, scans, bound⟩

theorem Binds.mono {more : List String} {text : String} (binds : Binds tables text)
    (subset : tables ⊆ more) : Binds more text := by
  obtain ⟨scanned, scans, bound⟩ := binds
  exact ⟨scanned, scans, fun token member table refers => subset (bound token member table refers)⟩

/-- Texts that refer to no other tables still do so with a space between them. -/
theorem Binds.append {first second : String} (binds : Binds tables first)
    (later : Binds tables second) : Binds tables (first ++ " " ++ second) := by
  obtain ⟨before, munch, bound⟩ := (binds_iff first).mp binds
  obtain ⟨behind, munchLater, boundLater⟩ := (binds_iff second).mp later
  refine (binds_iff _).mpr ⟨before ++ behind, ?_, ?_⟩
  · have joined := munch.append munchLater
    simpa using joined
  · intro token member
    rcases List.mem_append.mp member with early | late
    · exact bound token early
    · exact boundLater token late

theorem binds_token (token : Token) (formed : token.WellFormed)
    (bound : ∀ table, token.valueTable? = some table → table ∈ tables) :
    Binds tables token.text := by
  refine (binds_iff _).mpr ⟨[token], .alone token formed, ?_⟩
  intro other member
  rwa [List.mem_singleton.mp member]

theorem Binds.of_scan {text : String} {scanned : Scanned} (scans : scan text = .ok scanned)
    (subset : scanned.referencedTables ⊆ tables) : Binds tables text := by
  refine ⟨scanned, scans, ?_⟩
  intro token member table refers
  exact subset ((scanned.mem_referencedTables table).mpr ⟨token, member, refers⟩)

/-- What an expression refers to is a name, as the scanner took it from the text. -/
theorem isName_of_referenced {text table : String} {scanned : Scanned}
    (scans : scan text = .ok scanned) (member : table ∈ scanned.referencedTables) :
    Text.isName table.toList = true := by
  have munch := (scan_tokens_iff text _).mp ⟨scanned, scans, rfl⟩
  obtain ⟨token, inText, refers⟩ := (scanned.mem_referencedTables table).mp member
  have formed := munch.formed token inText
  cases token with
  | qualified name field =>
    obtain ⟨_, rfl⟩ := (Token.valueTable?_qualified _ _ _).mp refers
    exact formed.1
  | _ => cases refers

theorem binds_field (table field : String) (named : Text.isName table.toList = true)
    (isField : Text.isName field.toList = true)
    (bound : field = "id" ∨ field = "val" → table ∈ tables) :
    Binds tables (table ++ "." ++ field) := by
  refine binds_token (.qualified table field) ⟨named, isField⟩ ?_
  intro other refers
  obtain ⟨isRow, rfl⟩ := (Token.valueTable?_qualified _ _ _).mp refers
  exact bound isRow

/-- A word that refers to no vertex rows can stand anywhere. -/
theorem binds_word (word : Token) (formed : word.WellFormed) (silent : word.valueTable? = none) :
    Binds tables word.text := by
  refine binds_token word formed ?_
  intro table refers
  rw [silent] at refers
  cases refers

/-- Texts with such a word between them. -/
theorem Binds.joined {left right : String} (binds : Binds tables left) (word : Token)
    (formed : word.WellFormed) (silent : word.valueTable? = none) (later : Binds tables right) :
    Binds tables (left ++ (" " ++ word.text ++ " ") ++ right) := by
  have texts := (binds.append (binds_word word formed silent)).append later
  simpa [String.append_assoc] using texts

theorem Binds.label {value : String} (binds : Binds tables value) (label : String)
    (isLabel : isIdentifier label = true) : Binds tables (value ++ " AS " ++ label) :=
  have isWord : isIdentifier "AS" = true := by decide
  binds.joined (.ident "AS") isWord rfl (binds_word (.ident label) isLabel rfl)

theorem Binds.equals {left right : String} (binds : Binds tables left)
    (later : Binds tables right) : Binds tables (left ++ " = " ++ right) :=
  binds.joined (.operator .equal) trivial rfl later

theorem Binds.and {left right : String} (binds : Binds tables left)
    (later : Binds tables right) : Binds tables (left ++ " AND " ++ right) :=
  binds.joined (.keyword .and) trivial rfl later

end Expression

namespace Action

def selects : Action → List Select
  | .select query => [query]
  | .union pair => [pair.left.select, pair.right.select]
  | _ => []

/-- A select reads nothing that its action does not require. -/
theorem sources_of_mem_selects (action : Action) (select : Select)
    (member : select ∈ action.selects) : select.sources ⊆ action.required := by
  cases action with
  | select query =>
    obtain rfl := List.mem_singleton.mp member
    exact List.Subset.refl _
  | union pair =>
    rcases List.mem_cons.mp member with rfl | right
    · exact List.subset_append_left _ _
    · obtain rfl := List.mem_singleton.mp right
      exact List.subset_append_right _ _
  | _ => cases member

end Action

/-- The number of selects that messages along a direction take. -/
def Direction.selectCount : Direction → Nat
  | .incoming | .outgoing => 1
  | .both => 2
  | .none => 0

def Statement.selectCount? : Statement → Option Nat
  | .assign _ _ => some 1
  | .send direction _ => (Direction.read direction).toOption.map Direction.selectCount
  | .beginIf _ | .setValue _ | .endIf => none

namespace Planner

open Expression

/-- The texts of a select refer to the tables that it selects from, and these can be read, degree
tables aside. -/
structure Bound (tables : WorkingSet) (select : Select) : Prop where
  binds : ∀ text ∈ select.predicate :: select.columns, Binds select.sources text
  live : ∀ table ∈ select.sources,
    table = Table.inCounts ∨ table = Table.outCounts ∨ tables.isReadable table = true

namespace Sending

/-- What holds of a send however many degree tables have been added to it. -/
structure Ready (sending : Sending) : Prop where
  named : Text.isName sending.context.toList = true
  context : sending.context ∈ sending.sources
  edges : Table.edge ∈ sending.sources
  content : Binds sending.sources sending.content
  -- Tables that are added later are selected from as well, so this is said of longer lists too.
  joins : ∀ tables, sending.sources ⊆ tables → ∀ front, Binds tables front →
    Binds tables (front ++ sending.degreeJoin)

/-- A degree table is added together with the condition that joins it. -/
theorem Ready.addCounts {sending : Sending} (ready : sending.Ready) (counts : String)
    (isCounts : Text.isName counts.toList = true) : (sending.addCounts counts).Ready := by
  unfold Sending.addCounts
  split
  · have grows : sending.sources ⊆ addNew sending.sources counts :=
      fun _ member => (mem_addNew _ _ _).mpr (.inl member)
    refine ⟨ready.named, grows ready.context, grows ready.edges, ready.content.mono grows, ?_⟩
    intro tables subset front binds
    have before := ready.joins tables (List.Subset.trans grows subset) front binds
    have counted : Binds tables (counts ++ "." ++ "id") :=
      binds_field _ _ isCounts (by decide) fun _ => subset ((mem_addNew _ _ _).mpr (.inr rfl))
    have joined : Binds tables (sending.context ++ "." ++ "id") :=
      binds_field _ _ ready.named (by decide) fun _ => subset (grows ready.context)
    have clause := before.and (counted.equals joined)
    simpa [String.append_assoc] using clause
  · exact ready

/-- A send is ready if its content refers only to the tables that were found in it. -/
theorem ready_plan (context content : String) (referenced : List String)
    (named : Text.isName context.toList = true) (reads : Binds referenced content) :
    (Sending.plan context content referenced).Ready := by
  have first : (Sending.mk context content (addNew referenced context ++ [Table.edge]) "").Ready := by
    refine ⟨named, ?_, ?_, reads.mono ?_, ?_⟩
    · exact List.mem_append_left _ ((mem_addNew _ _ _).mpr (.inr rfl))
    · exact List.mem_append_right _ (List.mem_singleton.mpr rfl)
    · exact fun _ member => List.mem_append_left _ ((mem_addNew _ _ _).mpr (.inl member))
    · intro tables _ front binds
      rwa [String.append_empty]
  exact (first.addCounts Table.outCounts (by decide)).addCounts Table.inCounts (by decide)

/-- Either select of a send refers only to tables that it selects from. -/
theorem Ready.select_binds {sending : Sending} (ready : sending.Ready) (recipient sender : String)
    (target : Option String) (isRecipient : Text.isName recipient.toList = true)
    (isSender : Text.isName sender.toList = true) :
    ∀ text ∈ (sending.select recipient sender target).predicate ::
      (sending.select recipient sender target).columns, Binds sending.sources text := by
  have ofEdge : ∀ field, Text.isName field.toList = true →
      Binds sending.sources (Table.edge ++ "." ++ field) := by
    intro field isField
    exact binds_field _ _ (by decide) isField fun _ => ready.edges
  have joined : Binds sending.sources (sending.context ++ "." ++ "id") :=
    binds_field _ _ ready.named (by decide) fun _ => ready.context
  have predicate := ready.joins _ (List.Subset.refl _) _ ((ofEdge sender isSender).equals joined)
  have recipients := (ofEdge recipient isRecipient).label "id" (by decide)
  have contents := ready.content.label "val" (by decide)
  intro text member
  simp only [select, List.mem_cons, List.not_mem_nil, or_false] at member
  rcases member with rfl | rfl | rfl
  · simpa [String.append_assoc] using predicate
  · simpa [String.append_assoc] using recipients
  · simpa [String.append_assoc] using contents

/-- Whatever the direction, the selects of a send refer to the tables of the send. -/
theorem Ready.action?_binds {sending : Sending} (ready : sending.Ready) (listing : Listing)
    (way : Direction) (action : Action) (acts : sending.action? listing way = some action) :
    ∀ select ∈ action.selects, ∀ text ∈ select.predicate :: select.columns,
      Binds select.sources text := by
  have incoming := fun target => ready.select_binds "src" "dest" target (by decide) (by decide)
  have outgoing := fun target => ready.select_binds "dest" "src" target (by decide) (by decide)
  intro select member
  cases way with
  | none => cases acts
  | incoming =>
    cases acts
    obtain rfl := List.mem_singleton.mp member
    exact incoming _
  | outgoing =>
    cases acts
    obtain rfl := List.mem_singleton.mp member
    exact outgoing _
  | both =>
    cases acts
    rcases List.mem_cons.mp member with rfl | right
    · exact incoming _
    · obtain rfl := List.mem_singleton.mp right
      exact outgoing _

end Sending

/-- The contexts are names, and so are fresh names. -/
structure Named (state : PlanState) : Prop where
  stem : Text.isName state.names.stem.toList = true
  contexts : ∀ table ∈ state.scope.current :: state.scope.enclosing,
    Text.isName table.toList = true

/-- The contexts stay names: a condition is an identifier, and a fresh name is one too. -/
theorem Step.named {state after : PlanState} {planned : Statement} {added : List Block}
    (step : Step state planned added after)
    (identifiers : ∀ name ∈ planned.names, isIdentifier name = true) (named : Named state) :
    Named after := by
  refine ⟨step.stem ▸ named.stem, ?_⟩
  refine step.contexts_hold (fun table => Text.isName table.toList = true) ?_ ?_ named.contexts
  · intro name member
    exact (Scan.word_of_identifier _ (identifiers name member)).1
  · intro number
    exact isName_fresh state.names number named.stem

theorem Steps.named {state after : PlanState} {planned : List Statement} {added : List Block}
    (run : Steps state planned added after)
    (identifiers : ∀ statement ∈ planned, ∀ name ∈ statement.names, isIdentifier name = true)
    (named : Named state) : Named after := by
  induction run with
  | done => exact named
  | step now _ ih =>
    rw [List.forall_mem_cons] at identifiers
    exact ih identifiers.2 (now.named identifiers.1 named)

/-- A select that takes the id of one table and the value of another. -/
theorem binds_columns {tables : List String} (keys values : String) (columns : List String)
    (isColumns : columns = [keys ++ ".id AS id", values ++ ".val AS val"])
    (keysNamed : Text.isName keys.toList = true) (valuesNamed : Text.isName values.toList = true)
    (hasKeys : keys ∈ tables) (hasValues : values ∈ tables) :
    ∀ text ∈ columns, Binds tables text := by
  have ids : Binds tables (keys ++ "." ++ "id" ++ " AS " ++ "id") :=
    (binds_field _ _ keysNamed (by decide) fun _ => hasKeys).label "id" (by decide)
  have vals : Binds tables (values ++ "." ++ "val" ++ " AS " ++ "val") :=
    (binds_field _ _ valuesNamed (by decide) fun _ => hasValues).label "val" (by decide)
  intro text member
  simp only [isColumns, List.mem_cons, List.not_mem_nil, or_false] at member
  rcases member with rfl | rfl
  · simpa [String.append_assoc] using ids
  · simpa [String.append_assoc] using vals

/-- Every text of every select that a statement becomes refers only to the tables of the select. -/
theorem Step.binds {state after : PlanState} {planned : Statement} {added : List Block}
    (step : Step state planned added after)
    (identifiers : ∀ name ∈ planned.names, isIdentifier name = true) (named : Named state)
    (block : Block) (member : block ∈ added) :
    ∀ select ∈ block.action.selects, ∀ text ∈ select.predicate :: select.columns,
      Binds select.sources text := by
  have context := named.contexts _ List.mem_cons_self
  cases step with
  | openOuter | close => cases member
  | setValue =>
    obtain rfl := List.mem_singleton.mp member
    intro select inside
    cases inside
  | openInner condition =>
    obtain rfl := List.mem_singleton.mp member
    have isCondition := (Scan.word_of_identifier _ (identifiers _ List.mem_cons_self)).1
    intro select inside
    obtain rfl := List.mem_singleton.mp inside
    rw [List.forall_mem_cons]
    refine ⟨?_, ?_⟩
    · exact (binds_iff _).mpr ⟨[], .done [] rfl, by simp⟩
    · exact binds_columns _ _ _ rfl context isCondition List.mem_cons_self
        (List.mem_cons_of_mem _ List.mem_cons_self)
  | send direction content way scanned names reads =>
    have ready := Sending.ready_plan _ _ _ context (.of_scan reads.scans (List.Subset.refl _))
    exact ready.action?_binds _ _ _ (mem_sendBlock? _ _ _ _ _ member)
  | assign target expression scanned assignable new some reads =>
    obtain rfl := List.mem_singleton.mp member
    have isSource : Text.isName
        (rowSource state.scope scanned.referencedTables).toList = true := by
      rcases rowSource_mem state.scope scanned.referencedTables with isContext | read
      · rw [isContext]
        exact context
      · exact isName_of_referenced reads.scans read
    intro select inside
    obtain rfl := List.mem_singleton.mp inside
    rw [List.forall_mem_cons]
    refine ⟨?_, ?_⟩
    · exact .of_scan reads.scans fun _ read => (mem_addNew _ _ _).mpr (.inl read)
    · exact binds_columns _ _ _ rfl isSource isSource ((mem_addNew _ _ _).mpr (.inr rfl))
        ((mem_addNew _ _ _).mpr (.inr rfl))

/-- An assignment becomes one select, and a send one for each way that it goes. -/
theorem Step.selectCount {state after : PlanState} {planned : Statement} {added : List Block}
    (step : Step state planned added after) (count : Nat)
    (counts : planned.selectCount? = some count) :
    (added.flatMap (·.action.selects)).length = count := by
  cases step with
  | openOuter | openInner | close | setValue => cases counts
  | send direction content way scanned names =>
    simp only [Statement.selectCount?, names, Except.toOption, Option.map_some,
      Option.some.injEq] at counts
    rw [← counts]
    cases way <;> rfl
  | assign => exact Option.some.inj counts

/-- The selects of a statement are bound where the statement is planned. -/
theorem Step.bound {start : List String} {state after : PlanState} {planned : Statement}
    {added : List Block} (step : Step state planned added after)
    (identifiers : ∀ name ∈ planned.names, isIdentifier name = true) (named : Named state)
    (sound : Sound start state) (values : Table.values ∈ start) (block : Block)
    (member : block ∈ added) : ∀ select ∈ block.action.selects, Bound state.tables select := by
  intro select inside
  refine ⟨step.binds identifiers named block member select inside, ?_⟩
  intro table source
  have required := block.action.sources_of_mem_selects select inside source
  have live := (sound.reserved Table.values (by decide) (by decide)).mpr values
  rcases step.required_readable (sound.contexts _ List.mem_cons_self) live block member table
    required with readable | ⟨_, _, incoming | outgoing⟩
  · exact .inr (.inr readable)
  · exact .inl incoming
  · exact .inr (.inl outgoing)

namespace Derivation

variable {options : List (String × String)} {stem : String} {plan : Plan}
  (derived : Derivation options stem plan)

/-- At every place of the program there is the state that the statements before it lead to, in which
the statement at that place is planned. -/
theorem step_at (before later : List Statement) (current : Statement)
    (program : derived.statements = before ++ current :: later) :
    ∃ state next early added, Steps derived.start before early state ∧
      Step state current added next ∧ next.listing.blocks <+: plan.blocks := by
  have run : Steps derived.start (before ++ current :: later) derived.added derived.ended :=
    program ▸ derived.run
  obtain ⟨state, early, rest, front, back, _⟩ := run.split
  cases back with
  | step now behind =>
    refine ⟨state, _, early, _, front, now, ?_⟩
    rw [derived.result]
    refine List.IsPrefix.trans ?_ (List.prefix_append _ _)
    refine List.IsPrefix.trans ?_ (List.prefix_append _ _)
    rw [behind.listing]
    exact List.prefix_append _ _

end Derivation

/-- Every statement of a program is planned in the state that the statements before it lead to. The
selects that it becomes refer only to tables that they select from, and these can be read in that
state, degree tables aside. -/
theorem selects_bound_and_live (options : List (String × String)) (stem : String) (plan : Plan)
    (named : Text.isName stem.toList = true) (success : Plan.ofOptions options stem = .ok plan) :
    ∃ derived : Derivation options stem plan, ∀ before current later,
      Program.ofOptions options = .ok (before ++ current :: later) →
      ∃ state next added, (statements before).run derived.start = .ok () state ∧
        (statement current).run state = .ok () next ∧
        next.listing.blocks = state.listing.blocks ++ added ∧
        next.listing.blocks <+: plan.blocks ∧
        (∀ count, current.selectCount? = some count →
          (added.flatMap (·.action.selects)).length = count) ∧
        ∀ block ∈ added, ∀ select ∈ block.action.selects, Bound state.tables select := by
  obtain ⟨derived⟩ := (ofOptions_ok_iff options stem plan).mp success
  refine ⟨derived, ?_⟩
  intro before current later program
  have same : derived.statements = before ++ current :: later :=
    Except.ok.inj (derived.program_eq.symm.trans program)
  obtain ⟨state, next, early, added, front, now, within⟩ :=
    derived.step_at before later current same
  have identifiers : ∀ statement ∈ before ++ current :: later, ∀ name ∈ statement.names,
      isIdentifier name = true := by
    rw [← same]
    exact Program.read_names derived.read
  have combined : Text.isName Table.combined.toList = true := by decide
  have started : Named derived.start := by
    refine ⟨named, ?_⟩
    intro table member
    rw [List.mem_singleton.mp member]
    exact combined
  have reached : Named state :=
    front.named (fun _ member => identifiers _ (List.mem_append_left _ member)) started
  have sound : Sound derived.startLive state :=
    Steps.preserves (Sound derived.startLive) (fun _ _ _ _ step => step.sound) front
      derived.entry_sound
  have values : Table.values ∈ derived.startLive := (derived.mem_startLive _).mpr (.inl rfl)
  have ownNames := identifiers current (List.mem_append_right _ List.mem_cons_self)
  refine ⟨state, next, added, ?_, ?_, ?_, within, now.selectCount, ?_⟩
  · exact (statements_ok_iff _ _ _ _).mpr ⟨early, front⟩
  · exact (statement_ok_iff _ _ _).mpr ⟨added, now⟩
  · rw [now.listing]
  · exact now.bound ownNames reached sound values

/-- In the innermost scope of `nestedSend`, whose context has a fresh name, both sides of the union
are bound. -/
theorem selects_bound_and_live_nestedSend :
    ∃ plan, Plan.ofOptions nestedSend "scope_" = .ok plan ∧
      ∃ (state : PlanState) (added : List Block),
        (added.flatMap (·.action.selects)).length = 2 ∧
        ∀ block ∈ added, ∀ select ∈ block.action.selects, Bound state.tables select := by
  have planned : (Plan.ofOptions nestedSend "scope_").toOption.isSome = true := by decide +kernel
  obtain ⟨plan, found⟩ := Option.isSome_iff_exists.mp planned
  have success := ok_of_toOption _ _ found
  obtain ⟨_, everywhere⟩ := selects_bound_and_live nestedSend "scope_" plan (by decide) success
  obtain ⟨state, _, added, _, _, _, _, count, bound⟩ := everywhere
    [.assign "a" "getVal() > 0", .beginIf "a", .beginIf "a"]
    (.send "all" "getVal() / out_cnts.cnt") [.endIf, .endIf] (by decide +kernel)
  exact ⟨plan, success, state, added, count 2 (by decide), bound⟩

end Planner

end Superstep
