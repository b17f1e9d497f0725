import Superstep.Proofs.Planner.Layout

/-!
# The tables of a superstep are dropped

The transient tables of the working set are, in order, the tables that the blocks so far have
created and that are not protected. Every rule of planning keeps this, so what is dropped at the end
of the loop is what the loop has created.
-/

namespace Superstep

/-- The tables that the blocks create and that do not outlive a superstep, in order. -/
def Block.transientTargets (blocks : List Block) : List String :=
  (blocks.filterMap (·.action.produced?)).filter (!Table.isProtected ·)

namespace WorkingSet

theorem transient_addNew_protected (live : List String) (table : String)
    (kept : Table.isProtected table = true) :
    (⟨addNew live table⟩ : WorkingSet).transient = (⟨live⟩ : WorkingSet).transient := by
  unfold addNew
  split
  · rfl
  · simp [transient, kept]

theorem transient_addNew_new (live : List String) (table : String) (new : table ∉ live)
    (dropped : Table.isProtected table = false) :
    (⟨addNew live table⟩ : WorkingSet).transient = (⟨live⟩ : WorkingSet).transient ++ [table] := by
  rw [addNew_of_not_mem live table new]
  simp [transient, dropped]

theorem protected_of_mem_dropTransient (tables : WorkingSet) (table : String)
    (member : table ∈ tables.dropTransient.live) : Table.isProtected table = true :=
  (List.mem_filter.mp member).2

end WorkingSet

theorem addNew_nodup (items : List String) (item : String) (unique : items.Nodup) :
    (addNew items item).Nodup := by
  unfold addNew
  split
  · exact unique
  · rename_i absent
    rw [List.nodup_append]
    refine ⟨unique, List.nodup_singleton item, ?_⟩
    rintro old member _ new rfl
    exact absent (List.mem_singleton.mp new ▸ member)

namespace Planner

open Block

theorem transientTargets_append (first second : List Block) :
    transientTargets (first ++ second) = transientTargets first ++ transientTargets second := by
  simp [transientTargets]

theorem transientTargets_drops (tables : List String) :
    transientTargets (tables.map dropBlock) = [] := by
  induction tables with
  | nil => rfl
  | cons table others ih => exact ih

/-- The transient tables grow by exactly what the added blocks create. -/
theorem Step.transient {state after : PlanState} {planned : Statement} {added : List Block}
    (step : Step state planned added after) :
    after.tables.transient = state.tables.transient ++ transientTargets added := by
  cases step with
  | openOuter | close | setValue => simp [transientTargets, Action.produced?]
  | openInner =>
    obtain ⟨dropped, _⟩ := (Table.isReserved_eq_false_iff _).mp
      (FreshNames.next_not_reserved state.names state.tables)
    rw [WorkingSet.transient_addNew_new _ _ (FreshNames.next_not_live _ _) dropped]
    simp [transientTargets, Action.produced?, intersection, dropped]
  | send direction content way scanned =>
    -- A send creates the message table or nothing, and the message table is protected.
    have kept : Table.isProtected Table.message = true := by decide
    rw [WorkingSet.transient_addNew_protected _ _ kept]
    cases way <;>
      simp [sendBlock?, Sending.action?, Sending.incoming, Sending.outgoing, Sending.select,
        transientTargets, Action.produced?, kept]
  | assign target expression scanned assignable new =>
    obtain ⟨dropped, _⟩ := (Table.isReserved_eq_false_iff target).mp assignable
    rw [WorkingSet.transient_addNew_new _ _ new dropped]
    simp [transientTargets, Action.produced?, selection, dropped]

theorem Steps.transient {state after : PlanState} {planned : List Statement} {added : List Block}
    (run : Steps state planned added after) :
    after.tables.transient = state.tables.transient ++ transientTargets added := by
  induction run with
  | done => simp [transientTargets]
  | step now _ ih => rw [ih, now.transient, transientTargets_append, List.append_assoc]

/-- No table is counted twice. -/
theorem Step.live_nodup {state after : PlanState} {planned : Statement} {added : List Block}
    (step : Step state planned added after) (unique : state.tables.live.Nodup) :
    after.tables.live.Nodup := by
  cases step with
  | openOuter | close | setValue => exact unique
  | openInner | send | assign => exact addNew_nodup _ _ unique

theorem entry_live_nodup (described : Algorithm) (loopEnd : LoopEnd) (names : FreshNames)
    (message : FirstMessage) (aggregate : Scanned) :
    (entry described loopEnd names message aggregate).tables.live.Nodup := by
  cases incoming : described.mentions Table.inCounts <;>
    cases outgoing : described.mentions Table.outCounts <;>
    simp only [entry, degreeTables, incoming, outgoing] <;> decide

theorem entry_transient (described : Algorithm) (loopEnd : LoopEnd) (names : FreshNames)
    (message : FirstMessage) (aggregate : Scanned) :
    (entry described loopEnd names message aggregate).tables.transient = [Table.combined] := by
  cases incoming : described.mentions Table.inCounts <;>
    cases outgoing : described.mentions Table.outCounts <;>
    simp only [entry, degreeTables, incoming, outgoing] <;> decide

namespace Derivation

variable {options : List (String × String)} {stem : String} {plan : Plan}
  (derived : Derivation options stem plan)

theorem transientTargets_body :
    transientTargets derived.body = derived.ended.tables.transient := by
  rw [derived.run.transient, entry_transient, derived.body_eq, transientTargets_append,
    transientTargets_append, transientTargets_drops, List.append_nil]
  rfl

theorem transient_nodup : derived.ended.tables.transient.Nodup := by
  have unique := Steps.preserves (fun state => state.tables.live.Nodup)
    (fun _ _ _ _ step => step.live_nodup) derived.run (entry_live_nodup _ _ _ _ _)
  exact unique.filter _

theorem dropped_added (block : Block) (member : block ∈ derived.added) :
    block.action.dropped? = none :=
  Action.dropped?_of_isQuery _ (derived.run.isQuery block member)

/-- The drops in the loop: the messages once they are combined, then what the superstep created. -/
theorem dropped_body :
    derived.body.filterMap (·.action.dropped?) =
      Table.message :: derived.ended.tables.transient := by
  have statements : derived.added.filterMap (·.action.dropped?) = [] :=
    List.filterMap_eq_nil_iff.mpr derived.dropped_added
  have drops : ∀ tables : List String,
      (tables.map dropBlock).filterMap (·.action.dropped?) = tables := by
    intro tables
    rw [List.filterMap_map]
    exact List.filterMap_some
  rw [body, List.filterMap_cons, List.filterMap_cons, List.filterMap_append, statements, drops]
  rfl

end Derivation

/-- The loop drops the messages directly behind the block that combines them, and at its end, in the
order of their creation, exactly the tables that its blocks create and that are not protected. Only
protected tables are left when planning ends. -/
theorem superstep_cleanup_exact (options : List (String × String)) (stem : String) (plan : Plan)
    (success : Plan.ofOptions options stem = .ok plan) :
    ∃ described loopEnd state combine middle,
      Algorithm.ofOptions options = .ok described ∧ described.loopEnd = .ok loopEnd ∧
      (algorithm described loopEnd).run { names := { stem } } = .ok () state ∧
      state.plan = plan ∧
      (∀ table ∈ state.tables.live, Table.isProtected table = true) ∧
      (transientTargets (loopBody plan.blocks)).Nodup ∧
      loopBody plan.blocks = combine :: dropBlock Table.message ::
        (middle ++ (transientTargets (loopBody plan.blocks)).map dropBlock) ∧
      fromClosing plan.blocks = [loopClose loopEnd] ∧
      combine.stage = "combineMsg" ∧ combine.action.produced? = some Table.combined ∧
      (∀ block ∈ middle, block.action.dropped? = none) ∧
      (loopBody plan.blocks).filterMap (·.action.dropped?) =
        Table.message :: transientTargets (loopBody plan.blocks) := by
  obtain ⟨derived⟩ := (ofOptions_ok_iff options stem plan).mp success
  refine ⟨derived.described, derived.loopEnd, closed derived.ended derived.loopEnd,
    combineBlock derived.aggregate, derived.added, derived.describes, derived.ends, derived.planned,
    derived.result.symm, WorkingSet.protected_of_mem_dropTransient derived.ended.tables, ?_⟩
  rw [derived.loopBody_eq, derived.transientTargets_body]
  exact ⟨derived.transient_nodup, rfl, derived.fromClosing_eq, rfl, rfl, derived.dropped_added,
    derived.dropped_body⟩

/-- An assigned table and the table of an inner `if` are dropped, besides the messages. -/
theorem superstep_cleanup_exact_nestedSend :
    ∃ plan, Plan.ofOptions nestedSend "scope_" = .ok plan ∧
      transientTargets (loopBody plan.blocks) = ["cur", "a", "scope_0"] ∧
      (loopBody plan.blocks).filterMap (·.action.dropped?) =
        ["message", "cur", "a", "scope_0"] := by
  have targets : (Plan.ofOptions nestedSend "scope_").toOption.map
      (fun plan => transientTargets (loopBody plan.blocks)) = some ["cur", "a", "scope_0"] := by
    decide +kernel
  obtain ⟨plan, planned, created⟩ := Option.map_eq_some_iff.mp targets
  have success := ok_of_toOption _ _ planned
  obtain ⟨_, _, _, _, _, _, _, _, _, _, _, _, _, _, _, _, drops⟩ :=
    superstep_cleanup_exact nestedSend "scope_" plan success
  exact ⟨plan, success, created, by rw [drops, created]; rfl⟩

end Planner

end Superstep
