import Superstep.Proofs.Planner.Contexts
import Superstep.Proofs.Sorted

/-!
# The senders of a plan

A plan lists the tables whose values are sent, for the fingerprint and for whoever runs the program.
A table is one of them exactly if the content of some send reads it, with the placeholders filled in
for the context of that send. The direction does not matter: a send that goes nowhere counts too.
The list is that of the sends so far at every moment of planning, so no other statement adds to it.
-/

namespace Superstep.Planner

/-- The content of a send among the statements reads the table. -/
def SentBy (occurrences : List Occurrence) (table : String) : Prop :=
  ∃ context direction content scanned, ⟨context, .send direction content⟩ ∈ occurrences ∧
    Expression.scan (Expression.fillPlaceholders content context) = .ok scanned ∧
    table ∈ scanned.referencedTables

theorem sentBy_cons (first : Occurrence) (others : List Occurrence) (table : String) :
    SentBy (first :: others) table ↔ SentBy [first] table ∨ SentBy others table := by
  constructor
  · rintro ⟨context, direction, content, scanned, member, scans, read⟩
    rcases List.mem_cons.mp member with rfl | later
    · exact .inl ⟨context, direction, content, scanned, List.mem_cons_self, scans, read⟩
    · exact .inr ⟨context, direction, content, scanned, later, scans, read⟩
  · rintro (⟨context, direction, content, scanned, member, reads⟩ |
      ⟨context, direction, content, scanned, member, reads⟩)
    · rw [← List.mem_singleton.mp member]
      exact ⟨context, direction, content, scanned, List.mem_cons_self, reads⟩
    · exact ⟨context, direction, content, scanned, List.mem_cons_of_mem first member, reads⟩

theorem sentBy_send (context direction content table : String) (scanned : Scanned)
    (scans : Expression.scan (Expression.fillPlaceholders content context) = .ok scanned) :
    SentBy [⟨context, .send direction content⟩] table ↔ table ∈ scanned.referencedTables := by
  constructor
  · rintro ⟨_, _, _, found, member, again, read⟩
    cases List.mem_singleton.mp member
    rwa [Except.ok.inj (scans.symm.trans again)]
  · intro read
    exact ⟨context, direction, content, scanned, List.mem_cons_self, scans, read⟩

theorem Step.mem_senders {state after : PlanState} {planned : Statement} {added : List Block}
    (step : Step state planned added after) (table : String) :
    table ∈ after.senders ↔
      SentBy [⟨state.scope.current, planned⟩] table ∨ table ∈ state.senders := by
  cases step with
  | send direction content way scanned names reads =>
    rw [sentBy_send _ _ _ _ scanned reads.scans]
    exact mem_foldl_insertText scanned.referencedTables state.senders table
  | openOuter | openInner | close | setValue | assign => simp [SentBy]

/-- Over a run the senders grow by the tables that the contents of sends read, and by no others. -/
theorem Steps.mem_senders {state after : PlanState} {planned : List Statement} {added : List Block}
    (run : Steps state planned added after) (table : String) :
    table ∈ after.senders ↔
      SentBy ((nestingOf state).occurrences planned) table ∨ table ∈ state.senders := by
  induction run with
  | done => simp [SentBy, Nesting.occurrences]
  | step now _ ih =>
    rw [ih, now.mem_senders, now.nesting, Nesting.occurrences,
      sentBy_cons _ (((nestingOf _).after _).occurrences _), or_assoc]
    exact or_left_comm

theorem Step.senders_ascending {state after : PlanState} {planned : Statement}
    {added : List Block} (step : Step state planned added after)
    (ascending : state.senders.Pairwise (· < ·)) : after.senders.Pairwise (· < ·) := by
  cases step with
  | send direction content way scanned =>
    exact foldl_insertText_ascending scanned.referencedTables state.senders ascending
  | openOuter | openInner | close | setValue | assign => exact ascending

theorem Steps.sent_content_scans {state after : PlanState} {planned : List Statement}
    {added : List Block} (run : Steps state planned added after)
    (context direction content : String)
    (member : ⟨context, .send direction content⟩ ∈ (nestingOf state).occurrences planned) :
    ∃ scanned, Expression.scan (Expression.fillPlaceholders content context) = .ok scanned := by
  obtain ⟨before, later, split⟩ := List.append_of_mem member
  obtain ⟨between, _, _, _, _, _, rfl, step, _⟩ := run.at_occurrence before later _ split
  cases step with
  | send _ _ _ scanned _ reads => exact ⟨scanned, reads.scans⟩

namespace Derivation

variable {options : List (String × String)} {stem : String} {plan : Plan}
  (derived : Derivation options stem plan)

theorem senders_eq : plan.senders = derived.ended.senders := congrArg Plan.senders derived.result

/-- The same at every place of the program, not only at its end. -/
theorem senders_so_far (before later : List Occurrence)
    (split : derived.occurrences = before ++ later) :
    ∃ state, (Planner.statements (before.map (·.statement))).run derived.start = .ok () state ∧
      ∀ table, table ∈ state.senders ↔ SentBy before table := by
  have program : derived.statements =
      before.map (·.statement) ++ later.map (·.statement) := by
    rw [← List.map_append, ← split]
    exact (Nesting.occurrences_statement _ _).symm
  have run : Steps derived.start derived.statements derived.added derived.ended := derived.run
  rw [program] at run
  obtain ⟨between, early, _, front, _⟩ := run.split
  refine ⟨between, (statements_ok_iff _ _ _ _).mpr ⟨early, front⟩, ?_⟩
  intro table
  rw [front.mem_senders, Nesting.occurrences_front (nestingOf derived.start) _ before later split]
  exact or_iff_left List.not_mem_nil

end Derivation

/-- The senders of a plan are the tables that the contents of its sends read, each in the context that
is in force at the send. So they are at every statement on the way, for the sends before it. -/
theorem senders_exact (options : List (String × String)) (stem : String) (plan : Plan)
    (success : Plan.ofOptions options stem = .ok plan) :
    ∃ derived : Derivation options stem plan,
      Program.ofOptions options = .ok derived.statements ∧
      InForce derived.start derived.occurrences ∧
      (∀ context direction content, ⟨context, .send direction content⟩ ∈ derived.occurrences →
        ∃ scanned, Expression.scan (Expression.fillPlaceholders content context) = .ok scanned) ∧
      (∀ before later, derived.occurrences = before ++ later →
        ∃ state, (statements (before.map (·.statement))).run derived.start = .ok () state ∧
          ∀ table, table ∈ state.senders ↔ SentBy before table) ∧
      plan.senders.Pairwise (· < ·) ∧
      ∀ table, table ∈ plan.senders ↔ SentBy derived.occurrences table := by
  obtain ⟨derived⟩ := (ofOptions_ok_iff options stem plan).mp success
  refine ⟨derived, derived.program_eq, derived.occurrences_inForce, derived.run.sent_content_scans,
    derived.senders_so_far, ?_, ?_⟩
  · rw [derived.senders_eq]
    exact derived.run.preserves (fun state => state.senders.Pairwise (· < ·))
      (fun _ _ _ _ step => step.senders_ascending) .nil
  · intro table
    rw [derived.senders_eq, derived.run.mem_senders]
    exact or_iff_left List.not_mem_nil

/-- A send that goes nowhere from a condition, and a send to all from everywhere. -/
def sendsFromTwo : List (String × String) :=
  sampleOptions
    "a = cur.val > 0\nif (a) \x7b\nsend(no, getAggregationVal())\n\x7d\nsend(all, getVal())"

theorem senders_exact_sendsFromTwo :
    ∃ (plan : Plan) (derived : Derivation sendsFromTwo "scope_" plan),
      Plan.ofOptions sendsFromTwo "scope_" = .ok plan ∧ plan.senders = ["a", Table.values] ∧
        SentBy derived.occurrences "a" ∧ SentBy derived.occurrences Table.values ∧
        ¬ SentBy derived.occurrences Table.combined := by
  have planned : (Plan.ofOptions sendsFromTwo "scope_").toOption.map (·.senders) =
      some ["a", Table.values] := by decide +kernel
  obtain ⟨plan, found, senders⟩ := Option.map_eq_some_iff.mp planned
  have success := ok_of_toOption _ _ found
  obtain ⟨derived, _, _, _, _, _, sent⟩ := senders_exact sendsFromTwo "scope_" plan success
  rw [senders] at sent
  refine ⟨plan, derived, success, senders, ?_, ?_, ?_⟩
  · exact (sent "a").mp (by decide)
  · exact (sent Table.values).mp (by decide)
  · exact fun reads => absurd ((sent Table.combined).mpr reads) (by decide)

end Superstep.Planner
