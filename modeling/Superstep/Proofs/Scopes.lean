import Superstep.Proofs.Planner.Failure

/-!
# Scopes open and close in pairs

The contexts of the open scopes form a stack. An `if` puts one context on top, a closing brace takes
the top one off, and no other statement touches the stack, whatever tables the contexts are. So the
depth counts the braces, a balanced program gives the stack back as it found it, and the scopes are
blamed for a failure only if the braces do not match up.
-/

namespace Superstep

namespace Statement

def opensScope : Statement → Bool
  | .beginIf _ => true
  | _ => false

def closesScope : Statement → Bool
  | .endIf => true
  | _ => false

def openings (statements : List Statement) : Nat := statements.countP opensScope

def closings (statements : List Statement) : Nat := statements.countP closesScope

/-- The statements close no scope that they have not opened, and leave none open. -/
structure Balanced (statements : List Statement) : Prop where
  nested : ∀ before, before <+: statements → closings before ≤ openings before
  even : openings statements = closings statements

theorem openings_cons (first : Statement) (others : List Statement) :
    openings (first :: others) = openings [first] + openings others := by
  rw [openings, ← List.singleton_append, List.countP_append]
  rfl

theorem closings_cons (first : Statement) (others : List Statement) :
    closings (first :: others) = closings [first] + closings others := by
  rw [closings, ← List.singleton_append, List.countP_append]
  rfl

end Statement

def Scope.contexts (scope : Scope) : List String := scope.current :: scope.enclosing

theorem Scope.eq_of_contexts (scope other : Scope) (same : scope.contexts = other.contexts) :
    scope = other := by
  obtain ⟨enclosing, current⟩ := scope
  obtain ⟨otherEnclosing, otherCurrent⟩ := other
  obtain ⟨rfl, rfl⟩ := List.cons.inj same
  rfl

namespace Planner

open Statement

/-- Only an `if` and its end change the number of open scopes, each by one. -/
theorem Step.depth {state after : PlanState} {planned : Statement} {added : List Block}
    (step : Step state planned added after) :
    after.scope.depth + closings [planned] = state.scope.depth + openings [planned] := by
  cases step with
  | openOuter | openInner => rfl
  | close scope enclosed =>
    have deeper : state.scope.depth = scope.depth + 1 := congrArg List.length enclosed
    rw [deeper]
    rfl
  | setValue | send | assign => rfl

theorem Steps.depth {state after : PlanState} {planned : List Statement} {added : List Block}
    (run : Steps state planned added after) :
    after.scope.depth + closings planned = state.scope.depth + openings planned := by
  induction run with
  | done => rfl
  | step now _ ih =>
    have first := now.depth
    rw [openings_cons, closings_cons]
    omega

/-- Statements that close no more scopes than they open and than there are on top of `base` leave
`base` where it is. -/
theorem Steps.contexts_above {state after : PlanState} {planned : List Statement}
    {added : List Block} (run : Steps state planned added after) (above base : List String)
    (split : state.scope.contexts = above ++ base)
    (enough : ∀ before, before <+: planned → closings before ≤ above.length + openings before) :
    ∃ left, after.scope.contexts = left ++ base ∧
      left.length + closings planned = above.length + openings planned := by
  induction run generalizing above with
  | done => exact ⟨above, split, rfl⟩
  | @step state between after first others added more now _ ih =>
    -- One statement moves the top of the stack, and the rest of the program goes on from there.
    have next : ∃ top, between.scope.contexts = top ++ base ∧
        top.length + closings [first] = above.length + openings [first] := by
      cases now with
      | openOuter condition | openInner condition =>
        exact ⟨_ :: above, congrArg (_ :: ·) split, rfl⟩
      | close scope enclosed =>
        have some := enough [.endIf] (List.prefix_append _ _)
        cases above with
        | nil => exact absurd some (by decide)
        | cons top others =>
          refine ⟨others, ?_, rfl⟩
          have inner := (List.cons.inj split).2
          rw [enclosed] at inner
          exact inner
      | setValue | send | assign => exact ⟨above, split, rfl⟩
    obtain ⟨top, moved, counted⟩ := next
    have still : ∀ before, before <+: others → closings before ≤ top.length + openings before := by
      intro before initial
      have bound := enough (first :: before) (List.cons_prefix_cons.mpr ⟨rfl, initial⟩)
      rw [openings_cons, closings_cons] at bound
      omega
    obtain ⟨left, kept, total⟩ := ih top moved still
    refine ⟨left, kept, ?_⟩
    rw [openings_cons, closings_cons]
    omega

/-- Balanced statements lead back to the scope that they began in. -/
theorem Steps.scope_of_balanced {state after : PlanState} {planned : List Statement}
    {added : List Block} (run : Steps state planned added after) (balanced : Balanced planned) :
    after.scope = state.scope := by
  obtain ⟨left, kept, counted⟩ := run.contexts_above [] state.scope.contexts rfl
    (fun before initial => by simpa using balanced.nested before initial)
  have even := balanced.even
  have empty : left = [] := by
    apply List.eq_nil_of_length_eq_zero
    simp only [List.length_nil] at counted
    omega
  rw [empty] at kept
  exact Scope.eq_of_contexts _ _ kept

/-- Statements that run from no open scope to no open scope are balanced. -/
theorem Steps.balanced {state after : PlanState} {planned : List Statement} {added : List Block}
    (run : Steps state planned added after) (outside : state.scope.depth = 0)
    (finished : after.scope.depth = 0) : Balanced planned := by
  constructor
  · rintro before ⟨later, rfl⟩
    obtain ⟨between, _, _, front, _, _⟩ := run.split
    have counted := front.depth
    omega
  · have counted := run.depth
    omega

/-- A step that never blames the scopes when it fails. -/
def Blameless {α : Type} (step : Planner α) : Prop :=
  ∀ state after error, step.run state = .error error after → error.isScope = false

theorem Raises.blameless {α : Type} {step : Planner α} (raises : Raises PlanError.isContent step) :
    Blameless step := by
  intro state after error failure
  have content := raises state after error failure
  cases error with
  | unbalancedScope fault => cases content
  | _ => rfl

/-- Among the statements only a closing brace blames the scopes, and only outside of every scope. -/
theorem statement_blames_scopes (state after : PlanState) (planned : Statement) (error : PlanError)
    (failure : (statement planned).run state = .error error after) (blamed : error.isScope = true) :
    planned = .endIf ∧ state.scope.depth = 0 := by
  have absurd : error.isScope = false → False := by
    rw [blamed]
    exact Bool.noConfusion
  cases planned with
  | beginIf condition => exact (absurd ((enterScope_raises condition).blameless _ _ _ failure)).elim
  | setValue value => exact (absurd ((setValue_raises value).blameless _ _ _ failure)).elim
  | send direction content =>
    exact (absurd ((send_raises direction content).blameless _ _ _ failure)).elim
  | assign target expression =>
    exact (absurd ((assign_raises target expression).blameless _ _ _ failure)).elim
  | endIf =>
    refine ⟨rfl, ?_⟩
    cases enclosed : state.scope.enclosing with
    | nil => rw [Scope.depth, enclosed, List.length_nil]
    | cons outer others =>
      have step : Step state .endIf [] _ := .close ⟨others, outer⟩ enclosed
      rw [(statement_ok_iff state _ _).mpr ⟨[], step⟩] at failure
      cases failure

/-- If statements blame the scopes, a brace closes a scope that was not opened. -/
theorem statements_blame_scopes (state after : PlanState) (planned : List Statement)
    (error : PlanError) (outside : state.scope.depth = 0)
    (failure : (statements planned).run state = .error error after)
    (blamed : error.isScope = true) : ¬ Balanced planned := by
  obtain ⟨before, failed, later, between, rfl, passed, fails⟩ :=
    (statements_error_iff state after planned error).mp failure
  obtain ⟨rfl, bare⟩ := statement_blames_scopes between after failed error fails blamed
  obtain ⟨added, run⟩ := (statements_ok_iff state between before ()).mp passed
  intro balanced
  have counted := run.depth
  have bound := balanced.nested (before ++ [.endIf]) ⟨later, by simp⟩
  have opens : openings (before ++ [.endIf]) = openings before := by
    rw [openings, List.countP_append]
    rfl
  have closes : closings (before ++ [.endIf]) = closings before + 1 := by
    rw [closings, List.countP_append]
    rfl
  omega

/-- Scopes are blamed only for a program whose `if`s and their ends are not balanced. -/
theorem program_blames_scopes (state after : PlanState) (source : String) (error : PlanError)
    (outside : state.scope.depth = 0) (failure : (program source).run state = .error error after)
    (blamed : error.isScope = true) :
    ∃ lines, Program.read source = .ok lines ∧ ¬ Balanced (lines.map (·.statement)) := by
  rcases (bind_error_iff _ _ _ _ _).mp failure with unread | ⟨lines, start, readable, planning⟩
  · have other : Raises (!·.isScope) (check ((Program.read source).mapError .malformed)) :=
      .described fun _ => rfl
    have cleared : (!error.isScope) = true := other state after error unread
    rw [blamed] at cleared
    cases cleared
  · obtain ⟨read, rfl⟩ := (check_ok_iff _ _ _ _).mp readable
    refine ⟨lines, (mapError_ok_iff _ _ _).mp read, ?_⟩
    rcases (bind_error_iff _ _ _ _ _).mp planning with early | ⟨_, ended, passed, finishing⟩
    · exact statements_blame_scopes start after _ error outside early blamed
    · obtain ⟨added, run⟩ := (statements_ok_iff _ _ _ _).mp passed
      intro balanced
      -- A balanced program ends outside of every scope, where nothing is left to complain about.
      have counted := run.depth
      have even := balanced.even
      have empty : ended.scope.enclosing = [] := by
        apply List.eq_nil_of_length_eq_zero
        change ended.scope.depth = 0
        omega
      have finished := (Scope.finish_ok_iff ended.scope ()).mpr empty
      rcases (bind_error_iff _ _ _ _ _).mp finishing with stuck | ⟨_, _, reached, late⟩
      · cases stuck
      · cases reached
        rw [finished] at late
        cases late

/-- A program that is planned from outside of every scope has matching braces and ends outside of
every scope. After any statements that are planned from there the depth is the number of open braces,
balanced statements give back the scope that they found wherever they stand, and the scopes are
blamed only for a program whose braces do not match. -/
theorem scopes_open_and_close (state : PlanState) (outside : state.scope = {}) (source : String) :
    (∀ after, (program source).run state = .ok () after →
      ∃ lines, Program.read source = .ok lines ∧ Balanced (lines.map (·.statement)) ∧
        after.scope = {}) ∧
    (∀ before between, (statements before).run state = .ok () between →
      (between.scope.depth : Int) = openings before - closings before) ∧
    (∀ inner start stop, Balanced inner → (statements inner).run start = .ok () stop →
      stop.scope = start.scope) ∧
    ∀ fault after, (program source).run state = .error (.unbalancedScope fault) after →
      ∃ lines, Program.read source = .ok lines ∧ ¬ Balanced (lines.map (·.statement)) := by
  have shallow : state.scope.depth = 0 := by
    rw [outside]
    rfl
  refine ⟨?_, ?_, ?_, ?_⟩
  · intro after success
    obtain ⟨lines, read, ⟨added, run⟩, finished⟩ := (program_ok_iff state after source).mp success
    have balanced := run.balanced shallow (congrArg List.length finished)
    have restored := run.scope_of_balanced balanced
    exact ⟨lines, read, balanced, restored.trans outside⟩
  · intro before between success
    obtain ⟨added, run⟩ := (statements_ok_iff state between before ()).mp success
    have counted := run.depth
    omega
  · intro inner start stop balanced success
    obtain ⟨added, run⟩ := (statements_ok_iff start stop inner ()).mp success
    exact run.scope_of_balanced balanced
  · intro fault after failure
    exact program_blames_scopes state after source _ shallow failure rfl

/-- A state outside of every scope with one table that can be a condition. -/
def oneCondition : PlanState := { tables := ⟨[Table.values, Table.combined, "a"]⟩ }

theorem scopes_open_and_close_twice :
    (∃ after, (program "if (a) \x7b\nif (a) \x7b\nsetVal(getVal())\n\x7d\n\x7d").run oneCondition =
      .ok () after ∧ after.scope = {}) ∧
    ∃ lines, Program.read "if (a) \x7b\n\x7d\n\x7d" = .ok lines ∧
      ¬ Balanced (lines.map (·.statement)) := by
  have planned : ((program "if (a) \x7b\nif (a) \x7b\nsetVal(getVal())\n\x7d\n\x7d").run
      oneCondition matches .ok _ _) = true := by decide +kernel
  have refused : ((program "if (a) \x7b\n\x7d\n\x7d").run oneCondition matches
      .error (.unbalancedScope _) _) = true := by decide +kernel
  refine ⟨?_, ?_⟩
  · split at planned
    · rename_i after success
      obtain ⟨closes, _⟩ := scopes_open_and_close oneCondition rfl _
      obtain ⟨lines, _, _, restored⟩ := closes after success
      exact ⟨after, success, restored⟩
    · cases planned
  · split at refused
    · rename_i fault after failure
      obtain ⟨_, _, _, blames⟩ := scopes_open_and_close oneCondition rfl _
      exact blames fault after failure
    · cases refused

end Planner

end Superstep
