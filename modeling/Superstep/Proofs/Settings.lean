import Superstep.Proofs.Planner.Contexts
import Superstep.Proofs.Sorted
import Superstep.Proofs.Text.Filling

/-!
# The settings of a plan

Besides its blocks a plan has settings. They say how messages are combined, and they describe the
last send and the last change of the vertex value. A statement writes all the settings of its kind
and none of another kind, so the settings of one kind never come from two statements.
-/

namespace Superstep

namespace Settings

theorem get?_set (settings : Settings) (key sought value : String) :
    (settings.set key value).get? sought =
      if sought = key then some value else settings.get? sought :=
  lookup_insertKey key sought value settings.entries

def keys (settings : Settings) : List String := settings.entries.map Prod.fst

theorem keys_set (settings : Settings) (key value : String) :
    (settings.set key value).keys = insertText key settings.keys :=
  (insertText_keys key value settings.entries).symm

end Settings

/-- The settings that statements of a kind write. -/
def StatementKind.settings : StatementKind → List String
  | .send => ["msgDir", "SendMsgDir", "contentStr"]
  | .setValue => ["setValContext", "setValNewVal", "isSender"]
  | .beginIf | .endIf | .assign => []

theorem StatementKind.settings_apart (one other : StatementKind) :
    one ≠ other → ∀ key ∈ one.settings, key ∉ other.settings := by
  cases one <;> cases other <;> decide

namespace Planner

def settingNames : List String :=
  ["aggFunc", "msgDir", "SendMsgDir", "contentStr", "setValContext", "setValNewVal", "isSender"]

/-- The settings say how messages are combined: no message is left that is not qualified. -/
def DescribesCombine (settings : Settings) (combine : String) : Prop :=
  ∃ scanned, Expression.scan combine = .ok scanned ∧
    settings.get? "aggFunc" = some (scanned.qualify Table.message "val") ∧
    Expression.scan (scanned.qualify Table.message "val") =
      .ok (scanned.mapTokens (Token.qualify Table.message "val")) ∧
    Token.ident Table.message ∉ (scanned.mapTokens (Token.qualify Table.message "val")).tokens

/-- The settings describe a send in a context. The content has no placeholder left, if the context is a
name. -/
structure DescribesSend (settings : Settings) (context direction content : String) : Prop where
  way : ∃ way, Direction.read direction = .ok way ∧ settings.get? "msgDir" = some way.text ∧
    settings.get? "SendMsgDir" = some way.text
  sent : settings.get? "contentStr" = some (Expression.fillPlaceholders content context)
  settled : Text.isName context.toList = true →
    Expression.Settled (Expression.fillPlaceholders content context)

/-- The settings describe a change of the value in a context. Where the new value reads the combined
messages, the setting reads the vertex values. The value has no placeholder left, if the context is a
name. -/
structure DescribesSetValue (settings : Settings) (context value : String) : Prop where
  applies : settings.get? "setValContext" = some context
  becomes : ∃ scanned, Expression.scan (Expression.fillPlaceholders value context) = .ok scanned ∧
    settings.get? "setValNewVal" = some (scanned.repoint Table.combined Table.values) ∧
    Expression.scan (scanned.repoint Table.combined Table.values) =
      .ok (scanned.mapTokens (Token.repoint Table.combined Table.values)) ∧
    ∀ field, Token.qualified Table.combined field ∉
      (scanned.mapTokens (Token.repoint Table.combined Table.values)).tokens
  settled : Text.isName context.toList = true →
    Expression.Settled (Expression.fillPlaceholders value context)
  sender : settings.get? "isSender" = some (if context = Table.combined then "all" else "notAll")

theorem DescribesSend.congr {settings later : Settings} {context direction content : String}
    (describes : DescribesSend settings context direction content)
    (same : ∀ key ∈ StatementKind.send.settings, later.get? key = settings.get? key) :
    DescribesSend later context direction content := by
  obtain ⟨⟨way, names, first, second⟩, content, settled⟩ := describes
  refine ⟨⟨way, names, ?_, ?_⟩, ?_, settled⟩
  · rw [same "msgDir" (by decide), first]
  · rw [same "SendMsgDir" (by decide), second]
  · rw [same "contentStr" (by decide), content]

theorem DescribesSetValue.congr {settings later : Settings} {context value : String}
    (describes : DescribesSetValue settings context value)
    (same : ∀ key ∈ StatementKind.setValue.settings, later.get? key = settings.get? key) :
    DescribesSetValue later context value := by
  obtain ⟨context, ⟨scanned, scans, value, rest⟩, settled, sender⟩ := describes
  refine ⟨?_, ⟨scanned, scans, ?_, rest⟩, settled, ?_⟩
  · rw [same "setValContext" (by decide), context]
  · rw [same "setValNewVal" (by decide), value]
  · rw [same "isSender" (by decide), sender]

/-- After qualifying, the text is still an expression, and no bare message is left in it. -/
theorem scan_qualified_message {expression : String} {scanned : Scanned}
    (scans : Expression.scan expression = .ok scanned) :
    Expression.scan (scanned.qualify Table.message "val") =
        .ok (scanned.mapTokens (Token.qualify Table.message "val")) ∧
      Token.ident Table.message ∉
        (scanned.mapTokens (Token.qualify Table.message "val")).tokens := by
  refine ⟨Expression.scan_qualify scans Table.message "val" (by decide), ?_⟩
  intro member
  rw [Scanned.tokens_mapTokens] at member
  obtain ⟨token, _, bare⟩ := List.mem_map.mp member
  cases token with
  | ident other =>
    rw [Token.qualify] at bare
    split at bare
    · cases bare
    · rename_i apart
      cases bare
      exact apart rfl
  | _ => cases bare

/-- After renaming, the text is still an expression, and the combined messages are not read any
more. -/
theorem scan_repointed_combined {expression : String} {scanned : Scanned}
    (scans : Expression.scan expression = .ok scanned) :
    Expression.scan (scanned.repoint Table.combined Table.values) =
        .ok (scanned.mapTokens (Token.repoint Table.combined Table.values)) ∧
      ∀ field, Token.qualified Table.combined field ∉
        (scanned.mapTokens (Token.repoint Table.combined Table.values)).tokens := by
  refine ⟨Expression.scan_repoint scans Table.combined Table.values (by decide) ?_, ?_⟩
  · intro c first
    cases first
    decide
  · intro field member
    rw [Scanned.tokens_mapTokens] at member
    obtain ⟨token, _, same⟩ := List.mem_map.mp member
    have different : Table.values ≠ Table.combined := by decide
    cases token with
    | qualified table other =>
      rw [Token.repoint] at same
      obtain ⟨renamed, _⟩ := Token.qualified.inj same
      split at renamed
      · exact different renamed
      · rename_i apart
        exact apart renamed
    | _ => cases same

theorem Step.describes_send {state after : PlanState} {direction content : String}
    {added : List Block} (step : Step state (.send direction content) added after) :
    DescribesSend after.settings state.scope.current direction content := by
  cases step with
  | send _ _ way scanned names =>
    exact ⟨⟨way, names, by simp [Settings.get?_set], by simp [Settings.get?_set]⟩,
      by simp [Settings.get?_set], Expression.settled_fillPlaceholders _ _⟩

theorem Step.describes_setValue {state after : PlanState} {value : String} {added : List Block}
    (step : Step state (.setValue value) added after) :
    DescribesSetValue after.settings state.scope.current value := by
  cases step with
  | setValue _ scanned reads =>
    refine ⟨by simp [Settings.get?_set], ⟨scanned, reads.scans, by simp [Settings.get?_set], ?_⟩,
      Expression.settled_fillPlaceholders _ _, by simp [Settings.get?_set]⟩
    exact scan_repointed_combined reads.scans

/-- A statement leaves the settings of other kinds alone. -/
theorem Step.get?_of_unwritten {state after : PlanState} {planned : Statement}
    {added : List Block} (step : Step state planned added after) (key : String)
    (unwritten : key ∉ planned.kind.settings) :
    after.settings.get? key = state.settings.get? key := by
  cases step with
  | setValue | send =>
    simp only [Statement.kind, StatementKind.settings, List.mem_cons, List.not_mem_nil, or_false,
      not_or] at unwritten
    simp only [Settings.get?_set, unwritten, if_false]
  | openOuter | openInner | close | assign => rfl

theorem Steps.get?_of_unwritten {state after : PlanState} {planned : List Statement}
    {added : List Block} (run : Steps state planned added after) (key : String)
    (unwritten : ∀ statement ∈ planned, key ∉ statement.kind.settings) :
    after.settings.get? key = state.settings.get? key := by
  induction run with
  | done => rfl
  | step now _ ih =>
    obtain ⟨first, others⟩ := List.forall_mem_cons.mp unwritten
    rw [ih others, now.get?_of_unwritten key first]

/-- Without a statement of its kind a setting is not written. -/
theorem Steps.get?_of_kind {state after : PlanState} {planned : List Statement}
    {added : List Block} (run : Steps state planned added after) (kind : StatementKind)
    (never : ∀ statement ∈ planned, statement.kind ≠ kind) :
    ∀ key ∈ kind.settings, after.settings.get? key = state.settings.get? key := by
  intro key member
  apply run.get?_of_unwritten key
  intro statement planned
  exact kind.settings_apart _ (never statement planned).symm key member

/-- Every setting has a known name, and the names are sorted. -/
structure Regular (settings : Settings) : Prop where
  ascending : settings.keys.Pairwise (· < ·)
  known : ∀ key ∈ settings.keys, key ∈ settingNames

/-- Writing a setting with a known name keeps the names known and sorted. -/
theorem Regular.set {settings : Settings} (regular : Regular settings) (key value : String)
    (held : key ∈ settingNames) : Regular (settings.set key value) := by
  constructor
  · rw [Settings.keys_set]
    exact insertText_ascending key settings.keys regular.ascending
  · intro other member
    rw [Settings.keys_set, mem_insertText] at member
    rcases member with rfl | old
    · exact held
    · exact regular.known other old

theorem Step.regular {state after : PlanState} {planned : Statement} {added : List Block}
    (step : Step state planned added after) (regular : Regular state.settings) :
    Regular after.settings := by
  cases step with
  | setValue =>
    exact ((regular.set _ _ (by decide)).set _ _ (by decide)).set _ _ (by decide)
  | send =>
    exact ((regular.set _ _ (by decide)).set _ _ (by decide)).set _ _ (by decide)
  | openOuter | openInner | close | assign => exact regular

namespace Derivation

variable {options : List (String × String)} {stem : String} {plan : Plan}
  (derived : Derivation options stem plan)

theorem settings_eq : plan.settings = derived.ended.settings :=
  congrArg Plan.settings derived.result

theorem start_get? (key : String) :
    derived.start.settings.get? key =
      if key = "aggFunc" then some (derived.aggregate.qualify Table.message "val") else none :=
  Settings.get?_set {} "aggFunc" key _

/-- The settings of a kind are those behind the last statement of the kind. -/
theorem settings_of_last {next : PlanState} {later : List Occurrence} {added : List Block}
    (run : Steps next (later.map (·.statement)) added derived.ended) (kind : StatementKind)
    (last : ∀ other ∈ later, other.statement.kind ≠ kind) :
    ∀ key ∈ kind.settings, plan.settings.get? key = next.settings.get? key := by
  rw [derived.settings_eq]
  apply run.get?_of_kind kind
  intro statement member
  obtain ⟨other, inLater, rfl⟩ := List.mem_map.mp member
  exact last other inLater

theorem describes_combine : DescribesCombine plan.settings derived.described.combine := by
  have never : ∀ kind : StatementKind, "aggFunc" ∉ kind.settings := by
    intro kind
    cases kind <;> decide
  have kept := derived.run.get?_of_unwritten "aggFunc" fun statement _ => never statement.kind
  refine ⟨derived.aggregate, derived.combines, ?_, scan_qualified_message derived.combines⟩
  rw [derived.settings_eq, kept]
  exact derived.start_get? "aggFunc"

theorem describes_send (before later : List Occurrence) (context direction content : String)
    (split : derived.occurrences = before ++ ⟨context, .send direction content⟩ :: later)
    (last : ∀ other ∈ later, other.statement.kind ≠ .send) :
    DescribesSend plan.settings context direction content := by
  obtain ⟨between, next, _, _, _, _, rfl, step, run⟩ :=
    derived.run.at_occurrence before later _ split
  exact step.describes_send.congr (derived.settings_of_last run .send last)

theorem describes_setValue (before later : List Occurrence) (context value : String)
    (split : derived.occurrences = before ++ ⟨context, .setValue value⟩ :: later)
    (last : ∀ other ∈ later, other.statement.kind ≠ .setValue) :
    DescribesSetValue plan.settings context value := by
  obtain ⟨between, next, _, _, _, _, rfl, step, run⟩ :=
    derived.run.at_occurrence before later _ split
  exact step.describes_setValue.congr (derived.settings_of_last run .setValue last)

theorem absent_without (kind : StatementKind)
    (never : ∀ statement ∈ derived.statements, statement.kind ≠ kind) :
    ∀ key ∈ kind.settings, plan.settings.get? key = none := by
  intro key member
  have other : key ≠ "aggFunc" := by
    rintro rfl
    cases kind <;> exact absurd member (by decide)
  rw [derived.settings_eq, derived.run.get?_of_kind kind never key member]
  exact (derived.start_get? key).trans (if_neg other)

include derived

theorem regular : Regular plan.settings := by
  have empty : Regular {} := ⟨.nil, fun key member => absurd member List.not_mem_nil⟩
  rw [derived.settings_eq]
  exact derived.run.preserves (fun state => Regular state.settings)
    (fun _ _ _ _ step => step.regular) (empty.set "aggFunc" _ (by decide))

end Derivation

/-- The settings describe how messages are combined, the last send and the last change of the value,
each in the context that is in force there, with all placeholders filled in. Those of a kind of statement that the program does not
have are missing, and there are no others. -/
theorem settings_describe_last (options : List (String × String)) (stem : String) (plan : Plan)
    (success : Plan.ofOptions options stem = .ok plan) :
    ∃ derived : Derivation options stem plan,
      Program.ofOptions options = .ok derived.statements ∧
      InForce derived.start derived.occurrences ∧
      (Text.isName stem.toList = true →
        ∀ occurrence ∈ derived.occurrences, Text.isName occurrence.context.toList = true) ∧
      (∃ combine, options.lookup "CombineMessage" = some combine ∧
        DescribesCombine plan.settings combine) ∧
      (∀ before later context direction content,
        derived.occurrences = before ++ ⟨context, .send direction content⟩ :: later →
        (∀ other ∈ later, other.statement.kind ≠ .send) →
          DescribesSend plan.settings context direction content) ∧
      ((∀ statement ∈ derived.statements, statement.kind ≠ .send) →
        ∀ key ∈ ["msgDir", "SendMsgDir", "contentStr"], plan.settings.get? key = none) ∧
      (∀ before later context value,
        derived.occurrences = before ++ ⟨context, .setValue value⟩ :: later →
        (∀ other ∈ later, other.statement.kind ≠ .setValue) →
          DescribesSetValue plan.settings context value) ∧
      ((∀ statement ∈ derived.statements, statement.kind ≠ .setValue) →
        ∀ key ∈ ["setValContext", "setValNewVal", "isSender"], plan.settings.get? key = none) ∧
      Regular plan.settings := by
  obtain ⟨derived⟩ := (ofOptions_ok_iff options stem plan).mp success
  exact ⟨derived, derived.program_eq, derived.occurrences_inForce, derived.contexts_isName,
    ⟨_, derived.combine_eq, derived.describes_combine⟩, derived.describes_send,
    derived.absent_without .send, derived.describes_setValue, derived.absent_without .setValue,
    derived.regular⟩

/-- A change of the value and a send in a scope, and a later send outside of it. -/
def sendsTwice : List (String × String) :=
  sampleOptions
    "a = cur.id > 0\nif (a) \x7b\nsetVal(cur.val)\nsend(in, 1)\n\x7d\nsend(no, getVal())"

theorem settings_describe_last_sendsTwice :
    ∃ plan, Plan.ofOptions sendsTwice "scope_" = .ok plan ∧
      DescribesCombine plan.settings "MIN(message)" ∧
      DescribesSend plan.settings "cur" "no" "getVal()" ∧
      DescribesSetValue plan.settings "a" "cur.val" := by
  have planned : (Plan.ofOptions sendsTwice "scope_").toOption.isSome = true := by decide +kernel
  have read : Program.ofOptions sendsTwice = .ok [.assign "a" "cur.id > 0", .beginIf "a",
      .setValue "cur.val", .send "in" "1", .endIf, .send "no" "getVal()"] := by decide +kernel
  obtain ⟨plan, found⟩ := Option.isSome_iff_exists.mp planned
  have success := ok_of_toOption _ _ found
  obtain ⟨derived, program, _, _, ⟨combine, given, combines⟩, sends, _, changes, _⟩ :=
    settings_describe_last sendsTwice "scope_" plan success
  have statements := Except.ok.inj (program.symm.trans read)
  have occurrences : derived.occurrences = [⟨"cur", .assign "a" "cur.id > 0"⟩,
      ⟨"cur", .beginIf "a"⟩, ⟨"a", .setValue "cur.val"⟩, ⟨"a", .send "in" "1"⟩, ⟨"a", .endIf⟩,
      ⟨"cur", .send "no" "getVal()"⟩] := by
    rw [Derivation.occurrences, statements]
    rfl
  refine ⟨plan, success, ?_, ?_, ?_⟩
  · cases given
    exact combines
  · exact sends (derived.occurrences.take 5) [] _ _ _ (by rw [occurrences]; rfl) (by simp)
  · exact changes (derived.occurrences.take 2) (derived.occurrences.drop 3) _ _
      (by rw [occurrences]; rfl) (by rw [occurrences]; decide)

end Planner

end Superstep
