import Mathlib.Data.List.Nodup
import Superstep.Plan
import Superstep.Proofs.Sorted

/-!
# The exchanged form is read back

What is written for a plan is read as the same plan, provided that its numbers fit in sixty-four bits
and that its settings and senders are sorted. A record is read by looking its fields up by name, so two
records that agree on the names of a block are read as the same block: neither the order of the fields
nor fields with other names matter.
-/

namespace Superstep

/-- A list is read back if each of its items is. -/
theorem mapM_map_some {α β : Type} (write : α → β) (read : β → Option α) (items : List α)
    (back : ∀ item ∈ items, read (write item) = some item) :
    (items.map write).mapM read = some items := by
  induction items with
  | nil => rfl
  | cons item items ih =>
    have first := back item List.mem_cons_self
    have later := ih fun other member => back other (List.mem_cons_of_mem item member)
    rw [List.map_cons, List.mapM_cons, first, later]
    rfl

/-- In a record whose names are distinct, a field is looked up exactly if it stands there. -/
theorem lookup_eq_some_iff_mem {α : Type} {fields : List (String × α)}
    (distinct : (fields.map Prod.fst).Nodup) (name : String) (value : α) :
    fields.lookup name = some value ↔ (name, value) ∈ fields := by
  induction fields with
  | nil => simp
  | cons field fields ih =>
    obtain ⟨other, held⟩ := field
    rw [List.map_cons, List.nodup_cons] at distinct
    by_cases here : name = other
    · subst here
      rw [List.lookup_cons_self, Option.some.injEq, List.mem_cons, Prod.mk.injEq]
      constructor
      · rintro rfl
        exact .inl ⟨rfl, rfl⟩
      · rintro (⟨_, rfl⟩ | behind)
        · rfl
        · exact absurd (List.mem_map_of_mem behind) distinct.1
    · have skipped : ((other, held) :: fields).lookup name = fields.lookup name := by
        rw [List.lookup_cons, beq_false_of_ne here]
      rw [skipped, ih distinct.2, List.mem_cons, Prod.mk.injEq]
      simp [here]

namespace Json

theorem asTexts?_texts (values : List String) : (texts values).asTexts? = some values :=
  mapM_map_some Json.text asText? values fun _ _ => rfl

theorem asCount?_int (depth : Nat) (fits : fitsUnsigned64 depth = true) :
    (Json.int depth).asCount? = some depth := by
  change (if fitsUnsigned64 depth then some (depth : Int).toNat else none) = some depth
  rw [if_pos fits, Int.toNat_natCast]

theorem asInt64?_int (value : Int) (fits : fitsSigned64 value = true) :
    (Json.int value).asInt64? = some value :=
  if_pos fits

end Json

namespace SetOperator

theorem ofJson?_toJson (inBlock : Bool) (operator : SetOperator) :
    ofJson? inBlock operator.toJson = some operator := by
  cases operator <;> rfl

end SetOperator

namespace Fields

/-- Two records agree on names if looking each of the names up gives the same. -/
def AgreeOn (names : List String) (fields others : List (String × Json)) : Prop :=
  ∀ name ∈ names, fields.lookup name = others.lookup name

theorem optionalText?_written (fields : List (String × Json)) (place : Nat) (name : String)
    (value : Option String) (held : fields.lookup name = some (Json.optionalText value)) :
    (named fields).optionalText? place name = some value := by
  cases value <;> simp [optionalText?, get?, held, Json.optionalText, Json.asText?]

section Agree

variable {names : List String} {fields others : List (String × Json)}

variable (agree : AgreeOn names fields others) (place : Nat) (name : String) (known : name ∈ names)

include agree known

theorem get?_congr : (named fields).get? place name = (named others).get? place name :=
  agree name known

theorem text?_congr : (named fields).text? place name = (named others).text? place name := by
  rw [text?, text?, get?_congr agree place name known]

theorem texts?_congr : (named fields).texts? place name = (named others).texts? place name := by
  rw [texts?, texts?, get?_congr agree place name known]

theorem optionalText?_congr :
    (named fields).optionalText? place name = (named others).optionalText? place name := by
  unfold optionalText?
  rw [get?_congr agree place name known]
  cases (named others).get? place name with
  | none => rfl
  | some value => cases value <;> rfl

theorem textOrEmpty?_congr :
    (named fields).textOrEmpty? place name = (named others).textOrEmpty? place name := by
  unfold textOrEmpty?
  rw [get?_congr agree place name known]
  cases (named others).get? place name <;> rfl

end Agree

end Fields

namespace InsertSource

theorem ofJson?_toJson (inBlock : Bool) (source : InsertSource) :
    ofJson? inBlock source.toJson = some source := by
  cases source with
  | select columns table =>
    have parts : ofJson? inBlock (toJson (.select columns table)) =
        (Json.texts columns).asTexts?.bind fun columns => some (.select columns table) := rfl
    rw [parts, Json.asTexts?_texts, Option.bind_some]
  | values row =>
    have parts : ofJson? inBlock (toJson (.values row)) =
        (Json.texts row).asTexts?.bind fun row => some (.values row) := rfl
    rw [parts, Json.asTexts?_texts, Option.bind_some]

end InsertSource

namespace LoopEnd

def numbersFit : LoopEnd → Bool
  | .noMessage => true
  | .countdown _ supersteps => fitsSigned64 supersteps

theorem ofJson?_toJson (inBlock : Bool) (loopEnd : LoopEnd) (fits : loopEnd.numbersFit = true) :
    ofJson? inBlock loopEnd.toJson = some loopEnd := by
  cases loopEnd with
  | noMessage => rfl
  | countdown label supersteps =>
    have parts : ofJson? inBlock (toJson (.countdown label supersteps)) =
        (Json.int supersteps).asInt64?.bind fun supersteps => some (.countdown label supersteps) := rfl
    rw [parts, Json.asInt64?_int supersteps fits, Option.bind_some]

end LoopEnd

namespace Select

def fieldNames : List String := ["attrs", "target", "from", "predicate", "id_join", "group_by"]

theorem ofFields?_congr {fields others : List (String × Json)}
    (agree : Fields.AgreeOn fieldNames fields others) :
    ofFields? (.named fields) = ofFields? (.named others) := by
  unfold ofFields?
  rw [Fields.texts?_congr agree 0 "attrs" (by decide),
    Fields.optionalText?_congr agree 1 "target" (by decide),
    Fields.texts?_congr agree 2 "from" (by decide),
    Fields.textOrEmpty?_congr agree 3 "predicate" (by decide),
    Fields.get?_congr agree 4 "id_join" (by decide),
    Fields.optionalText?_congr agree 5 "group_by" (by decide)]

theorem ofFields?_toFields (select : Select) :
    ofFields? (.named select.toFields) = some select := by
  have columns : (Fields.named select.toFields).texts? 0 "attrs" = some select.columns :=
    Json.asTexts?_texts select.columns
  have target := Fields.optionalText?_written select.toFields 1 "target" select.target rfl
  have sources : (Fields.named select.toFields).texts? 2 "from" = some select.sources :=
    Json.asTexts?_texts select.sources
  have groupBy := Fields.optionalText?_written select.toFields 5 "group_by" select.groupBy rfl
  rw [ofFields?, columns, target, sources, groupBy]
  rfl

end Select

namespace SubSelect

theorem ofJson?_toJson (sub : SubSelect) (fits : fitsUnsigned64 sub.depth = true) :
    ofJson? sub.toJson = some sub := by
  have parts : ofJson? sub.toJson = (Json.int sub.depth).asCount?.bind fun depth =>
      (Select.ofFields? (.named sub.select.toFields)).bind fun select =>
        some ⟨sub.stage, depth, select⟩ := rfl
  rw [parts, Json.asCount?_int sub.depth fits, Option.bind_some, Select.ofFields?_toFields,
    Option.bind_some]

end SubSelect

namespace Union

def fieldNames : List String := ["attrs", "target", "lhs", "rhs", "op"]

theorem ofFields?_congr {fields others : List (String × Json)}
    (agree : Fields.AgreeOn fieldNames fields others) :
    ofFields? (.named fields) = ofFields? (.named others) := by
  unfold ofFields?
  rw [Fields.texts?_congr agree 0 "attrs" (by decide), Fields.text?_congr agree 1 "target" (by decide),
    Fields.get?_congr agree 2 "lhs" (by decide), Fields.get?_congr agree 3 "rhs" (by decide),
    Fields.get?_congr agree 4 "op" (by decide)]

theorem ofFields?_toFields (union : Union) (left : fitsUnsigned64 union.left.depth = true)
    (right : fitsUnsigned64 union.right.depth = true) :
    ofFields? (.named union.toFields) = some union := by
  have parts : ofFields? (.named union.toFields) =
      (Json.texts union.columns).asTexts?.bind fun columns =>
        (SubSelect.ofJson? union.left.toJson).bind fun left =>
          (SubSelect.ofJson? union.right.toJson).bind fun right =>
            (SetOperator.ofJson? true union.operator.toJson).bind fun operator =>
              some ⟨columns, union.target, left, right, operator⟩ := rfl
  simp only [parts, Json.asTexts?_texts, SubSelect.ofJson?_toJson _ left,
    SubSelect.ofJson?_toJson _ right, SetOperator.ofJson?_toJson, Option.bind_some]

end Union

namespace Action

def numbersFit : Action → Bool
  | .union pair => fitsUnsigned64 pair.left.depth && fitsUnsigned64 pair.right.depth
  | .beginLoop flagStart _ => fitsSigned64 flagStart
  | .endLoop loopEnd _ => loopEnd.numbersFit
  | .statement _ | .createTable _ _ | .dropTable _ | .insert _ _ | .select _ | .updateVertex _ _ => true

/-- The fields that an action is read from hold its parts. -/
def HeldBy (fields : Fields) : Action → Prop
  | .statement sql => fields.text? 0 "sql" = some sql
  | .createTable table columns =>
    fields.text? 0 "table" = some table ∧ fields.texts? 1 "columns" = some columns
  | .dropTable table => fields.text? 0 "table" = some table
  | .insert table source =>
    fields.text? 0 "table" = some table ∧
      (fields.get? 1 "source").bind (InsertSource.ofJson? true) = some source
  | .select query => Select.ofFields? fields = some query
  | .union pair => Union.ofFields? fields = some pair
  | .updateVertex context value =>
    fields.text? 0 "context" = some context ∧ fields.text? 1 "value" = some value
  | .beginLoop flagStart condition =>
    (fields.get? 0 "flag_init").bind Json.asInt64? = some flagStart ∧
      fields.text? 1 "condition" = some condition
  | .endLoop loopEnd artifact =>
    (fields.get? 0 "termination").bind (LoopEnd.ofJson? true) = some loopEnd ∧
      fields.text? 1 "artifact" = some artifact

theorem ofFields?_of_not_mem (kind : String) (fields : Fields) (unknown : kind ∉ kinds) :
    ofFields? kind fields = none := by
  simp only [kinds, List.mem_cons, List.not_mem_nil, or_false, not_or] at unknown
  obtain ⟨statement, create, drop, insert, select, union, update, begin, finish⟩ := unknown
  rw [ofFields?, if_neg statement, if_neg create, if_neg drop, if_neg insert, if_neg select,
    if_neg union, if_neg update, if_neg begin, if_neg finish]

/-- What an action is read from names its kind and holds its parts. -/
theorem heldBy_of_ofFields? {kind : String} {fields : List (String × Json)} {action : Action}
    (read : ofFields? kind (.named fields) = some action) :
    kind = action.kindName ∧ action.HeldBy (.named fields) := by
  by_cases known : kind ∈ kinds
  · simp only [kinds, List.mem_cons, List.not_mem_nil, or_false] at known
    -- Once the kind is known, the reader is the chain of readers of its parts.
    rcases known with rfl | rfl | rfl | rfl | rfl | rfl | rfl | rfl | rfl
    · obtain ⟨sql, held, same⟩ := Option.bind_eq_some_iff.mp read
      cases same
      exact ⟨rfl, held⟩
    · obtain ⟨table, held, rest⟩ := Option.bind_eq_some_iff.mp read
      obtain ⟨columns, others, same⟩ := Option.bind_eq_some_iff.mp rest
      cases same
      exact ⟨rfl, held, others⟩
    · obtain ⟨table, held, same⟩ := Option.bind_eq_some_iff.mp read
      cases same
      exact ⟨rfl, held⟩
    · obtain ⟨table, held, rest⟩ := Option.bind_eq_some_iff.mp read
      obtain ⟨json, found, rest⟩ := Option.bind_eq_some_iff.mp rest
      obtain ⟨source, others, same⟩ := Option.bind_eq_some_iff.mp rest
      cases same
      exact ⟨rfl, held, Option.bind_eq_some_iff.mpr ⟨json, found, others⟩⟩
    · obtain ⟨query, held, same⟩ := Option.bind_eq_some_iff.mp read
      cases same
      exact ⟨rfl, held⟩
    · obtain ⟨pair, held, same⟩ := Option.bind_eq_some_iff.mp read
      cases same
      exact ⟨rfl, held⟩
    · obtain ⟨context, held, rest⟩ := Option.bind_eq_some_iff.mp read
      obtain ⟨value, others, same⟩ := Option.bind_eq_some_iff.mp rest
      cases same
      exact ⟨rfl, held, others⟩
    · obtain ⟨json, found, rest⟩ := Option.bind_eq_some_iff.mp read
      obtain ⟨flagStart, held, rest⟩ := Option.bind_eq_some_iff.mp rest
      obtain ⟨condition, others, same⟩ := Option.bind_eq_some_iff.mp rest
      cases same
      exact ⟨rfl, Option.bind_eq_some_iff.mpr ⟨json, found, held⟩, others⟩
    · obtain ⟨json, found, rest⟩ := Option.bind_eq_some_iff.mp read
      obtain ⟨loopEnd, held, rest⟩ := Option.bind_eq_some_iff.mp rest
      obtain ⟨artifact, others, same⟩ := Option.bind_eq_some_iff.mp rest
      cases same
      exact ⟨rfl, Option.bind_eq_some_iff.mpr ⟨json, found, held⟩, others⟩
  · rw [ofFields?_of_not_mem kind _ known] at read
    cases read

/-- An action is read from any fields that hold its parts. -/
theorem HeldBy.ofFields? {fields : List (String × Json)} {action : Action}
    (held : action.HeldBy (.named fields)) :
    Action.ofFields? action.kindName (.named fields) = some action := by
  cases action with
  | statement | dropTable | select | union =>
    exact Option.bind_eq_some_iff.mpr ⟨_, held, rfl⟩
  | createTable | updateVertex =>
    obtain ⟨first, second⟩ := held
    exact Option.bind_eq_some_iff.mpr ⟨_, first, Option.bind_eq_some_iff.mpr ⟨_, second, rfl⟩⟩
  | insert =>
    obtain ⟨first, second⟩ := held
    obtain ⟨json, found, read⟩ := Option.bind_eq_some_iff.mp second
    exact Option.bind_eq_some_iff.mpr ⟨_, first, Option.bind_eq_some_iff.mpr ⟨_, found,
      Option.bind_eq_some_iff.mpr ⟨_, read, rfl⟩⟩⟩
  | beginLoop | endLoop =>
    obtain ⟨first, second⟩ := held
    obtain ⟨json, found, read⟩ := Option.bind_eq_some_iff.mp first
    exact Option.bind_eq_some_iff.mpr ⟨_, found, Option.bind_eq_some_iff.mpr ⟨_, read,
      Option.bind_eq_some_iff.mpr ⟨_, second, rfl⟩⟩⟩

theorem ofFields?_eq_some_iff (kind : String) (fields : List (String × Json)) (action : Action) :
    ofFields? kind (.named fields) = some action ↔
      kind = action.kindName ∧ action.HeldBy (.named fields) := by
  constructor
  · exact heldBy_of_ofFields?
  · rintro ⟨rfl, held⟩
    exact held.ofFields?

def fieldNames (action : Action) : List String := action.toFields.map Prod.fst

/-- Only the fields that an action has names for matter, in any order and among any others. -/
theorem HeldBy.congr {action : Action} {fields others : List (String × Json)}
    (held : action.HeldBy (.named others)) (agree : Fields.AgreeOn action.fieldNames fields others) :
    action.HeldBy (.named fields) := by
  cases action with
  | statement sql =>
    rwa [HeldBy, Fields.text?_congr agree 0 "sql" (by simp [fieldNames, toFields])]
  | createTable table columns =>
    rwa [HeldBy, Fields.text?_congr agree 0 "table" (by simp [fieldNames, toFields]),
      Fields.texts?_congr agree 1 "columns" (by simp [fieldNames, toFields])]
  | dropTable table =>
    rwa [HeldBy, Fields.text?_congr agree 0 "table" (by simp [fieldNames, toFields])]
  | insert table source =>
    rwa [HeldBy, Fields.text?_congr agree 0 "table" (by simp [fieldNames, toFields]),
      Fields.get?_congr agree 1 "source" (by simp [fieldNames, toFields])]
  | select query => rwa [HeldBy, Select.ofFields?_congr agree]
  | union pair => rwa [HeldBy, Union.ofFields?_congr agree]
  | updateVertex context value =>
    rwa [HeldBy, Fields.text?_congr agree 0 "context" (by simp [fieldNames, toFields]),
      Fields.text?_congr agree 1 "value" (by simp [fieldNames, toFields])]
  | beginLoop flagStart condition =>
    rwa [HeldBy, Fields.get?_congr agree 0 "flag_init" (by simp [fieldNames, toFields]),
      Fields.text?_congr agree 1 "condition" (by simp [fieldNames, toFields])]
  | endLoop loopEnd artifact =>
    rwa [HeldBy, Fields.get?_congr agree 0 "termination" (by simp [fieldNames, toFields]),
      Fields.text?_congr agree 1 "artifact" (by simp [fieldNames, toFields])]

/-- The fields that are written for an action hold it. -/
theorem heldBy_toFields (action : Action) (fits : action.numbersFit = true) :
    action.HeldBy (.named action.toFields) := by
  cases action with
  | statement | dropTable => rfl
  | createTable table columns => exact ⟨rfl, Json.asTexts?_texts columns⟩
  | insert table source => exact ⟨rfl, InsertSource.ofJson?_toJson true source⟩
  | select query => exact Select.ofFields?_toFields query
  | union pair =>
    obtain ⟨left, right⟩ := Bool.and_eq_true_iff.mp fits
    exact Union.ofFields?_toFields pair left right
  | updateVertex context value => exact ⟨rfl, rfl⟩
  | beginLoop flagStart condition => exact ⟨Json.asInt64?_int flagStart fits, rfl⟩
  | endLoop loopEnd artifact => exact ⟨LoopEnd.ofJson?_toJson true loopEnd fits, rfl⟩

end Action

namespace Block

def numbersFit (block : Block) : Bool := fitsUnsigned64 block.depth && block.action.numbersFit

def fieldNames (block : Block) : List String :=
  "stage" :: "depth" :: "kind" :: block.action.fieldNames

theorem ofJson?_eq_some_iff (fields : List (String × Json)) (block : Block) :
    ofJson? (.record fields) = some block ↔
      (fields.lookup "stage").bind Json.asText? = some block.stage ∧
      (fields.lookup "depth").bind Json.asCount? = some block.depth ∧
      (fields.lookup "kind").bind (Json.kind? Action.kinds true) = some block.action.kindName ∧
      block.action.HeldBy (.named fields) := by
  simp only [ofJson?, Action.ofJson?, Json.variant?, Option.bind_eq_bind, Option.bind_eq_some_iff,
    Option.pure_def]
  constructor
  · rintro ⟨stageJson, stageFound, stage, stageRead, depthJson, depthFound, depth, depthRead, action,
      ⟨variant, ⟨kindJson, kindFound, kind, kindRead, same⟩, actionRead⟩, made⟩
    cases same
    cases made
    obtain ⟨rfl, held⟩ := (Action.ofFields?_eq_some_iff kind fields action).mp actionRead
    exact ⟨⟨stageJson, stageFound, stageRead⟩, ⟨depthJson, depthFound, depthRead⟩,
      ⟨kindJson, kindFound, kindRead⟩, held⟩
  · rintro ⟨⟨stageJson, stageFound, stageRead⟩, ⟨depthJson, depthFound, depthRead⟩,
      ⟨kindJson, kindFound, kindRead⟩, held⟩
    have actionRead := (Action.ofFields?_eq_some_iff _ fields block.action).mpr ⟨rfl, held⟩
    exact ⟨stageJson, stageFound, block.stage, stageRead, depthJson, depthFound, block.depth,
      depthRead, block.action, ⟨_, ⟨kindJson, kindFound, _, kindRead, rfl⟩, actionRead⟩, rfl⟩

/-- Records that agree on the names of a block are read as the same block. -/
theorem ofJson?_congr {fields others : List (String × Json)} {block : Block}
    (read : ofJson? (.record others) = some block)
    (agree : Fields.AgreeOn block.fieldNames fields others) :
    ofJson? (.record fields) = some block := by
  rw [ofJson?_eq_some_iff] at read ⊢
  obtain ⟨stage, depth, kind, held⟩ := read
  rw [agree "stage" (by simp [fieldNames]), agree "depth" (by simp [fieldNames]),
    agree "kind" (by simp [fieldNames])]
  refine ⟨stage, depth, kind, held.congr ?_⟩
  intro name known
  exact agree name (by simp [fieldNames, known])

theorem ofJson?_toJson (block : Block) (fits : block.numbersFit = true) :
    ofJson? block.toJson = some block := by
  obtain ⟨depth, numbers⟩ := Bool.and_eq_true_iff.mp fits
  have kind : (Json.text block.action.kindName).kind? Action.kinds true =
      some block.action.kindName := by
    cases block.action <;> rfl
  refine (ofJson?_eq_some_iff _ block).mpr ⟨rfl, Json.asCount?_int block.depth depth, kind, ?_⟩
  refine (block.action.heldBy_toFields numbers).congr ?_
  -- No field of an action has the name of one of the three fields that stand before them.
  intro name known
  have apart : name ≠ "stage" ∧ name ≠ "depth" ∧ name ≠ "kind" := by
    have all : block.action.fieldNames.all
        (fun name => name != "stage" && name != "depth" && name != "kind") = true := by
      cases block.action <;> rfl
    simpa [and_assoc] using List.all_eq_true.mp all name known
  simp [List.lookup_cons, beq_false_of_ne apart.1, beq_false_of_ne apart.2.1,
    beq_false_of_ne apart.2.2]

theorem listOfJson?_listToJson (blocks : List Block)
    (fits : ∀ block ∈ blocks, block.numbersFit = true) :
    listOfJson? (listToJson blocks) = some blocks :=
  mapM_map_some toJson ofJson? blocks fun block member => ofJson?_toJson block (fits block member)

/-- What is read is always a record, and it may be widened by fields with other names and reordered. -/
theorem ofJson?_widened {json : Json} {block : Block} (read : ofJson? json = some block) :
    ∃ fields, json = .record fields ∧
      ∀ extra widened : List (String × Json),
        (∀ field ∈ extra, field.1 ∉ block.fieldNames) → widened.Perm (fields ++ extra) →
        (widened.map Prod.fst).Nodup → ofJson? (.record widened) = some block := by
  cases json with
  | record fields =>
    refine ⟨fields, rfl, ?_⟩
    intro extra widened unknown same distinct
    refine ofJson?_congr read ?_
    intro name known
    have before : (fields.map Prod.fst).Nodup := by
      have whole := (same.map Prod.fst).nodup_iff.mp distinct
      rw [List.map_append] at whole
      exact whole.of_append_left
    apply Option.ext
    intro value
    rw [lookup_eq_some_iff_mem distinct, lookup_eq_some_iff_mem before, same.mem_iff, List.mem_append]
    constructor
    · rintro (old | new)
      · exact old
      · exact absurd known (unknown _ new)
    · exact .inl
  | _ => cases read

end Block

namespace Settings

theorem ofJson?_toJson (settings : Settings) (sorted : settings.entries.Pairwise (·.1 < ·.1)) :
    ofJson? settings.toJson = some settings := by
  unfold ofJson? toJson
  refine Option.bind_eq_some_iff.mpr ⟨_, rfl, ?_⟩
  refine Option.bind_eq_some_iff.mpr ⟨settings.entries, ?_, ?_⟩
  · exact mapM_map_some _ _ settings.entries fun _ _ => rfl
  · rw [sortKeys_of_ascending _ sorted]
    rfl

end Settings

namespace Plan

/-- The plans that can be exchanged: their numbers fit in sixty-four bits, and their settings and
senders are sorted, each once. -/
structure Exchangeable (plan : Plan) : Prop where
  numbers : ∀ block ∈ plan.blocks, block.numbersFit = true
  settings : plan.settings.entries.Pairwise (·.1 < ·.1)
  senders : plan.senders.Pairwise (· < ·)

theorem ofJson?_toJson (plan : Plan) (exchangeable : plan.Exchangeable) :
    ofJson? plan.toJson = some plan := by
  have blocks := Block.listOfJson?_listToJson plan.blocks exchangeable.numbers
  have settings := plan.settings.ofJson?_toJson exchangeable.settings
  have senders := Json.asTexts?_texts plan.senders
  have sorted := sortTexts_of_ascending plan.senders exchangeable.senders
  have parts : ofJson? plan.toJson =
      (Block.listOfJson? (Block.listToJson plan.blocks)).bind fun blocks =>
        (Settings.ofJson? plan.settings.toJson).bind fun settings =>
          (Json.texts plan.senders).asTexts?.bind fun senders =>
            some ⟨blocks, settings, sortTexts senders⟩ := rfl
  rw [parts, blocks, settings, senders]
  simp only [Option.bind_some, sorted]

/-- What is written for a plan is read as that plan. A block is always read from a record, and is also
read from every record that has further fields with names that no block of its kind has, with the
fields in any order. A record has each name once. -/
theorem exchange_round_trip :
    (∀ plan : Plan, plan.Exchangeable → ofJson? plan.toJson = some plan) ∧
      ∀ (json : Json) (block : Block), Block.ofJson? json = some block →
        ∃ fields, json = .record fields ∧
          ∀ extra widened : List (String × Json),
            (∀ field ∈ extra, field.1 ∉ block.fieldNames) → widened.Perm (fields ++ extra) →
            (widened.map Prod.fst).Nodup → Block.ofJson? (.record widened) = some block :=
  ⟨ofJson?_toJson, fun _ _ => Block.ofJson?_widened⟩

/-- A plan with a union, a loop that counts down from the least number, and texts that look like JSON. -/
def exchanged : Plan where
  blocks :=
    [⟨"sendMsg", 1, .union
        ⟨["*"], "message",
          ⟨"genMsg0", 18446744073709551615,
            ⟨["edge.dest AS id"], none, ["next", "edge"], "", true, some "dest"⟩⟩,
          ⟨"genMsg1", 2, ⟨[], some "m", [], "\"null\"", false, none⟩⟩, .unionAll⟩⟩,
      ⟨"endWhile", 0, .endLoop (.countdown "ITER" (-9223372036854775808)) "message"⟩]
  settings := ⟨[("SendMsgDir", "all"), ("aggFunc", "[1,2]"), ("msgDir", "all")]⟩
  senders := ["cur", "next"]

def dropFields : List (String × Json) :=
  [("stage", .text "drop"), ("depth", .int 0), ("kind", .text "DropTable"), ("table", .text "cur")]

theorem exchange_round_trip_exchanged :
    exchanged.Exchangeable ∧ ofJson? exchanged.toJson = some exchanged ∧
      Block.ofJson? (.record dropFields) = some ⟨"drop", 0, .dropTable "cur"⟩ ∧
      Block.ofJson? (.record (("sql", .null) :: dropFields.reverse)) =
        some ⟨"drop", 0, .dropTable "cur"⟩ := by
  have exchangeable : exchanged.Exchangeable := ⟨by decide, by decide, by decide⟩
  have read : Block.ofJson? (.record dropFields) = some ⟨"drop", 0, .dropTable "cur"⟩ := rfl
  obtain ⟨fields, same, keeps⟩ := exchange_round_trip.2 _ _ read
  cases same
  refine ⟨exchangeable, exchange_round_trip.1 _ exchangeable, read, ?_⟩
  refine keeps [("sql", .null)] _ (by decide) ?_ (by decide)
  exact List.reverse_perm (dropFields ++ [("sql", .null)])

end Plan

end Superstep
