import Superstep.Plan
import Superstep.Proofs.Hexadecimal
import Superstep.Proofs.Json.CompactText

/-!
# Fingerprints

The exchanged form of a plan loses nothing and has no numbers with a fraction, so its compact text
tells the plan. Fingerprints then tell plans apart as far as the digest tells texts apart.
-/

namespace Superstep

namespace Json

attribute [simp] Exact.null Exact.bool Exact.int Exact.text

@[simp] theorem exact_list_iff (items : List Json) :
    Exact (.list items) ↔ ∀ item ∈ items, Exact item := by
  constructor
  · rintro (_ | _ | _ | _ | ⟨_, held⟩)
    exact held
  · exact .list items

@[simp] theorem exact_record_iff (fields : List (String × Json)) :
    Exact (.record fields) ↔ ∀ field ∈ fields, Exact field.2 := by
  constructor
  · rintro (_ | _ | _ | _ | _ | ⟨_, held⟩)
    exact held
  · exact .record fields

@[simp] theorem exact_texts (values : List String) : Exact (texts values) := by simp [texts]

@[simp] theorem exact_optionalText (value : Option String) : Exact (optionalText value) := by
  cases value <;> simp [optionalText]

@[simp] theorem texts_inj {values others : List String} :
    texts values = texts others ↔ values = others := by
  rw [texts, texts, Json.list.injEq]
  exact List.map_inj_right fun one other same => Json.text.inj same

@[simp] theorem optionalText_inj {value other : Option String} :
    optionalText value = optionalText other ↔ value = other := by
  cases value <;> cases other <;> simp [optionalText]

end Json

@[simp] theorem SetOperator.exact_toJson (operator : SetOperator) : operator.toJson.Exact := by
  cases operator <;> exact .text _

@[simp] theorem SetOperator.toJson_inj {one other : SetOperator} :
    one.toJson = other.toJson ↔ one = other := by
  cases one <;> cases other <;> simp [toJson]

@[simp] theorem InsertSource.exact_toJson (source : InsertSource) : source.toJson.Exact := by
  cases source <;> simp [toJson]

@[simp] theorem InsertSource.toJson_inj {one other : InsertSource} :
    one.toJson = other.toJson ↔ one = other := by
  cases one <;> cases other <;> simp [toJson]

@[simp] theorem LoopEnd.exact_toJson (loopEnd : LoopEnd) : loopEnd.toJson.Exact := by
  cases loopEnd <;> simp [toJson]

@[simp] theorem LoopEnd.toJson_inj {one other : LoopEnd} :
    one.toJson = other.toJson ↔ one = other := by
  cases one <;> cases other <;> simp [toJson]

theorem Select.exact_toFields (select : Select) : ∀ field ∈ select.toFields, field.2.Exact := by
  simp [toFields]

@[simp] theorem Select.toFields_inj {one other : Select} :
    one.toFields = other.toFields ↔ one = other := by
  cases one
  cases other
  simp [toFields]

@[simp] theorem SubSelect.exact_toJson (sub : SubSelect) : sub.toJson.Exact := by
  simpa [toJson] using sub.select.exact_toFields

@[simp] theorem SubSelect.toJson_inj {one other : SubSelect} :
    one.toJson = other.toJson ↔ one = other := by
  cases one
  cases other
  simp only [toJson, Json.record.injEq, List.cons.injEq, Prod.mk.injEq, true_and, and_true,
    Json.text.injEq, Json.int.injEq, Int.natCast_inj, Select.toFields_inj, mk.injEq]

theorem Union.exact_toFields (union : Union) : ∀ field ∈ union.toFields, field.2.Exact := by
  simp [toFields]

@[simp] theorem Union.toFields_inj {one other : Union} :
    one.toFields = other.toFields ↔ one = other := by
  cases one
  cases other
  simp [toFields]

theorem Action.exact_toFields (action : Action) : ∀ field ∈ action.toFields, field.2.Exact := by
  cases action with
  | select query => exact query.exact_toFields
  | union pair => exact pair.exact_toFields
  | _ => simp [toFields]

theorem Action.eq_of_toFields {one other : Action} (kinds : one.kindName = other.kindName)
    (fields : one.toFields = other.toFields) : one = other := by
  -- Different kinds have different names, and the fields of one kind hold all of its parts.
  cases one <;> cases other <;> simp_all [kindName, toFields]

@[simp] theorem Block.exact_toJson (block : Block) : block.toJson.Exact := by
  simpa [toJson] using block.action.exact_toFields

/-- Different blocks have different records. -/
theorem Block.toJson_injective : Function.Injective Block.toJson := by
  intro one other same
  cases one with
  | mk stage depth action =>
    cases other with
    | mk otherStage otherDepth otherAction =>
      simp only [toJson, Json.record.injEq, List.cons.injEq, Prod.mk.injEq, true_and, Json.text.injEq,
        Json.int.injEq, Int.natCast_inj] at same
      obtain ⟨rfl, rfl, kinds, fields⟩ := same
      rw [Action.eq_of_toFields kinds fields]

theorem Block.exact_listToJson (blocks : List Block) : (listToJson blocks).Exact := by
  simp [listToJson]

theorem Block.listToJson_injective : Function.Injective Block.listToJson := by
  intro blocks others same
  exact List.map_injective_iff.mpr toJson_injective (Json.list.inj same)

@[simp] theorem Settings.exact_toJson (settings : Settings) : settings.toJson.Exact := by
  rw [toJson, Json.exact_record_iff]
  intro field mem
  obtain ⟨entry, _, rfl⟩ := List.mem_map.mp mem
  exact .text entry.2

theorem Settings.toJson_injective : Function.Injective Settings.toJson := by
  intro one other same
  have fields : Function.Injective fun entry : String × String => (entry.1, Json.text entry.2) := by
    rintro ⟨key, value⟩ ⟨otherKey, otherValue⟩ entries
    simpa using entries
  cases one
  cases other
  exact congrArg mk (List.map_injective_iff.mpr fields (Json.record.inj same))

namespace Plan

theorem exact_toJson (plan : Plan) : plan.toJson.Exact := by simp [toJson, Block.exact_listToJson]

/-- Different plans have different records. -/
theorem toJson_injective : Function.Injective Plan.toJson := by
  intro one other same
  cases one with
  | mk blocks settings senders =>
    cases other with
    | mk otherBlocks otherSettings otherSenders =>
      simp only [toJson, Json.record.injEq, List.cons.injEq, Prod.mk.injEq, true_and, and_true,
        Json.texts_inj] at same
      obtain ⟨blocksSame, settingsSame, rfl⟩ := same
      rw [Block.listToJson_injective blocksSame, Settings.toJson_injective settingsSame]

end Plan

/-- If values are written injectively and without fractions, then compact texts tell them apart, and
fingerprints do so unless two texts collide. -/
theorem Json.written_canonical {α : Type} {write : α → Json} (exact : ∀ value, (write value).Exact)
    (injective : Function.Injective write) (one other : α) :
    ((write one).toCompact = (write other).toCompact ↔ one = other) ∧
      ((write one).fingerprint = (write other).fingerprint ↔ one = other ∨
        Sha256.Collision (write one).toCompact.toUTF8 (write other).toCompact.toUTF8) := by
  have texts : (write one).toCompact = (write other).toCompact ↔ one = other := by
    rw [toCompact_inj (exact one) (exact other), injective.eq_iff]
  rw [fingerprint, fingerprint, Sha256.hex_eq_iff_collision, texts]
  exact ⟨Iff.rfl, Iff.rfl⟩

/-- Compact texts tell plans and lists of blocks apart, and fingerprints do so up to collisions of the
digest. -/
theorem Plan.fingerprint_canonical :
    (∀ one other : Plan,
      (one.toJson.toCompact = other.toJson.toCompact ↔ one = other) ∧
      (one.fingerprint = other.fingerprint ↔ one = other ∨
        Sha256.Collision one.toJson.toCompact.toUTF8 other.toJson.toCompact.toUTF8)) ∧
    (∀ blocks others : List Block,
      ((Block.listToJson blocks).toCompact = (Block.listToJson others).toCompact ↔ blocks = others) ∧
      ((Block.listToJson blocks).fingerprint = (Block.listToJson others).fingerprint ↔
        blocks = others ∨ Sha256.Collision (Block.listToJson blocks).toCompact.toUTF8
          (Block.listToJson others).toCompact.toUTF8)) := by
  constructor
  · exact Json.written_canonical exact_toJson toJson_injective
  · exact Json.written_canonical Block.exact_listToJson Block.listToJson_injective

end Superstep
