import Superstep.Block.Sql
import Superstep.Block.Wire
import Superstep.Sorted

/-!
# Plans

What planning an algorithm results in: the blocks of its program, the settings that were derived on the
way, and the tables whose values are sent.
-/

namespace Superstep

/-- Settings by name, sorted by name. -/
structure Settings where
  entries : List (String × String) := []
  deriving DecidableEq, Repr

namespace Settings

def get? (settings : Settings) (key : String) : Option String := settings.entries.lookup key

def set (settings : Settings) (key value : String) : Settings :=
  ⟨insertKey key value settings.entries⟩

def toJson (settings : Settings) : Json :=
  .record (settings.entries.map fun (key, value) => (key, .text value))

def ofJson? (json : Json) : Option Settings := do
  let entries ← (← json.asRecord?).mapM fun (key, value) => value.asText?.map (key, ·)
  return ⟨sortKeys entries⟩

end Settings

structure Plan where
  blocks : List Block
  settings : Settings
  /-- The tables whose values are sent, sorted. -/
  senders : List String
  deriving DecidableEq, Repr

namespace Plan

/-- The number of descriptors, the sides of unions included. -/
def descriptorCount (plan : Plan) : Nat :=
  plan.blocks.foldr (fun block count => block.descriptorCount + count) 0

def toJson (plan : Plan) : Json :=
  .record [("blocks", Block.listToJson plan.blocks), ("converted_options", plan.settings.toJson),
    ("senders", Json.texts plan.senders)]

def ofJson? (json : Json) : Option Plan := do
  let fields ← json.fields? 3
  return {
    blocks := ← Block.listOfJson? (← fields.get? 0 "blocks")
    settings := ← Settings.ofJson? (← fields.get? 1 "converted_options")
    senders := sortTexts (← fields.texts? 2 "senders") }

def fingerprint (plan : Plan) : String := plan.toJson.fingerprint

def sql (plan : Plan) : Except SqlError String := Block.program plan.blocks

end Plan

end Superstep
