/-!
# The tokens of a YAML text

A text is cut into tokens before its structure is read. Indentation shows up in them as the starts and
ends of blocks, and every key is announced by a token of its own.
-/

namespace Superstep.Yaml

inductive Style where
  | plain
  | quoted
  /-- A block whose lines are kept. -/
  | literal
  /-- A block whose lines are folded. -/
  | folded
  deriving DecidableEq, Repr

inductive Token where
  | versionDirective (major minor : Nat)
  /-- A handle for tags and what it stands for. -/
  | tagDirective (handle stem : String)
  | documentStart | documentEnd
  | blockSequenceStart | blockMappingStart | blockEnd
  /-- A dash before an item. -/
  | blockEntry
  | sequenceOpen | sequenceClose | mappingOpen | mappingClose
  /-- A comma in brackets. -/
  | flowEntry
  /-- A key follows. -/
  | key
  /-- A value follows. -/
  | value
  | alias (name : String)
  | anchor (name : String)
  | tag (handle suffix : String)
  | scalar (style : Style) (text : String)
  deriving DecidableEq, Repr

end Superstep.Yaml
