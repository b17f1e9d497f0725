import Superstep.Yaml.Token.Scan

/-!
# The nodes of a YAML text

A text is one node: a scalar, a sequence or a map. A node that has an anchor can stand in other places
too, where its name is an alias for it.
-/

namespace Superstep.Yaml

structure Properties where
  /-- The number of its anchor. -/
  anchor : Option Nat := none
  tag : Option String := none
  deriving DecidableEq, Repr

inductive Node where
  /-- The node with the given number of an anchor. -/
  | alias (anchor : Nat)
  | scalar (properties : Properties) (style : Style) (text : String)
  | sequence (properties : Properties) (items : List Node)
  | mapping (properties : Properties) (entries : List (Node × Node))
  deriving Repr, Inhabited

/-- What stands where nothing is written. -/
def Node.empty : Node := .scalar {} .plain ""

/-- A reader of nodes: the tokens that are left, and what names and handles stand for. -/
structure Reader where
  tokens : List Token
  /-- The number that each name of an anchor stands for. -/
  anchors : List (String × Nat) := []
  /-- What each handle of a tag stands for. -/
  handles : List (String × String) := []

abbrev Reading := StateT Reader Option

namespace Reader

def peek : Reading (Option Token) := do return (← get).tokens.head?

def advance : Reading Unit := modify fun reader => { reader with tokens := reader.tokens.drop 1 }

def atAny (tokens : List Token) : Reading Bool := do
  return (← peek).any tokens.contains

def expect (token : Token) : Reading Unit := do
  if (← peek) == some token then advance else failure

/-- The number of a new anchor: how many names there are so far. A name that is used again is not
counted again. -/
def defineAnchor (name : String) : Reading Nat := do
  let reader ← get
  let number := reader.anchors.length
  let others := reader.anchors.filter (·.1 ≠ name)
  set { reader with anchors := (name, number) :: others }
  return number

/-- The number that a name stands for. -/
def anchor (name : String) : Reading Nat := do
  match (← get).anchors.lookup name with
  | some number => return number
  | none => failure

def tag (handle suffix : String) : Reading String := do
  if handle.isEmpty then return suffix
  match (← get).handles.lookup handle with
  | some stem => return stem ++ suffix
  | none => failure

def anchor? : Reading (Option Nat) := do
  match ← peek with
  | some (.anchor name) => do
    advance
    return some (← defineAnchor name)
  | _ => return none

def tag? : Reading (Option String) := do
  match ← peek with
  | some (.tag handle suffix) => do
    advance
    return some (← tag handle suffix)
  | _ => return none

/-- Reads an anchor and a tag, in either order. Each may be left out. -/
def properties : Reading Properties := do
  match ← anchor? with
  | some number => return { anchor := some number, tag := ← tag? }
  | none =>
    match ← tag? with
    | some text => return { anchor := ← anchor?, tag := some text }
    | none => return {}

/-- The properties of a scalar. The tag `!` says nothing about one. -/
def scalarProperties (properties : Properties) : Properties :=
  if properties.tag = some "!" then { properties with tag := none } else properties

/-- A node of which only properties are written. There has to be one of them. -/
def absent (properties : Properties) : Reading Node :=
  if properties = {} then failure else return .scalar properties .plain ""

mutual

/-- Reads a node. In brackets there are no blocks, and a sequence without indentation is only allowed
as part of a map. -/
def node : Nat → (block unindented : Bool) → Reading Node
  | 0, _, _ => failure
  | depth + 1, block, unindented => do
    match ← peek with
    | some (.alias name) => do
      advance
      return .alias (← anchor name)
    | _ => do
      let properties ← properties
      match ← peek with
      | some (.scalar style text) => do
        advance
        return .scalar (scalarProperties properties) style text
      | some .sequenceOpen => do
        advance
        return .sequence properties (← flowItems depth true [])
      | some .mappingOpen => do
        advance
        return .mapping properties (← flowEntries depth true [])
      | some .blockEntry =>
        if unindented then return .sequence properties (← unindentedItems depth [])
        else absent properties
      | some .blockSequenceStart =>
        if block then do
          advance
          return .sequence properties (← blockItems depth [])
        else absent properties
      | some .blockMappingStart =>
        if block then do
          advance
          return .mapping properties (← blockEntries depth [])
        else absent properties
      | _ => absent properties

/-- Reads a node, or nothing if one of the given tokens comes next. -/
def nodeUnless : Nat → List Token → (block unindented : Bool) → Reading Node
  | 0, _, _, _ => failure
  | depth + 1, ends, block, unindented => do
    if ← atAny ends then return Node.empty else node depth block unindented

def blockItems : Nat → List Node → Reading (List Node)
  | 0, _ => failure
  | depth + 1, items => do
    match ← peek with
    | some .blockEntry => do
      advance
      let item ← nodeUnless depth [.blockEntry, .blockEnd] true false
      blockItems depth (item :: items)
    | some .blockEnd => do
      advance
      return items.reverse
    | _ => failure

/-- Reads the items of a sequence that is not indented. It ends where the map around it goes on. -/
def unindentedItems : Nat → List Node → Reading (List Node)
  | 0, _ => failure
  | depth + 1, items => do
    match ← peek with
    | some .blockEntry => do
      advance
      let item ← nodeUnless depth [.blockEntry, .key, .value, .blockEnd] true false
      unindentedItems depth (item :: items)
    | _ => return items.reverse

/-- Reads the entries of an indented map. Each starts with a key; a value may be left out. -/
def blockEntries : Nat → List (Node × Node) → Reading (List (Node × Node))
  | 0, _ => failure
  | depth + 1, entries => do
    match ← peek with
    | some .key => do
      advance
      let ends := [.key, .value, .blockEnd]
      let key ← nodeUnless depth ends true true
      let value ← valueAfter depth ends true
      blockEntries depth ((key, value) :: entries)
    | some .blockEnd => do
      advance
      return entries.reverse
    | _ => failure

/-- Reads a value after a key, or nothing if no value follows or one of the given tokens comes next. -/
def valueAfter : Nat → List Token → (block : Bool) → Reading Node
  | 0, _, _ => failure
  | depth + 1, ends, block => do
    match ← peek with
    | some .value => do
      advance
      nodeUnless depth ends block block
    | _ => return Node.empty

/-- Reads the items of a sequence in brackets. A key with its value is a map of its own. -/
def flowItems : Nat → (first : Bool) → List Node → Reading (List Node)
  | 0, _, _ => failure
  | depth + 1, first, items => do
    if (← peek) == some .sequenceClose then
      advance
      return items.reverse
    if !first then expect .flowEntry
    match ← peek with
    | some .sequenceClose => do
      advance
      return items.reverse
    | some .key => do
      advance
      let key ← pairKey depth
      let value ← valueAfter depth [.flowEntry, .sequenceClose] false
      flowItems depth false (.mapping {} [(key, value)] :: items)
    | _ => do
      let item ← node depth false false
      flowItems depth false (item :: items)

/-- Reads the key of a single pair in square brackets. Where no key is written, the token in its place
is passed over. -/
def pairKey : Nat → Reading Node
  | 0 => failure
  | depth + 1 => do
    if ← atAny [.value, .flowEntry, .sequenceClose] then
      advance
      return Node.empty
    else node depth false false

/-- Reads the entries of a map in braces. A node without a colon is a key without a value. -/
def flowEntries : Nat → (first : Bool) → List (Node × Node) → Reading (List (Node × Node))
  | 0, _, _ => failure
  | depth + 1, first, entries => do
    if (← peek) == some .mappingClose then
      advance
      return entries.reverse
    if !first then expect .flowEntry
    match ← peek with
    | some .mappingClose => do
      advance
      return entries.reverse
    | some .key => do
      advance
      let key ← nodeUnless depth [.value, .flowEntry, .mappingClose] false false
      let value ← valueAfter depth [.flowEntry, .mappingClose] false
      flowEntries depth false ((key, value) :: entries)
    | _ => do
      let key ← node depth false false
      flowEntries depth false ((key, Node.empty) :: entries)

end

end Reader

end Superstep.Yaml
