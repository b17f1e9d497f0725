import Superstep.Yaml.Node

/-!
# YAML documents

A text holds one document, or nothing at all. Aliases are followed only when a value is wanted, so that
a node may be named before all of it is known.
-/

namespace Superstep.Yaml

namespace Node

mutual

/-- The nodes that have an anchor, in front of those that were found before. Of several with the same
number the last one comes first. -/
def anchored (found : List (Nat × Node)) : Node → List (Nat × Node)
  | .alias _ => found
  | .scalar properties style text =>
    match properties.anchor with
    | some number => (number, .scalar properties style text) :: found
    | none => found
  | .sequence properties items =>
    match properties.anchor with
    | some number => anchoredItems ((number, .sequence properties items) :: found) items
    | none => anchoredItems found items
  | .mapping properties entries =>
    match properties.anchor with
    | some number => anchoredEntries ((number, .mapping properties entries) :: found) entries
    | none => anchoredEntries found entries

def anchoredItems (found : List (Nat × Node)) : List Node → List (Nat × Node)
  | [] => found
  | item :: items => anchoredItems (anchored found item) items

def anchoredEntries (found : List (Nat × Node)) : List (Node × Node) → List (Nat × Node)
  | [] => found
  | (key, value) :: entries => anchoredEntries (anchored (anchored found key) value) entries

end

mutual

/-- The size of a node. A sequence or map counts twice, for its start and its end. -/
def size : Node → Nat
  | .alias _ => 1
  | .scalar _ _ _ => 1
  | .sequence _ items => itemSize items + 2
  | .mapping _ entries => entrySize entries + 2

def itemSize : List Node → Nat
  | [] => 0
  | item :: items => size item + itemSize items

def entrySize : List (Node × Node) → Nat
  | [] => 0
  | (key, value) :: entries => size key + size value + entrySize entries

end

end Node

structure Document where
  /-- The node that it is, if anything is written. -/
  root : Option Node := none

namespace Document

def commonHandles : List (String × String) := [("!", "!"), ("!!", "tag:yaml.org,2002:")]

/-- Reads the directives before a document. A version may be given once, and each handle once. -/
def handles? (versioned : Bool) (handles : List (String × String)) :
    List Token → Option (List (String × String) × List Token)
  | .versionDirective major minor :: tokens =>
    if versioned || major ≠ 1 || (minor ≠ 1 && minor ≠ 2) then none else handles? true handles tokens
  | .tagDirective handle stem :: tokens =>
    if (handles.lookup handle).isSome then none
    else handles? versioned ((handle, stem) :: handles) tokens
  | tokens => some (handles, tokens)

/-- Whether the tokens of a document start with directives or a line of its own. -/
def isExplicit : List Token → Bool
  | .versionDirective _ _ :: _ | .tagDirective _ _ :: _ | .documentStart :: _ => true
  | _ => false

/-- Whether no node comes next, after the line that starts a document. -/
def isBlank : List Token → Bool
  | [] | .documentEnd :: _ => true
  | tokens => isExplicit tokens

/-- The node of a document, given the handles before it and its tokens. -/
def node? (handles : List (String × String)) (tokens : List Token) : Option (Node × List Token) := do
  -- A token is passed over at least with every third step down.
  let depth := 4 * (tokens.length + 1)
  let (node, reader) ← (Reader.node depth true false).run { tokens, handles := handles ++ commonHandles }
  return (node, reader.tokens)

/-- Reads the tokens of a text. After the document only lines that end it may follow. -/
def ofTokens? (tokens : List Token) : Option Document := do
  if tokens.isEmpty then return {}
  let (node, rest) ←
    if isExplicit tokens then do
      let (handles, tokens) ← handles? false [] tokens
      match tokens with
      | .documentStart :: tokens =>
        if isBlank tokens then some (Node.empty, tokens) else node? handles tokens
      | _ => none
    else node? [] tokens
  if (rest.dropWhile (· == .documentEnd)).isEmpty then return { root := some node } else none

def read? (text : String) : Option Document := do ofTokens? (← tokens? text)

/-- How many aliases may be followed for each unit of size. -/
def aliasesPerSize : Nat := 100

/-- The nodes that aliases stand for, and how many aliases may be followed. -/
structure Aliases where
  targets : List (Nat × Node)
  left : Nat

abbrev Following := StateT Aliases Option

def follow? {α : Type} (document : Document) (step : Following α) : Option α :=
  let root := document.root.getD Node.empty
  (step.run { targets := root.anchored [], left := aliasesPerSize * root.size }).map (·.1)

end Document

def Node.target (node : Node) : Document.Following Node := do
  match node with
  | .alias anchor =>
    let aliases ← get
    if aliases.left = 0 then failure
    set { aliases with left := aliases.left - 1 }
    match aliases.targets.lookup anchor with
    | some target => return target
    | none => failure
  | node => return node

end Superstep.Yaml
