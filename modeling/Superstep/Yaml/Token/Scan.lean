import Superstep.Yaml.Property

/-!
# Cutting a text into tokens

What can be a key shows only at the colon behind it. So the place where a key may have started is
remembered, and its token is put in there once the colon is found. A key and its colon stand on one
line, and not too far from each other.
-/

namespace Superstep.Yaml

structure PossibleKey where
  /-- Whether nothing but a key can stand there. -/
  required : Bool
  /-- How many tokens stand before it. -/
  position : Nat
  start : Mark
  deriving DecidableEq, Repr

structure Scan where
  /-- The tokens so far, the last one first. -/
  tokens : List Token := []
  /-- How many tokens there are. -/
  count : Nat := 0
  /-- The columns of the blocks that are open, the innermost first. -/
  columns : List Nat := []
  keyAllowed : Bool := true
  /-- The possible key within the innermost brackets. -/
  key : Option PossibleKey := none
  /-- The possible keys around each of the brackets that are open, the innermost first. -/
  outerKeys : List (Option PossibleKey) := []

namespace Scan

/-- Whether brackets are open. Indentation says nothing within them. -/
def bracketed (scan : Scan) : Bool := !scan.outerKeys.isEmpty

/-- The least column of what belongs to the innermost block. -/
def low (scan : Scan) : Nat :=
  match scan.columns with
  | [] => 0
  | column :: _ => column + 1

def push (scan : Scan) (token : Token) : Scan :=
  { scan with tokens := token :: scan.tokens, count := scan.count + 1 }

/-- Puts a token before the ones after the given position. -/
def pushAt (scan : Scan) (position : Nat) (token : Token) : Scan :=
  let after := scan.count - position
  { scan with
    tokens := scan.tokens.take after ++ token :: scan.tokens.drop after
    count := scan.count + 1 }

def closeTo (scan : Scan) (column : Nat) : Scan :=
  if scan.bracketed then scan
  else
    let closed := (scan.columns.takeWhile (column < ·)).length
    { scan with
      tokens := List.replicate closed .blockEnd ++ scan.tokens
      count := scan.count + closed
      columns := scan.columns.drop closed }

def closeAll (scan : Scan) : Scan :=
  if scan.bracketed then scan
  else
    { scan with
      tokens := List.replicate scan.columns.length .blockEnd ++ scan.tokens
      count := scan.count + scan.columns.length
      columns := [] }

/-- Opens a block in a column to the right of those that are open, with its first token at the given
position. -/
def openAt (scan : Scan) (column position : Nat) (token : Token) : Scan :=
  if scan.bracketed || scan.columns.head?.any (column ≤ ·) then scan
  else { scan.pushAt position token with columns := column :: scan.columns }

/-- Whether a possible key can no longer be one at the given place. -/
def isStale (key : PossibleKey) (here : Mark) : Bool :=
  key.start.line < here.line || key.start.index + 1024 < here.index

/-- Forgets the innermost possible key if it can no longer be one, unless a key is required. The keys
around brackets are looked at once the brackets are closed. -/
def forgetStale? (scan : Scan) (here : Mark) : Option Scan :=
  match scan.key with
  | none => some scan
  | some key =>
    if !isStale key here then some scan
    else if key.required then none
    else some { scan with key := none }

/-- Forgets the innermost possible key, unless a key is required. -/
def forgetKey? (scan : Scan) : Option Scan :=
  if scan.key.any (·.required) then none else some { scan with key := none }

/-- Remembers that a key may start here, if one is allowed. -/
def noteKey? (scan : Scan) (here : Mark) : Option Scan := do
  if scan.keyAllowed then
    let required := !scan.bracketed && scan.columns.head? == some here.column
    return { ← scan.forgetKey? with key := some ⟨required, scan.count, here⟩ }
  else some scan

/-- Adds a token that may be a key, such as a scalar. -/
def pushContent? (scan : Scan) (here : Mark) (token : Token) : Option Scan := do
  return { (← scan.noteKey? here).push token with keyAllowed := false }

/-- Adds a token for the whole text, such as the start of a document. -/
def pushOuter? (scan : Scan) (token : Token) : Option Scan := do
  return { (← scan.closeAll.forgetKey?).push token with keyAllowed := false }

def openBrackets? (scan : Scan) (here : Mark) (token : Token) : Option Scan := do
  let noted ← scan.noteKey? here
  return { noted.push token with keyAllowed := true, key := none, outerKeys := noted.key :: noted.outerKeys }

def closeBrackets? (scan : Scan) (token : Token) : Option Scan := do
  let closed := { (← scan.forgetKey?).push token with keyAllowed := false }
  match closed.outerKeys with
  | [] => return closed
  | key :: outerKeys => return { closed with key, outerKeys }

def pushComma? (scan : Scan) : Option Scan := do
  return { (← scan.forgetKey?).push .flowEntry with keyAllowed := true }

/-- Adds a dash before an item, which may be the first of a sequence. -/
def pushDash? (scan : Scan) (here : Mark) : Option Scan := do
  if !scan.bracketed && !scan.keyAllowed then none
  else
    let opened := scan.openAt here.column scan.count .blockSequenceStart
    return { (← opened.forgetKey?).push .blockEntry with keyAllowed := true }

/-- Adds a question mark before a key, which may be the first of a map. -/
def pushQuestion? (scan : Scan) (here : Mark) : Option Scan := do
  if !scan.bracketed && !scan.keyAllowed then none
  else
    let opened := scan.openAt here.column scan.count .blockMappingStart
    return { (← opened.forgetKey?).push .key with keyAllowed := !scan.bracketed }

/-- Adds a colon. What could be a key before it is one. -/
def pushColon? (scan : Scan) (here : Mark) : Option Scan :=
  match scan.key with
  | some key =>
    let announced := scan.pushAt key.position .key
    let opened := announced.openAt key.start.column key.position .blockMappingStart
    some { opened.push .value with key := none, keyAllowed := false }
  | none =>
    if !scan.bracketed && !scan.keyAllowed then none
    else
      let opened := scan.openAt here.column scan.count .blockMappingStart
      some { opened.push .value with keyAllowed := !scan.bracketed }

/-- Adds a scalar that has been read. Reading may end where a key is allowed again. -/
def pushScalar? (scan : Scan) (here : Mark) (style : Style) (read : Read) : Option (Scan × List Mark) := do
  let pushed ← scan.pushContent? here (.scalar style (String.ofList read.text))
  return ({ pushed with keyAllowed := read.keyAllowed }, read.rest)

/-- Adds a block scalar that has been read. It is no key, and a key may follow it. -/
def pushBlock? (scan : Scan) (style : Style) (read : Read) : Option (Scan × List Mark) := do
  let pushed := (← scan.forgetKey?).push (.scalar style (String.ofList read.text))
  return ({ pushed with keyAllowed := true }, read.rest)

/-- The characters that cannot start a plain scalar whatever follows them. -/
def isIndicator (c : Char) : Bool :=
  [',', '[', ']', '\x7b', '\x7d', '#', '&', '*', '!', '|', '>', '\'', '"', '%', '@', '\x60'].contains c

/-- Whether a plain scalar starts with a character that has the given rest behind it. -/
def startsPlain (bracketed : Bool) (c : Char) (after : List Mark) : Bool :=
  if c = '-' then !atBlank after
  else if c = '?' || c = ':' then !bracketed && !atBlank after
  else !isIndicator c && !isBlank c && !isBreak c

/-- Adds the token that starts with a mark, and gives what follows it. -/
def token? (scan : Scan) (m : Mark) (after : List Mark) : Option (Scan × List Mark) := do
  let c := m.char
  let indicates := scan.bracketed || atBlank after
  if m.column = 0 && c = '%' then
    let (token, rest) ← directive? after
    return (← scan.pushOuter? token, rest)
  else if isTriple '-' (m :: after) then return (← scan.pushOuter? .documentStart, after.drop 2)
  else if isTriple '.' (m :: after) then return (← scan.pushOuter? .documentEnd, after.drop 2)
  else if c = '[' then return (← scan.openBrackets? m .sequenceOpen, after)
  else if c = '\x7b' then return (← scan.openBrackets? m .mappingOpen, after)
  else if c = ']' then return (← scan.closeBrackets? .sequenceClose, after)
  else if c = '\x7d' then return (← scan.closeBrackets? .mappingClose, after)
  else if c = ',' then return (← scan.pushComma?, after)
  else if c = '-' && atBlank after then return (← scan.pushDash? m, after)
  else if c = '?' && indicates then return (← scan.pushQuestion? m, after)
  else if c = ':' && indicates then return (← scan.pushColon? m, after)
  else if c = '*' then
    let (name, rest) ← anchorName? after
    return (← scan.pushContent? m (.alias name), rest)
  else if c = '&' then
    let (name, rest) ← anchorName? after
    return (← scan.pushContent? m (.anchor name), rest)
  else if c = '!' then
    let (token, rest) ← tagToken? scan.bracketed after
    return (← scan.pushContent? m token, rest)
  else if c = '|' && !scan.bracketed then scan.pushBlock? .literal (← block scan.low false after)
  else if c = '>' && !scan.bracketed then scan.pushBlock? .folded (← block scan.low true after)
  else if c = '\'' then scan.pushScalar? m .quoted (← singleFrom [] none false after)
  else if c = '"' then scan.pushScalar? m .quoted (← doubleFrom [] (.plain none) after)
  else if startsPlain scan.bracketed c after then
    scan.pushScalar? m .plain (← plain scan.bracketed scan.low (m :: after))
  else none

/-- Scans what follows. Every token takes at least one mark, so the number of marks bounds the steps. -/
def tokensFrom : Nat → Scan → List Mark → Option (List Token)
  | 0, _, _ => none
  | steps + 1, scan, here =>
    let (keyAllowed, here) := skip scan.bracketed false scan.keyAllowed here
    let scan := { scan with keyAllowed }
    match here with
    | [] => do return (← scan.closeAll.forgetKey?).tokens.reverse
    | m :: after => do
      let (scan, rest) ← ((← scan.forgetStale? m).closeTo m.column).token? m after
      tokensFrom steps scan rest

end Scan

def tokens? (text : String) : Option (List Token) := do
  let marks ← marks? text
  Scan.tokensFrom (marks.length + 1) {} marks

end Superstep.Yaml
