import Superstep.Text.Digits
import Superstep.Yaml.Marks

/-!
# Scalars in a YAML text

Plain, quoted and block scalars. Lines within a scalar are folded: a single line end becomes a space,
and of several the first is left out.
-/

namespace Superstep.Yaml

/-- A run of blanks and line ends inside a scalar, the last ones first. -/
structure Fold where
  /-- The blanks before the first line end. -/
  blanks : List Char := []
  /-- Whether a line end has been passed. -/
  crossed : Bool := false
  /-- The first line end. It is absent after an escaped one. -/
  first : List Char := []
  /-- The line ends after the first. -/
  further : List Char := []
  deriving DecidableEq, Repr

namespace Fold

/-- The run with one more blank or line end. Blanks at the start of a line do not count. -/
def add (fold : Fold) (c : Char) : Fold :=
  if isBreak c then
    if fold.crossed then { fold with further := c :: fold.further }
    else { fold with blanks := [], crossed := true, first := [c] }
  else if fold.crossed then fold
  else { fold with blanks := c :: fold.blanks }

/-- What the run stands for, the last character first. -/
def text (fold : Fold) : List Char :=
  if !fold.crossed then fold.blanks
  else if fold.first = ['\n'] then (if fold.further.isEmpty then [' '] else fold.further)
  else fold.further ++ fold.first

end Fold

/-- A scalar that has been read, where it ended, and whether a key may start there. -/
structure Read where
  text : List Char
  keyAllowed : Bool
  rest : List Mark

def isBracketMark (c : Char) : Bool := c = ',' || c = '[' || c = ']' || c = '\x7b' || c = '\x7d'

/-- Whether a plain scalar ends at a character with the given rest behind it. -/
def endsPlain (bracketed : Bool) (c : Char) (after : List Mark) : Bool :=
  (c = ':' && atBlank after) || (bracketed && isBracketMark c)

/-- Whether a colon stands where brackets do not allow one. -/
def strayColon (bracketed : Bool) (c : Char) (after : List Mark) : Bool :=
  bracketed && c = ':' && after.head?.any fun m => isBracketMark m.char || m.char = '?'

/-- Adds a run of blanks to what has been read, the last character first. -/
def addGap (taken : List Char) (gap : Option Fold) : List Char :=
  match gap with
  | some fold => fold.text ++ taken
  | none => taken

/-- The plain scalar that ends here, after a run of blanks if there is one. -/
def endPlain (taken : List Char) (gap : Option Fold) (rest : List Mark) : Read :=
  ⟨taken.reverse, gap.any (·.crossed), rest⟩

/-- Reads on in a plain scalar. `taken` is what has been read, the last character first, and `gap` is
the run of blanks since then, if there is one. Lines have to be indented to the column `low`. -/
def plainFrom (bracketed : Bool) (low : Nat) (taken : List Char) : Option Fold → List Mark → Option Read
  | gap, [] => some (endPlain taken gap [])
  | gap, m :: ms =>
    if isBlank m.char || isBreak m.char then
      let crossed := gap.any (·.crossed)
      if m.char = '\t' && crossed && m.column < low then none
      else plainFrom bracketed low taken (some ((gap.getD {}).add m.char)) ms
    else if gap.isSome && !bracketed && m.column < low then some (endPlain taken gap (m :: ms))
    else if gap.isSome && (m.char = '#' || atDocumentMarker (m :: ms)) then
      some (endPlain taken gap (m :: ms))
    else if strayColon bracketed m.char ms then none
    else if endsPlain bracketed m.char ms then some (endPlain taken gap (m :: ms))
    else plainFrom bracketed low (m.char :: addGap taken gap) none ms

def plain (bracketed : Bool) (low : Nat) (here : List Mark) : Option Read :=
  plainFrom bracketed low [] none here

/-- Reads on in a text between single quotes, where a quote is written twice. `taken` is what has been
read, the last character first. -/
def singleFrom (taken : List Char) : Option Fold → Bool → List Mark → Option Read
  | _, _, [] => none
  | gap, afterQuote, m :: ms =>
    if afterQuote then
      if m.char = '\'' then singleFrom ('\'' :: taken) none false ms
      else none
    else if atDocumentMarker (m :: ms) then none
    else if isBlank m.char || isBreak m.char then
      singleFrom taken (some ((gap.getD {}).add m.char)) false ms
    else
      let joined := addGap taken gap
      if m.char = '\'' then
        if startsWith '\'' ms then singleFrom joined none true ms
        else some ⟨joined.reverse, false, ms⟩
      else singleFrom (m.char :: joined) none false ms

inductive DoubleMode where
  /-- In a run of blanks, or right after a character if there is none. -/
  | plain (gap : Option Fold)
  /-- After a backslash. -/
  | escape
  /-- In a character given by its number, with so many digits left. -/
  | number (left value : Nat)

def escaped? (c : Char) : Option Char :=
  match c with
  | '0' => some (Char.ofNat 0)
  | 'a' => some (Char.ofNat 7)
  | 'b' => some (Char.ofNat 8)
  | 't' | '\t' => some '\t'
  | 'n' => some '\n'
  | 'v' => some (Char.ofNat 11)
  | 'f' => some (Char.ofNat 12)
  | 'r' => some '\r'
  | 'e' => some (Char.ofNat 27)
  | ' ' => some ' '
  | '"' => some '"'
  | '/' => some '/'
  | '\\' => some '\\'
  | 'N' => some (Char.ofNat 0x85)
  | '_' => some (Char.ofNat 0xA0)
  | 'L' => some (Char.ofNat 0x2028)
  | 'P' => some (Char.ofNat 0x2029)
  | _ => none

/-- How many hexadecimal digits follow a backslash and the given character. -/
def numberDigits? (c : Char) : Option Nat :=
  match c with
  | 'x' => some 2
  | 'u' => some 4
  | 'U' => some 8
  | _ => none

/-- The character with a given number, unless there is none. -/
def charOfNumber? (n : Nat) : Option Char := if n.isValidChar then some (Char.ofNat n) else none

/-- Reads on in a text between double quotes. `taken` is what has been read, the last character
first. -/
def doubleFrom (taken : List Char) : DoubleMode → List Mark → Option Read
  | _, [] => none
  | .escape, m :: ms =>
    if isBreak m.char then doubleFrom taken (.plain (some { crossed := true })) ms
    else
      match escaped? m.char, numberDigits? m.char with
      | some c, _ => doubleFrom (c :: taken) (.plain none) ms
      | none, some digits => doubleFrom taken (.number digits 0) ms
      | none, none => none
  | .number left value, m :: ms =>
    match Text.hexValue? m.char with
    | none => none
    | some digit =>
      let value := 16 * value + digit
      if left = 1 then
        match charOfNumber? value with
        | some c => doubleFrom (c :: taken) (.plain none) ms
        | none => none
      else doubleFrom taken (.number (left - 1) value) ms
  | .plain gap, m :: ms =>
    if atDocumentMarker (m :: ms) then none
    else if isBlank m.char || isBreak m.char then
      doubleFrom taken (.plain (some ((gap.getD {}).add m.char))) ms
    else
      let joined := addGap taken gap
      if m.char = '"' then some ⟨joined.reverse, false, ms⟩
      else if m.char = '\\' then doubleFrom joined .escape ms
      else doubleFrom (m.char :: joined) (.plain none) ms

inductive Chomping where
  | strip | clip | keep
  deriving DecidableEq, Repr

structure BlockHeader where
  /-- Whether line ends are folded. -/
  folded : Bool
  chomping : Chomping := .clip
  /-- By how much the scalar is indented, if that is given. -/
  indentation : Option Nat := none
  deriving DecidableEq, Repr

/-- The header with the indicators that stand here, of each kind at most one. -/
def indicators (header : BlockHeader) : List Mark → BlockHeader × List Mark
  | [] => (header, [])
  | m :: ms =>
    if (m.char = '+' || m.char = '-') && header.chomping = .clip then
      indicators { header with chomping := if m.char = '+' then .keep else .strip } ms
    else if '1' ≤ m.char && m.char ≤ '9' && header.indentation.isNone then
      indicators { header with indentation := some (m.char.toNat - '0'.toNat) } ms
    else (header, m :: ms)

/-- The deepest column up to the first line that is not empty. Tabs do not indent. -/
def deepestColumn (deepest : Nat) : List Mark → Option Nat
  | [] => some deepest
  | m :: ms =>
    if m.char = ' ' then deepestColumn (max deepest (m.column + 1)) ms
    else if isBreak m.char then deepestColumn deepest ms
    else if m.char = '\t' then none
    else some (max deepest m.column)

structure BlockLines where
  /-- The characters, the last one first. -/
  taken : List Char := []
  /-- The end of the last line. -/
  lastBreak : List Char := []
  /-- The ends of the empty lines after it, the last one first. -/
  emptyLines : List Char := []
  /-- Whether the last line starts with a blank. -/
  startsBlank : Bool := false

/-- Joins the next line, which starts with the given character. -/
def BlockLines.startLine (lines : BlockLines) (folded : Bool) (c : Char) : BlockLines :=
  let folds := folded && lines.lastBreak = ['\n'] && !lines.startsBlank && !isBlank c
  let joint :=
    if folds then (if lines.emptyLines.isEmpty then [' '] else []) else lines.lastBreak
  { taken := c :: (lines.emptyLines ++ (joint ++ lines.taken))
    startsBlank := isBlank c }

/-- Reads the lines of a block scalar that is indented to the column `indent`. -/
def blockFrom (header : BlockHeader) (indent : Nat) :
    (inLine : Bool) → BlockLines → List Mark → Option (BlockLines × List Mark)
  | _, lines, [] => some (lines, [])
  | true, lines, m :: ms =>
    if isBreak m.char then
      blockFrom header indent false { lines with lastBreak := [m.char], emptyLines := [] } ms
    else blockFrom header indent true { lines with taken := m.char :: lines.taken } ms
  | false, lines, m :: ms =>
    if m.column < indent && m.char = ' ' then blockFrom header indent false lines ms
    else if m.column < indent && m.char = '\t' then none
    else if isBreak m.char then
      blockFrom header indent false { lines with emptyLines := m.char :: lines.emptyLines } ms
    else if m.column = indent then
      blockFrom header indent true (lines.startLine header.folded m.char) ms
    else some (lines, m :: ms)

/-- Reads a block scalar whose lines are indented at least to the column `low`. -/
def block (low : Nat) (folded : Bool) (here : List Mark) : Option Read := do
  let (header, afterIndicators) := indicators { folded } here
  let body ← skipRestOfLine false afterIndicators
  let indent ←
    match header.indentation with
    | some more => pure (low - 1 + more)
    | none => do pure (max (max (← deepestColumn 0 body) low) 1)
  let (lines, rest) ← blockFrom header indent false {} body
  let tail := match header.chomping with
    | .strip => []
    | .clip => lines.lastBreak
    | .keep => lines.lastBreak ++ lines.emptyLines.reverse
  return ⟨lines.taken.reverse ++ tail, true, rest⟩

end Superstep.Yaml
