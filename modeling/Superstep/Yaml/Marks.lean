/-!
# Positions in a YAML text

The structure of a YAML text hangs on the columns in which things stand, so every character is marked
with its position before anything is read. A reader is then a function on lists of marks.
-/

namespace Superstep.Yaml

/-- A character and where it stands, counted from zero. Lines and columns count characters, the index
counts bytes. -/
structure Mark where
  char : Char
  line : Nat
  column : Nat
  index : Nat
  deriving DecidableEq, Repr

def isPermitted (c : Char) : Bool :=
  let n := c.toNat
  n = 0x09 || n = 0x0A || n = 0x0D || (0x20 ≤ n && n ≤ 0x7E) || n = 0x85 || (0xA0 ≤ n && n ≤ 0xD7FF)
    || (0xE000 ≤ n && n ≤ 0xFFFD) || 0x10000 ≤ n

/-- The mark that a line may start with. It says nothing, but takes up a column. -/
def byteOrderMark : Char := Char.ofNat 0xFEFF

/-- Carriage returns, with or without a line feed, and next-line characters become line feeds. -/
def unifyBreaks : List Char → List Char
  | [] => []
  | '\r' :: '\n' :: cs => '\n' :: unifyBreaks cs
  | c :: cs => (if c = '\r' || c = Char.ofNat 0x85 then '\n' else c) :: unifyBreaks cs

/-- A character that ends a line, after `unifyBreaks`. -/
def isBreak (c : Char) : Bool := c = '\n' || c = Char.ofNat 0x2028 || c = Char.ofNat 0x2029

def isBlank (c : Char) : Bool := c = ' ' || c = '\t'

def markFrom (line column index : Nat) : List Char → List Mark
  | [] => []
  | c :: cs =>
    ⟨c, line, column, index⟩ ::
      (if isBreak c then markFrom (line + 1) 0 (index + c.utf8Size) cs
       else markFrom line (column + 1) (index + c.utf8Size) cs)

/-- The marked characters of a text, unless it has a character that is not permitted. -/
def marks? (text : String) : Option (List Mark) :=
  let chars := text.toList
  if chars.all isPermitted then some (markFrom 0 0 0 (unifyBreaks chars)) else none

def startsWith (c : Char) (here : List Mark) : Bool := here.head?.any (·.char = c)

/-- Whether a blank, the end of the line or the end of the text comes next. -/
def atBlank (here : List Mark) : Bool := here.head?.all fun m => isBlank m.char || isBreak m.char

def skipBlanks (here : List Mark) : List Mark := here.dropWhile (isBlank ·.char)

/-- Whether a line starts here with three of the given character and then a blank. -/
def isTriple (c : Char) : List Mark → Bool
  | m₁ :: m₂ :: m₃ :: rest =>
    m₁.column = 0 && m₁.char = c && m₂.char = c && m₃.char = c && atBlank rest
  | _ => false

def atDocumentMarker (here : List Mark) : Bool := isTriple '-' here || isTriple '.' here

/-- Passes over blanks, comments and line ends. Where a key may start, a tab is not passed over; every
new line outside of brackets may start with a key. The result says whether a key may start there. -/
def skip (bracketed : Bool) : (inComment keyAllowed : Bool) → List Mark → Bool × List Mark
  | _, keyAllowed, [] => (keyAllowed, [])
  | inComment, keyAllowed, m :: ms =>
    if isBreak m.char then skip bracketed false (keyAllowed || !bracketed) ms
    else if inComment then skip bracketed true keyAllowed ms
    else if m.char = ' ' || (m.char = '\t' && (bracketed || !keyAllowed)) then
      skip bracketed false keyAllowed ms
    else if m.char = byteOrderMark && m.column = 0 then skip bracketed false keyAllowed ms
    else if m.char = '#' then skip bracketed true keyAllowed ms
    else (keyAllowed, m :: ms)

/-- What follows a line on which only blanks and a comment are left. -/
def skipRestOfLine : (inComment : Bool) → List Mark → Option (List Mark)
  | _, [] => some []
  | inComment, m :: ms =>
    if isBreak m.char then some ms
    else if inComment || isBlank m.char then skipRestOfLine inComment ms
    else if m.char = '#' then skipRestOfLine true ms
    else none

end Superstep.Yaml
