import Superstep.Yaml.Scalar
import Superstep.Yaml.Token

/-!
# Names, tags and directives

A node may have an anchor, by which it is named elsewhere, and a tag, which says what it is. Directives
before a document give its version and the handles that its tags use.
-/

namespace Superstep.Yaml

def isWord (c : Char) : Bool := c.isAlphanum || c = '_' || c = '-'

/-- The characters that may follow the name of an anchor, besides blanks. -/
def closesName (c : Char) : Bool := ['?', ':', ',', ']', '\x7d', '%', '@', '\x60'].contains c

def word (here : List Mark) : List Char × List Mark :=
  ((here.takeWhile (isWord ·.char)).map (·.char), here.dropWhile (isWord ·.char))

def anchorName? (here : List Mark) : Option (String × List Mark) :=
  let (name, rest) := word here
  if name.isEmpty then none
  else if atBlank rest || rest.head?.any (closesName ·.char) then some (String.ofList name, rest)
  else none

/-- The characters of tags. Those that enclose and part items are only allowed where a tag is itself
enclosed. -/
def isTagChar (enclosed : Bool) (c : Char) : Bool :=
  isWord c || ";/?:@&=+$.!~*'()".toList.contains c || (enclosed && ",[]".toList.contains c)

/-- How many bytes a character has whose first byte is given. -/
def encodedLength? (byte : Nat) : Option Nat :=
  if byte < 0x80 then some 1
  else if 0xC0 ≤ byte && byte < 0xE0 then some 2
  else if 0xE0 ≤ byte && byte < 0xF0 then some 3
  else if 0xF0 ≤ byte && byte < 0xF8 then some 4
  else none

/-- Reads on in a tag. A percent sign and two hexadecimal digits stand for a byte, and the bytes of a
character have to stand together. `taken` is what has been read, the last byte first, and `pending` the
number of bytes that are missing from the last character. -/
def tagBytesFrom (enclosed : Bool) :
    (pending : Nat) → (taken : List UInt8) → List Mark → Option (List UInt8 × List Mark)
  | pending, taken, ⟨'%', _, _, _⟩ :: m₁ :: m₂ :: rest => do
    let byte := 16 * (← Text.hexValue? m₁.char) + (← Text.hexValue? m₂.char)
    let pending ←
      if pending = 0 then (encodedLength? byte).map (· - 1)
      else if 0x80 ≤ byte && byte < 0xC0 then some (pending - 1)
      else none
    tagBytesFrom enclosed pending (byte.toUInt8 :: taken) rest
  | 0, taken, m :: ms =>
    if isTagChar enclosed m.char then tagBytesFrom enclosed 0 (m.char.toNat.toUInt8 :: taken) ms
    else if m.char = '%' then none
    else some (taken.reverse, m :: ms)
  | 0, taken, [] => some (taken.reverse, [])
  | _ + 1, _, _ => none

/-- Reads a part of a tag, after what has been read of it already. Bytes that are not text are refused. -/
def tagText? (enclosed : Bool) (before : List Char) (here : List Mark) : Option (String × List Mark) := do
  let (bytes, rest) ← tagBytesFrom enclosed 0 [] here
  let text ← String.fromUTF8? ⟨bytes.toArray⟩
  return (String.ofList before ++ text, rest)

/-- Reads a tag after its exclamation mark: `!<tag>`, `!handle!suffix`, `!suffix`, or the mark alone. -/
def tagToken? (bracketed : Bool) (here : List Mark) : Option (Token × List Mark) := do
  let (token, rest) ← match here with
    | ⟨'<', _, _, _⟩ :: inside => do
      let (suffix, rest) ← tagText? true [] inside
      if suffix.isEmpty || !startsWith '>' rest then none
      else some (Token.tag "" suffix, rest.drop 1)
    | _ => do
      let (name, rest) := word here
      if startsWith '!' rest then
        let (suffix, rest) ← tagText? false [] (rest.drop 1)
        if suffix.isEmpty then none
        else some (Token.tag ("!" ++ String.ofList name ++ "!") suffix, rest)
      else
        let (suffix, rest) ← tagText? false name rest
        if suffix.isEmpty then some (Token.tag "" "!", rest) else some (Token.tag "!" suffix, rest)
  if atBlank rest || (bracketed && startsWith ',' rest) then some (token, rest) else none

def versionNumber? (here : List Mark) : Option (Nat × List Mark) := do
  let digits := (here.takeWhile (·.char.isDigit)).map (·.char)
  if 9 < digits.length then none
  else return (← Text.natural? 10 digits, here.dropWhile (·.char.isDigit))

def versionDirective? (here : List Mark) : Option (Token × List Mark) := do
  let (major, rest) ← versionNumber? (skipBlanks here)
  if startsWith '.' rest then
    let (minor, rest) ← versionNumber? (rest.drop 1)
    return (.versionDirective major minor, rest)
  else none

/-- Reads what follows `%TAG`: a handle and what it stands for. -/
def tagDirective? (here : List Mark) : Option (Token × List Mark) := do
  let handleHere := skipBlanks here
  if startsWith '!' handleHere then
    let (name, rest) := word (handleHere.drop 1)
    let (handle, rest) ←
      if startsWith '!' rest then some ("!" ++ String.ofList name ++ "!", rest.drop 1)
      else if name.isEmpty then some ("!", rest)
      else none
    if rest.head?.any (isBlank ·.char) then
      let (stem, rest) ← tagText? true [] (skipBlanks rest)
      if stem.isEmpty || !atBlank rest then none else some (.tagDirective handle stem, rest)
    else none
  else none

/-- Reads a directive after its percent sign, and the line it stands on. -/
def directive? (here : List Mark) : Option (Token × List Mark) := do
  let (name, afterName) := word here
  if !atBlank afterName then none
  else
    let (token, rest) ←
      if name = "YAML".toList then versionDirective? afterName
      else if name = "TAG".toList then tagDirective? afterName
      else none
    return (token, ← skipRestOfLine false rest)

end Superstep.Yaml
