import Superstep.Text.Name
import Superstep.Token

/-!
# Scanning an expression

The scanner passes over gaps of spaces and tabs and takes the longest token at each place. Its result
keeps the gaps, so that nothing of the source is lost. Where no token stands it stops, and the place
and what was expected there make up the error.
-/

namespace Superstep

/-- A token with the gap that stands before it. -/
structure Lexeme where
  gap : List Char
  token : Token
  deriving DecidableEq, Repr

def Lexeme.text (lexeme : Lexeme) : List Char := lexeme.gap ++ lexeme.token.text.toList

/-- A source cut into lexemes, with the gap that stands after the last of them. -/
structure Scanned where
  lexemes : List Lexeme
  tail : List Char
  deriving DecidableEq, Repr

namespace Scanned

def tokens (scanned : Scanned) : List Token := scanned.lexemes.map (·.token)

/-- The source text that was cut up. -/
def text (scanned : Scanned) : List Char := scanned.lexemes.flatMap (·.text) ++ scanned.tail

def mapTokens (change : Token → Token) (scanned : Scanned) : Scanned :=
  { scanned with lexemes := scanned.lexemes.map fun l => { l with token := change l.token } }

end Scanned

inductive Expected where
  /-- Nothing at all could be read. -/
  | expression
  /-- A name and a dot were read, and no field name stands after the dot. -/
  | field
  /-- No token stands here, and the source is not at its end. -/
  | token
  deriving DecidableEq, Repr

/-- The place where the scanner stopped, given by the text that is left there. -/
structure Stop where
  rest : List Char
  expected : Expected
  deriving DecidableEq, Repr

namespace Scan

/-- Gaps are made of spaces and tabs. Line ends are not gaps. -/
def isGap (c : Char) : Bool := c = ' ' || c = '\t'

def name? : List Char → Option (List Char × List Char)
  | [] => none
  | c :: cs =>
    if Text.isNameStart c then some (c :: cs.takeWhile Text.isNameChar, cs.dropWhile Text.isNameChar) else none

/-- The fraction at the front, a point and at least one digit, or nothing. -/
def fraction : List Char → List Char × List Char
  | '.' :: cs =>
    if (cs.takeWhile Char.isDigit).isEmpty then ([], '.' :: cs)
    else ('.' :: cs.takeWhile Char.isDigit, cs.dropWhile Char.isDigit)
  | cs => ([], cs)

def sign : List Char → List Char × List Char
  | '+' :: cs => (['+'], cs)
  | '-' :: cs => (['-'], cs)
  | cs => ([], cs)

/-- The exponent at the front, a mark, an optional sign and at least one digit, or nothing. -/
def exponent : List Char → List Char × List Char
  | [] => ([], [])
  | c :: cs =>
    let (signed, rest) := sign cs
    let digits := rest.takeWhile Char.isDigit
    if (c = 'e' || c = 'E') && !digits.isEmpty then
      (c :: (signed ++ digits), rest.dropWhile Char.isDigit)
    else ([], c :: cs)

def number (cs : List Char) : List Char × List Char :=
  let (fractional, afterFraction) := fraction (cs.dropWhile Char.isDigit)
  let (scale, rest) := exponent afterFraction
  (cs.takeWhile Char.isDigit ++ fractional ++ scale, rest)

/-- The content of the quoted text that has just been opened, and what follows its closing quote. -/
def quoted? : List Char → Option (List Char × List Char)
  | [] => none
  | c :: cs =>
    if c = '\'' then some ([], cs)
    else (quoted? cs).map fun (content, rest) => (c :: content, rest)

/-- The longest operator at the front. -/
def operator? : List Char → Option (Operator × List Char)
  | '=' :: '=' :: cs => some (.doubleEqual, cs)
  | '!' :: '=' :: cs => some (.bangEqual, cs)
  | '<' :: '>' :: cs => some (.angles, cs)
  | '<' :: '=' :: cs => some (.atMost, cs)
  | '>' :: '=' :: cs => some (.atLeast, cs)
  | '<' :: cs => some (.less, cs)
  | '>' :: cs => some (.greater, cs)
  | '=' :: cs => some (.equal, cs)
  | '+' :: cs => some (.plus, cs)
  | '-' :: cs => some (.minus, cs)
  | '*' :: cs => some (.times, cs)
  | '/' :: cs => some (.divide, cs)
  | '%' :: cs => some (.modulo, cs)
  | _ => none

def word (chars : List Char) : Token :=
  match Connective.ofText? (String.ofList chars) with
  | some connective => .keyword connective
  | none => .ident (String.ofList chars)

/-- The token that a name at the front grows into. A dot binds the name to a field, an empty pair of
parentheses makes it a placeholder, and neither may be set off by a gap. -/
def named (name : List Char) : List Char → Except Stop (Token × List Char)
  | '.' :: cs =>
    match name? cs with
    | some (field, rest) => .ok (.qualified (String.ofList name) (String.ofList field), rest)
    | none => .error ⟨cs, .field⟩
  | '(' :: ')' :: rest => .ok (.placeholder (String.ofList name), rest)
  | rest => .ok (word name, rest)

/-- The longest token at the front of a text that starts with no gap. -/
def token : List Char → Except Stop (Token × List Char)
  | [] => .error ⟨[], .token⟩
  | c :: cs =>
    match name? (c :: cs) with
    | some (name, rest) => named name rest
    | none =>
      if c.isDigit then .ok (.number (String.ofList (number (c :: cs)).1), (number (c :: cs)).2)
      else if c = '(' then .ok (.openParen, cs)
      else if c = ')' then .ok (.closeParen, cs)
      else if c = ',' then .ok (.comma, cs)
      else if c = '\'' then
        match quoted? cs with
        | some (content, rest) => .ok (.quoted (String.ofList content), rest)
        | none => .error ⟨c :: cs, .token⟩
      else
        match operator? (c :: cs) with
        | some (op, rest) => .ok (.operator op, rest)
        | none => .error ⟨c :: cs, .token⟩

theorem name?_length {cs name rest : List Char} (h : name? cs = some (name, rest)) :
    rest.length < cs.length := by
  cases cs with
  | nil => simp [name?] at h
  | cons c cs =>
    simp only [name?] at h
    split at h
    · cases h
      have := (List.dropWhile_suffix Text.isNameChar (l := cs)).length_le
      simp only [List.length_cons]; omega
    · cases h

theorem fraction_length (cs : List Char) : (fraction cs).2.length ≤ cs.length := by
  unfold fraction
  split
  · rename_i cs
    split
    · exact Nat.le_refl _
    · have := (List.dropWhile_suffix Char.isDigit (l := cs)).length_le
      simp only [List.length_cons]; omega
  · exact Nat.le_refl _

theorem sign_length (cs : List Char) : (sign cs).2.length ≤ cs.length := by
  unfold sign
  split <;> simp

theorem exponent_length (cs : List Char) : (exponent cs).2.length ≤ cs.length := by
  cases cs with
  | nil => simp [exponent]
  | cons c cs =>
    simp only [exponent]
    split
    · have := (List.dropWhile_suffix Char.isDigit (l := (sign cs).2)).length_le
      have := sign_length cs
      simp only [List.length_cons]; omega
    · exact Nat.le_refl _

theorem number_length {c : Char} {cs : List Char} (h : c.isDigit = true) :
    (number (c :: cs)).2.length < (c :: cs).length := by
  have h1 := exponent_length (fraction ((c :: cs).dropWhile Char.isDigit)).2
  have h2 := fraction_length ((c :: cs).dropWhile Char.isDigit)
  have h3 := (List.dropWhile_suffix Char.isDigit (l := cs)).length_le
  simp only [List.dropWhile_cons, h, if_true] at h1 h2
  simp only [number, List.dropWhile_cons, h, if_true, List.length_cons]
  omega

theorem quoted?_length {cs content rest : List Char} (h : quoted? cs = some (content, rest)) :
    rest.length < cs.length := by
  induction cs generalizing content rest with
  | nil => simp [quoted?] at h
  | cons c cs ih =>
    simp only [quoted?] at h
    split at h
    · cases h; simp
    · obtain ⟨⟨before, after⟩, found, same⟩ := Option.map_eq_some_iff.1 h
      cases same
      have := ih found
      simp only [List.length_cons]; omega

theorem operator?_length {cs rest : List Char} {op : Operator} (h : operator? cs = some (op, rest)) :
    rest.length < cs.length := by
  unfold operator? at h
  split at h <;> cases h <;> simp only [List.length_cons] <;> omega

theorem named_length {name cs rest : List Char} {t : Token} (h : named name cs = .ok (t, rest)) :
    rest.length ≤ cs.length := by
  unfold named at h
  split at h
  · split at h
    · rename_i found
      cases h
      have := name?_length found
      simp only [List.length_cons]; omega
    · cases h
  · cases h; simp only [List.length_cons]; omega
  · cases h; exact Nat.le_refl _

/-- A token takes at least one character of the text. -/
theorem token_length {cs rest : List Char} {t : Token} (h : token cs = .ok (t, rest)) :
    rest.length < cs.length := by
  cases cs with
  | nil => simp [token] at h
  | cons c cs =>
    simp only [token] at h
    split at h
    · rename_i found
      have := name?_length found
      have := named_length h
      omega
    · split at h
      · rename_i digit
        cases h
        exact number_length digit
      · split at h
        · cases h; simp
        · split at h
          · cases h; simp
          · split at h
            · cases h; simp
            · split at h
              · split at h
                · rename_i found
                  cases h
                  have := quoted?_length found
                  simp only [List.length_cons]; omega
                · cases h
              · split at h
                · rename_i found
                  cases h
                  exact operator?_length found
                · cases h

/-- Cuts a text into lexemes, up to the place where no token stands. -/
def lexemes (cs : List Char) : Except Stop Scanned :=
  match _ : cs.dropWhile isGap with
  | [] => .ok ⟨[], cs⟩
  | c :: rest =>
    match _ : token (c :: rest) with
    | .error stop => .error stop
    | .ok (first, after) =>
      match lexemes after with
      | .error stop => .error stop
      | .ok scanned => .ok { scanned with lexemes := ⟨cs.takeWhile isGap, first⟩ :: scanned.lexemes }
termination_by cs.length
decreasing_by
  have shorter := token_length ‹token (c :: rest) = .ok (first, after)›
  have notLonger := (List.dropWhile_suffix isGap (l := cs)).length_le
  rw [‹cs.dropWhile isGap = c :: rest›] at notLonger
  omega

end Scan

end Superstep
