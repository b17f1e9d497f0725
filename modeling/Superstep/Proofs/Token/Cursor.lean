import Superstep.Proofs.Token.LongestMatch

/-!
# Splicing with a cursor

A table is renamed, and a name is qualified, by one pass over the tokens of an expression. A cursor
stands behind what has been copied. At a token that changes, the source is copied up to the change, the
new text is put in, and the cursor moves behind what it replaces; in the end the rest of the source is
copied. This is the text of the changed tokens with the gaps between them left alone.
-/

namespace Superstep

/-- Some characters of a token, counted from its start, and the text that they give way to. -/
structure Edit where
  first : Nat
  last : Nat
  text : List Char

namespace Edit

def repoint? (source target : String) : Token → Option Edit
  | .qualified table _ =>
    if table = source then some ⟨0, table.toList.length, target.toList⟩ else none
  | _ => none

/-- Nothing gives way: the field is put in behind the name. -/
def qualify? (name field : String) : Token → Option Edit
  | .ident other =>
    if other = name then some ⟨other.toList.length, other.toList.length, '.' :: field.toList⟩
    else none
  | _ => none

/-- The edits of tokens amount to a change of tokens. -/
def Amounts (edit? : Token → Option Edit) (change : Token → Token) : Prop :=
  ∀ token, match edit? token with
    | none => change token = token
    | some edit => edit.first ≤ edit.last ∧ edit.last ≤ token.text.toList.length ∧
        (change token).text.toList =
          token.text.toList.take edit.first ++ (edit.text ++ token.text.toList.drop edit.last)

theorem repoint?_amounts (source target : String) :
    Amounts (repoint? source target) (Token.repoint source target) := by
  intro token
  cases token with
  | qualified table field =>
    by_cases same : table = source
    · simp [repoint?, Token.repoint, same, Token.text]
    · simp [repoint?, Token.repoint, same]
  | _ => rfl

theorem qualify?_amounts (name field : String) :
    Amounts (qualify? name field) (Token.qualify name field) := by
  intro token
  cases token with
  | ident other =>
    by_cases same : other = name
    · simp [qualify?, Token.qualify, same, Token.text]
    · simp [qualify?, Token.qualify, same]
  | _ => rfl

end Edit

/-- The tokens of lexemes with the places where they start, if the first lexeme starts at `place`. -/
def Lexeme.placed : Nat → List Lexeme → List (Nat × Token)
  | _, [] => []
  | place, lexeme :: others =>
    (place + lexeme.gap.length, lexeme.token) :: placed (place + lexeme.text.length) others

/-- What has been written, and how much of the source it accounts for. -/
structure Splice where
  out : List Char
  cursor : Nat

namespace Splice

/-- One turn of the loop: at a token that changes, the source is copied from the cursor on. -/
def turn (source : List Char) (edit? : Token → Option Edit) (splice : Splice)
    (placed : Nat × Token) : Splice :=
  match edit? placed.2 with
  | none => splice
  | some edit =>
    { out := splice.out ++ (source.take (placed.1 + edit.first)).drop splice.cursor ++ edit.text
      cursor := placed.1 + edit.last }

def finish (source : List Char) (splice : Splice) : List Char :=
  splice.out ++ source.drop splice.cursor

/-- The whole loop over an expression that was cut into lexemes. -/
def run (source : List Char) (edit? : Token → Option Edit) (lexemes : List Lexeme) : List Char :=
  finish source ((Lexeme.placed 0 lexemes).foldl (turn source edit?) ⟨[], 0⟩)

variable {edit? : Token → Option Edit} {change : Token → Token}

/-- From any state of the loop on: what is written in the end is what has been written, the source
between the cursor and the next lexeme, and the text of the lexemes changed. -/
theorem finish_foldl (amounts : Edit.Amounts edit? change) (lexemes : List Lexeme)
    (tail before out : List Char) (cursor : Nat) (behind : cursor ≤ before.length) :
    finish (before ++ Scanned.text ⟨lexemes, tail⟩)
        ((Lexeme.placed before.length lexemes).foldl
          (turn (before ++ Scanned.text ⟨lexemes, tail⟩) edit?) ⟨out, cursor⟩) =
      out ++ (before.drop cursor ++ (Scanned.mapTokens change ⟨lexemes, tail⟩).text) := by
  -- The source is cut at the next lexeme, and the lexeme moves over to what is before the cut.
  induction lexemes generalizing before out cursor with
  | nil =>
    simp [finish, Lexeme.placed, Scanned.mapTokens, Scanned.text,
      List.drop_append_of_le_length behind]
  | cons lexeme others ih =>
    obtain ⟨gap, token⟩ := lexeme
    have source : before ++ Scanned.text ⟨⟨gap, token⟩ :: others, tail⟩ =
        (before ++ gap ++ token.text.toList) ++ Scanned.text ⟨others, tail⟩ := by
      simp [Scanned.text, Lexeme.text]
    have changed : (Scanned.mapTokens change ⟨⟨gap, token⟩ :: others, tail⟩).text =
        gap ++ ((change token).text.toList ++ (Scanned.mapTokens change ⟨others, tail⟩).text) := by
      simp [Scanned.mapTokens, Scanned.text, Lexeme.text]
    have place : before.length + (Lexeme.text ⟨gap, token⟩).length =
        (before ++ gap ++ token.text.toList).length := by
      simp [Lexeme.text]
    rw [source, changed, Lexeme.placed, List.foldl_cons, place]
    have law := amounts token
    cases edits : edit? token with
    | none =>
      rw [edits] at law
      have kept : turn ((before ++ gap ++ token.text.toList) ++ Scanned.text ⟨others, tail⟩) edit?
          ⟨out, cursor⟩ (before.length + gap.length, token) = ⟨out, cursor⟩ := by
        simp only [turn, edits]
      rw [kept, ih _ _ _ (by simp only [List.length_append]; omega), law, List.append_assoc before,
        List.drop_append_of_le_length behind]
      simp only [List.append_assoc]
    | some edit =>
      rw [edits] at law
      obtain ⟨ordered, inside, text⟩ := law
      have copied : (((before ++ gap ++ token.text.toList) ++ Scanned.text ⟨others, tail⟩).take
          (before.length + gap.length + edit.first)).drop cursor =
            before.drop cursor ++ (gap ++ token.text.toList.take edit.first) := by
        have short : edit.first ≤ token.text.toList.length := Nat.le_trans ordered inside
        rw [← List.length_append, List.append_assoc (before ++ gap), List.take_length_add_append,
          List.take_append_of_le_length short, List.append_assoc before,
          List.drop_append_of_le_length behind]
      have moved : turn ((before ++ gap ++ token.text.toList) ++ Scanned.text ⟨others, tail⟩) edit?
          ⟨out, cursor⟩ (before.length + gap.length, token) =
            ⟨out ++ (before.drop cursor ++ (gap ++ token.text.toList.take edit.first)) ++ edit.text,
              before.length + gap.length + edit.last⟩ := by
        simp only [turn, edits, copied]
      have left : (before ++ gap ++ token.text.toList).drop
          (before.length + gap.length + edit.last) = token.text.toList.drop edit.last := by
        rw [← List.length_append, List.drop_length_add_append]
      rw [moved, ih _ _ _ (by simp only [List.length_append]; omega), left, text]
      simp only [List.append_assoc]

/-- The loop over a whole expression writes the changed tokens with the gaps between them. -/
theorem run_eq (amounts : Edit.Amounts edit? change) (scanned : Scanned) :
    run scanned.text edit? scanned.lexemes = (scanned.mapTokens change).text :=
  finish_foldl amounts scanned.lexemes scanned.tail [] [] 0 (Nat.le_refl 0)

end Splice

namespace Expression

/-- Renaming a table is one pass over the source with a cursor. -/
theorem run_repoint {expression : String} {scanned : Scanned}
    (scans : scan expression = .ok scanned) (source target : String) :
    String.ofList (Splice.run expression.toList (Edit.repoint? source target) scanned.lexemes) =
      scanned.repoint source target := by
  have whole := (Scan.lexemes_lossless ((scan_ok_iff expression scanned).mp scans)).1
  rw [← whole, Splice.run_eq (Edit.repoint?_amounts source target), Scanned.repoint]

/-- So is qualifying a name. -/
theorem run_qualify {expression : String} {scanned : Scanned}
    (scans : scan expression = .ok scanned) (name field : String) :
    String.ofList (Splice.run expression.toList (Edit.qualify? name field) scanned.lexemes) =
      scanned.qualify name field := by
  have whole := (Scan.lexemes_lossless ((scan_ok_iff expression scanned).mp scans)).1
  rw [← whole, Splice.run_eq (Edit.qualify?_amounts name field), Scanned.qualify]

end Expression

end Superstep
