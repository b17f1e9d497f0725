import Mathlib.Data.List.Forall2
import Superstep.Proofs.Outcome
import Superstep.Proofs.Statement.Reading

/-!
# The lines of a program

A program can be read exactly if every line that is neither blank nor a comment can be read. Its
statements are those of these lines, in order. What is read from a list of lines is put together from
what is read from its parts, and lines that are further down say the same with greater numbers.
-/

namespace Superstep

namespace Statement

/-- The tables that a statement names itself, outside of its expressions. -/
def names : Statement → List String
  | .beginIf condition => [condition]
  | .assign target _ => [target]
  | .setValue _ | .send _ _ | .endIf => []

/-- A statement that was read names its tables by identifiers. -/
theorem readChars_names {line : List Char} {statement : Statement}
    (read : readChars line = .ok statement) :
    ∀ name ∈ statement.names, Expression.isIdentifier name = true := by
  obtain ⟨formed, _⟩ := readChars_ok read
  intro name member
  cases statement with
  | beginIf condition => exact List.mem_singleton.mp member ▸ formed
  | assign target expression => exact List.mem_singleton.mp member ▸ formed.1.1
  | setValue | send | endIf => cases member

end Statement

namespace Program

def statementLines (source : String) : List (List Char) :=
  (Text.pieces '\n' source.toList).filter (!isSkipped ·)

/-- The lines say the statements, one each. -/
def Say (lines : List (List Char)) (statements : List Statement) : Prop :=
  List.Forall₂ (fun line statement => Statement.readChars line = .ok statement) lines statements

section Cons

variable (number : Nat) {line : List Char} (lines : List (List Char))

theorem readLines_cons_skipped (skipped : isSkipped line = true) :
    readLines number (line :: lines) = readLines (number + 1) lines := by
  rw [readLines, if_pos skipped]

variable (held : isSkipped line = false)

include held

theorem readLines_cons_fault {fault : StatementFault} (said : Statement.readChars line = .error fault) :
    readLines number (line :: lines) = .error ⟨number, fault⟩ := by
  rw [readLines, held, if_neg Bool.false_ne_true, said]
  rfl

theorem readLines_cons_statement {statement : Statement}
    (said : Statement.readChars line = .ok statement) :
    readLines number (line :: lines) =
      (readLines (number + 1) lines).map (⟨number, statement⟩ :: ·) := by
  rw [readLines, held, if_neg Bool.false_ne_true, said]
  cases readLines (number + 1) lines <;> rfl

end Cons

/-- A line that holds a statement is read if it can be and the lines behind it can. -/
theorem readLines_cons_ok_iff (number : Nat) (line : List Char) (lines : List (List Char))
    (held : isSkipped line = false) (result : List ProgramLine) :
    readLines number (line :: lines) = .ok result ↔
      ∃ statement following, Statement.readChars line = .ok statement ∧
        readLines (number + 1) lines = .ok following ∧
          result = ⟨number, statement⟩ :: following := by
  rw [readLines, held, if_neg Bool.false_ne_true, except_bind_ok_iff]
  simp only [mapError_ok_iff, except_bind_ok_iff]
  constructor
  · rintro ⟨statement, said, following, later, rest⟩
    cases rest
    exact ⟨statement, following, said, later, rfl⟩
  · rintro ⟨statement, following, said, later, rfl⟩
    exact ⟨statement, said, following, later, rfl⟩

/-- Blanks at the two ends of a line do not matter. -/
theorem readLines_trimmed (number : Nat) (line other : List Char) (lines : List (List Char))
    (same : Text.trim line = Text.trim other) :
    readLines number (line :: lines) = readLines number (other :: lines) := by
  have skipped : isSkipped line = isSkipped other := by simp only [isSkipped, same]
  have read : Statement.readChars line = Statement.readChars other := by
    simp only [Statement.readChars, Statement.body, same]
  rw [readLines, readLines, skipped, read]

/-- Lines behind others are read if those are, and go on with their numbers. -/
theorem readLines_append (number : Nat) (first second : List (List Char)) :
    readLines number (first ++ second) =
      readLines number first >>= fun earlier =>
        (readLines (number + first.length) second).map (earlier ++ ·) := by
  induction first generalizing number with
  | nil =>
    change readLines number second = (readLines number second).map id
    cases readLines number second <;> rfl
  | cons line first ih =>
    have count : number + (line :: first).length = number + 1 + first.length := by
      rw [List.length_cons, Nat.add_assoc, Nat.add_comm 1]
    rw [List.cons_append, count]
    cases held : isSkipped line with
    | true => rw [readLines_cons_skipped number _ held, readLines_cons_skipped number _ held, ih]
    | false =>
      cases said : Statement.readChars line with
      | error fault =>
        rw [readLines_cons_fault number _ held said, readLines_cons_fault number _ held said]
        rfl
      | ok statement =>
        rw [readLines_cons_statement number _ held said, readLines_cons_statement number _ held said, ih]
        cases readLines (number + 1) first with
        | error malformed => rfl
        | ok earlier => cases readLines (number + 1 + first.length) second <;> rfl

end Program

def ProgramLine.movedDown (above : Nat) (said : ProgramLine) : ProgramLine :=
  { said with line := said.line + above }

def Malformed.movedDown (above : Nat) (malformed : Malformed) : Malformed :=
  { malformed with line := malformed.line + above }

namespace Program

/-- Lines further down say the same. -/
theorem readLines_add (lines : List (List Char)) (number above : Nat) :
    readLines (number + above) lines =
      ((readLines number lines).map (·.map (·.movedDown above))).mapError (·.movedDown above) := by
  induction lines generalizing number with
  | nil => rfl
  | cons line lines ih =>
    have later := ih (number + 1)
    rw [Nat.add_right_comm] at later
    cases held : isSkipped line with
    | true => rw [readLines_cons_skipped _ _ held, readLines_cons_skipped _ _ held, later]
    | false =>
      cases said : Statement.readChars line with
      | error fault =>
        rw [readLines_cons_fault _ _ held said, readLines_cons_fault _ _ held said]
        rfl
      | ok statement =>
        rw [readLines_cons_statement _ _ held said, readLines_cons_statement _ _ held said, later]
        cases readLines (number + 1) lines <;> rfl

/-- The numbers of the lines do not matter for what is read. -/
theorem readLines_say (number : Nat) (lines : List (List Char)) (statements : List Statement) :
    (∃ result, readLines number lines = .ok result ∧ result.map (·.statement) = statements) ↔
      Say (lines.filter (!isSkipped ·)) statements := by
  induction lines generalizing number statements with
  | nil =>
    constructor
    · rintro ⟨result, success, rfl⟩
      cases success
      exact .nil
    · intro said
      cases said
      exact ⟨[], rfl, rfl⟩
  | cons line lines ih =>
    cases held : isSkipped line with
    | true =>
      rw [List.filter_cons_of_neg (by simp [held]), ← ih (number + 1), readLines, if_pos held]
    | false =>
      rw [List.filter_cons_of_pos (by simp [held])]
      constructor
      · rintro ⟨result, success, rfl⟩
        obtain ⟨statement, following, read, later, rfl⟩ :=
          (readLines_cons_ok_iff number line lines held result).mp success
        exact .cons read ((ih (number + 1) _).mp ⟨following, later, rfl⟩)
      · intro said
        cases said with
        | cons read others =>
          obtain ⟨following, later, rfl⟩ := (ih (number + 1) _).mpr others
          exact ⟨_, (readLines_cons_ok_iff number line lines held _).mpr
            ⟨_, following, read, later, rfl⟩, rfl⟩

theorem read_say (source : String) (statements : List Statement) :
    (∃ lines, read source = .ok lines ∧ lines.map (·.statement) = statements) ↔
      Say (statementLines source) statements :=
  readLines_say 1 _ statements

/-- Every statement comes from a line. -/
theorem Say.exists_line {lines : List (List Char)} {statements : List Statement}
    (said : Say lines statements) :
    ∀ statement ∈ statements, ∃ line ∈ lines, Statement.readChars line = .ok statement := by
  induction said with
  | nil => simp
  | cons read _ ih =>
    intro statement member
    rcases List.mem_cons.mp member with rfl | behind
    · exact ⟨_, List.mem_cons_self, read⟩
    · obtain ⟨line, held, spells⟩ := ih statement behind
      exact ⟨line, List.mem_cons_of_mem _ held, spells⟩

theorem read_names {source : String} {lines : List ProgramLine}
    (success : read source = .ok lines) :
    ∀ statement ∈ lines.map (·.statement), ∀ name ∈ statement.names,
      Expression.isIdentifier name = true := by
  intro statement member
  have said := (read_say source _).mp ⟨lines, success, rfl⟩
  obtain ⟨line, _, read⟩ := said.exists_line statement member
  exact Statement.readChars_names read

end Program

end Superstep
