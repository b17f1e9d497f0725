import Superstep.Proofs.LineEdits

/-!
# Programs one behind the other

A text whose last line is ended can stand in front of any other. Both are read as they are read alone,
but for the numbers of the lines: those of the second text go on from the first. The first line that is
no statement decides the error. Every number that is reported, with a statement or with a fault, is that
of a line that is neither blank nor a comment, and no such line is passed over.
-/

namespace Superstep

namespace Text

theorem length_pieces (mark : Char) (cs : List Char) :
    (pieces mark cs).length = cs.count mark + 1 := by
  induction cs with
  | nil => rfl
  | cons c cs ih =>
    rw [pieces, List.count_cons]
    split
    · rename_i same
      rw [List.length_cons, ih, same, beq_self_eq_true, if_pos rfl]
    · rename_i other
      rw [List.length_modifyHead, ih, beq_eq_false_iff_ne.mpr other, if_neg Bool.false_ne_true]

/-- The last line of the text is ended, so that a text behind it starts with a line of its own. -/
def Ended (text : String) : Prop := text = "" ∨ text.toList.getLast? = some '\n'

/-- A text whose last line is ended has as many lines as line feeds, whatever stands behind it. -/
theorem Ended.pieces_append {text : String} (ended : Ended text) :
    ∃ lines, lines.length = text.toList.count '\n' ∧
      ∀ behind, pieces '\n' (text.toList ++ behind) = lines ++ pieces '\n' behind := by
  rcases ended with rfl | last
  · exact ⟨[], rfl, fun _ => rfl⟩
  · obtain ⟨front, split⟩ := List.getLast?_eq_some_iff.mp last
    refine ⟨pieces '\n' front, ?_, ?_⟩
    · rw [length_pieces, split, List.count_append, List.count_singleton_self]
    · intro behind
      rw [split, List.append_assoc, List.singleton_append, pieces_append_mark]

end Text

namespace Program

/-- A line that is neither blank nor a comment. -/
def HoldsStatement (line : List Char) : Prop :=
  Text.trim line ≠ [] ∧ ¬ ['/', '/'] <+: Text.trim line ∧ ¬ ['#'] <+: Text.trim line

theorem isSkipped_eq_false_iff (line : List Char) : isSkipped line = false ↔ HoldsStatement line := by
  have hash : (Text.trim line).head? = some '#' ↔ ['#'] <+: Text.trim line := by
    cases Text.trim line <;> simp [List.cons_prefix_cons, eq_comm]
  have slashes : ['/', '/'].isPrefixOf (Text.trim line) = false ↔ ¬ ['/', '/'] <+: Text.trim line := by
    rw [← Bool.not_eq_true, List.isPrefixOf_iff_prefix]
  rw [isSkipped, HoldsStatement, ← hash]
  simp [slashes, and_assoc]

/-- The line with a number holds a statement, and is read as told. The first line has the number
`start`. -/
def SaysFrom (start : Nat) (lines : List (List Char)) (number : Nat)
    (outcome : Except StatementFault Statement) : Prop :=
  ∃ index line, number = start + index ∧ lines[index]? = some line ∧ HoldsStatement line ∧
    Statement.readChars line = outcome

/-- What lines say is what the first of them says, or what the others say from the next number on. -/
theorem saysFrom_cons_iff (start : Nat) (line : List Char) (lines : List (List Char)) (number : Nat)
    (outcome : Except StatementFault Statement) :
    SaysFrom start (line :: lines) number outcome ↔
      (number = start ∧ HoldsStatement line ∧ Statement.readChars line = outcome) ∨
        SaysFrom (start + 1) lines number outcome := by
  constructor
  · rintro ⟨index, found, rfl, place, holds, said⟩
    cases index with
    | zero =>
      obtain rfl := Option.some.inj place
      exact .inl ⟨rfl, holds, said⟩
    | succ index => exact .inr ⟨index, found, by omega, place, holds, said⟩
  · rintro (⟨rfl, holds, said⟩ | ⟨index, found, rfl, place, holds, said⟩)
    · exact ⟨0, line, rfl, rfl, holds, said⟩
    · exact ⟨index + 1, found, by omega, place, holds, said⟩

/-- What is read from lines is what each of them says, with its number. -/
theorem mem_readLines_iff {start : Nat} {lines : List (List Char)} {program : List ProgramLine}
    (success : readLines start lines = .ok program) (said : ProgramLine) :
    said ∈ program ↔ SaysFrom start lines said.line (.ok said.statement) := by
  induction lines generalizing start program with
  | nil =>
    cases success
    simp [SaysFrom]
  | cons line lines ih =>
    rw [saysFrom_cons_iff]
    cases held : isSkipped line with
    | true =>
      have empty : ¬ HoldsStatement line := by
        rw [← isSkipped_eq_false_iff, held]
        exact Bool.noConfusion
      rw [readLines_cons_skipped _ _ held] at success
      rw [ih success]
      simp [empty]
    | false =>
      obtain ⟨statement, following, read, later, rfl⟩ :=
        (readLines_cons_ok_iff start line lines held program).mp success
      have here : said = ⟨start, statement⟩ ↔ said.line = start ∧ HoldsStatement line ∧
          Statement.readChars line = .ok said.statement := by
        rw [read, Except.ok.injEq]
        obtain ⟨number, other⟩ := said
        simp [(isSkipped_eq_false_iff line).mp held, eq_comm]
      rw [List.mem_cons, ih later, here]

/-- A fault that is reported is that of the line with its number. -/
theorem saysFrom_of_readLines_error {start : Nat} {lines : List (List Char)} {malformed : Malformed}
    (failure : readLines start lines = .error malformed) :
    SaysFrom start lines malformed.line (.error malformed.fault) := by
  induction lines generalizing start with
  | nil => cases failure
  | cons line lines ih =>
    rw [saysFrom_cons_iff]
    cases held : isSkipped line with
    | true =>
      rw [readLines_cons_skipped _ _ held] at failure
      exact .inr (ih failure)
    | false =>
      cases said : Statement.readChars line with
      | error fault =>
        rw [readLines_cons_fault _ _ held said] at failure
        cases failure
        exact .inl ⟨rfl, (isSkipped_eq_false_iff line).mp held, rfl⟩
      | ok statement =>
        rw [readLines_cons_statement _ _ held said] at failure
        cases later : readLines (start + 1) lines with
        | ok following =>
          rw [later] at failure
          cases failure
        | error other =>
          rw [later] at failure
          cases failure
          exact .inr (ih later)

/-- The texts are read one behind the other. -/
theorem read_append_eq {first : String} (ended : Text.Ended first) (second : String) :
    read (first ++ second) = read first >>= fun earlier =>
      (((read second).map (·.map (·.movedDown (first.toList.count '\n')))).mapError
        (·.movedDown (first.toList.count '\n'))).map (earlier ++ ·) := by
  obtain ⟨lines, count, cut⟩ := ended.pieces_append
  have alone : read first = readLines 1 lines := by
    have whole := cut []
    rw [List.append_nil] at whole
    rw [read, whole, readLines_append]
    cases readLines 1 lines with
    | error malformed => rfl
    | ok earlier => exact congrArg Except.ok (List.append_nil earlier)
  rw [alone, read, String.toList_append, cut, readLines_append, readLines_add, count]
  rfl

/-- A program is read line by line: a text whose last line is ended decides the error if it cannot be
read; otherwise its statements come first, and those of the text behind it, or its fault, follow with
their numbers raised by the lines of the first text. However a text is cut into lines, every number
that is reported is that of a line that holds a statement, which is what the line says, and every line
that holds a statement is reported. -/
theorem read_line_by_line (first second : String) (ended : Text.Ended first) :
    (∀ malformed, read first = .error malformed → read (first ++ second) = .error malformed) ∧
    (∀ earlier later, read first = .ok earlier → read second = .ok later →
      read (first ++ second) =
        .ok (earlier ++ later.map (·.movedDown (first.toList.count '\n')))) ∧
    (∀ earlier malformed, read first = .ok earlier → read second = .error malformed →
      read (first ++ second) = .error (malformed.movedDown (first.toList.count '\n'))) ∧
    ∀ source lines, Text.OfLines lines source.toList →
      (∀ program, read source = .ok program → ∀ said,
        said ∈ program ↔ SaysFrom 1 lines said.line (.ok said.statement)) ∧
      (∀ malformed, read source = .error malformed →
        SaysFrom 1 lines malformed.line (.error malformed.fault)) := by
  refine ⟨?_, ?_, ?_, ?_⟩
  · intro malformed failure
    rw [read_append_eq ended, failure]
    rfl
  · intro earlier later success behind
    rw [read_append_eq ended, success, behind]
    rfl
  · intro earlier malformed success behind
    rw [read_append_eq ended, success, behind]
    rfl
  · intro source lines made
    have whole : read source = readLines 1 lines := readLines_pieces made 1
    rw [whole]
    exact ⟨fun _ success => mem_readLines_iff success, fun _ => saysFrom_of_readLines_error⟩

/-- A comment, a carriage return, a blank line and a last line that is not ended. -/
theorem read_line_by_line_commented :
    read "# one\r\na = 1\n" = .ok [⟨2, .assign "a" "1"⟩] ∧
    read "\nb = 2" = .ok [⟨2, .assign "b" "2"⟩] ∧
    read "\x7dx" = .error ⟨1, .textAfterBrace⟩ ∧
    read ("# one\r\na = 1\n" ++ "\nb = 2") = .ok [⟨2, .assign "a" "1"⟩, ⟨4, .assign "b" "2"⟩] ∧
    read ("# one\r\na = 1\n" ++ "\x7dx") = .error ⟨3, .textAfterBrace⟩ ∧
    SaysFrom 1 ["# one".toList, "a = 1".toList] 2 (.ok (.assign "a" "1")) := by
  have ended : Text.Ended "# one\r\na = 1\n" := .inr (by decide)
  have one : read "# one\r\na = 1\n" = .ok [⟨2, .assign "a" "1"⟩] := by decide +kernel
  have two : read "\nb = 2" = .ok [⟨2, .assign "b" "2"⟩] := by decide +kernel
  have fault : read "\x7dx" = .error ⟨1, .textAfterBrace⟩ := by decide +kernel
  have made : Text.OfLines ["# one".toList, "a = 1".toList] "# one\r\na = 1\n".toList :=
    .line _ ['\r', '\n'] _ _ (by decide) (.inr rfl)
      (.line _ ['\n'] [] [] (by decide) (.inl rfl) .none)
  obtain ⟨_, both, _, _⟩ := read_line_by_line _ "\nb = 2" ended
  obtain ⟨_, _, blamed, placed⟩ := read_line_by_line _ "\x7dx" ended
  refine ⟨one, two, fault, both _ _ one two, blamed _ _ one fault, ?_⟩
  exact ((placed _ _ made).1 _ one ⟨2, .assign "a" "1"⟩).mp List.mem_cons_self

end Program

end Superstep
