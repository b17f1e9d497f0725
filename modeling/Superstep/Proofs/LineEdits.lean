import Superstep.Proofs.Planner.Failure
import Superstep.Proofs.Planner.Layout
import Superstep.Proofs.ProgramLines
import Superstep.Proofs.Text.Occurrence
import Superstep.Proofs.Token.Joining

/-!
# The layout of a program does not matter

A program can be laid out freely: lines that hold no statement are put in anywhere, and spaces and
tabs are put around any line. The plan stays the same. Where there is no plan the error stays the same
too, except that a line that is no statement has moved down by the lines that were put in above it.
-/

namespace Superstep

/-- A text made of lines. A line feed ends a line, perhaps with a carriage return before it, and the
last line need not be ended. -/
inductive Text.OfLines : List (List Char) → List Char → Prop where
  | none : OfLines [] []
  | last (line : List Char) (whole : '\n' ∉ line) : OfLines [line] line
  | line (line ending text : List Char) (lines : List (List Char)) (whole : '\n' ∉ line)
      (ends : ending = ['\n'] ∨ ending = ['\r', '\n']) (rest : OfLines lines text) :
      OfLines (line :: lines) (line ++ (ending ++ text))

namespace Text.OfLines

theorem prepend {line text : List Char} {lines : List (List Char)} (c : Char) (inside : c ≠ '\n')
    (made : OfLines (line :: lines) text) : OfLines ((c :: line) :: lines) (c :: text) := by
  cases made with
  | last _ whole => exact .last (c :: line) (List.not_mem_cons_of_ne_of_not_mem inside.symm whole)
  | line _ ending text _ whole ends rest =>
    exact .line (c :: line) ending text lines (List.not_mem_cons_of_ne_of_not_mem inside.symm whole)
      ends rest

/-- Every text is made of lines. -/
theorem pieces (text : List Char) : OfLines (Text.pieces '\n' text) text := by
  induction text with
  | nil => exact .last [] List.not_mem_nil
  | cons c cs ih =>
    rw [Text.pieces]
    split
    · rename_i same
      rw [same]
      exact .line [] ['\n'] cs _ List.not_mem_nil (.inl rfl) ih
    · rename_i inside
      cases split : Text.pieces '\n' cs with
      | nil =>
        rw [split] at ih
        cases ih
        cases split
      | cons line lines =>
        rw [split] at ih
        exact ih.prepend c inside

/-- A word without line ends occurs in a text if it occurs in one of its lines. -/
theorem infix_iff {lines : List (List Char)} {text : List Char} (made : OfLines lines text)
    (word : List Char) (some : word ≠ []) (feed : '\n' ∉ word) (carriage : '\r' ∉ word) :
    word <:+: text ↔ ∃ line ∈ lines, word <:+: line := by
  induction made with
  | none => simp [some]
  | last line whole => simp
  | line line ending text lines whole ends rest ih =>
    have parted : word <:+: line ++ (ending ++ text) ↔ word <:+: line ∨ word <:+: text := by
      rcases ends with rfl | rfl
      · exact infix_append_cons_iff word line text '\n' feed
      · rw [← infix_append_left_iff word ['\n'] text some (by simpa using feed)]
        exact infix_append_cons_iff word line ('\n' :: text) '\r' carriage
    rw [parted, ih, List.exists_mem_cons_iff]

end Text.OfLines

/-- One line of a new layout. -/
inductive LineEdit where
  /-- A line that is put in. -/
  | insert (line : List Char)
  /-- The next line of the old layout, with something put before and behind it. -/
  | keep (front back : List Char)
  deriving DecidableEq, Repr

namespace LineEdit

/-- The lines of the new layout. Lines that no edit is left for stay as they are. -/
def apply : List LineEdit → List (List Char) → List (List Char)
  | [], lines => lines
  | .insert line :: edits, lines => line :: apply edits lines
  | .keep _ _ :: edits, [] => apply edits []
  | .keep front back :: edits, line :: lines => (front ++ (line ++ back)) :: apply edits lines

/-- How many lines are put in above the line that stands behind `index` others in the old layout. -/
def insertedAbove : List LineEdit → Nat → Nat
  | [], _ => 0
  | .insert _ :: edits, index => insertedAbove edits index + 1
  | .keep _ _ :: _, 0 => 0
  | .keep _ _ :: edits, index + 1 => insertedAbove edits index

/-- A line that holds no statement: blanks only, or a comment behind them. -/
def Empty (line : List Char) : Prop :=
  ∃ blanks rest, line = blanks ++ rest ∧ Text.allBlank blanks = true ∧
    (rest = [] ∨ ['/', '/'] <+: rest ∨ ['#'] <+: rest)

/-- An edit of the layout only. The degree tables are looked for in the whole text of a program, so
a comment must not name them. -/
def Harmless : LineEdit → Prop
  | .insert line => Empty line ∧ ¬ Table.inCounts.toList <:+: line ∧
      ¬ Table.outCounts.toList <:+: line
  | .keep front back => front.all Scan.isGap = true ∧ back.all Scan.isGap = true

/-- A line of blanks, or of a comment, says nothing. -/
theorem isSkipped_of_empty (line : List Char) (empty : Empty line) :
    Program.isSkipped line = true := by
  obtain ⟨blanks, rest, rfl, blank, rfl | ⟨more, rfl⟩ | ⟨more, rfl⟩⟩ := empty
  · have nothing : Text.trim (blanks ++ []) = [] :=
      Text.trim_between blanks [] [] ⟨by simp, by simp⟩ blank rfl
    rw [Program.isSkipped, nothing]
    rfl
  · have comment := Text.trim_marked blanks ['/', '/'] more blank (.enclosed '/' '/' [] rfl rfl)
      (by simp)
    rw [Program.isSkipped, comment]
    rfl
  · have comment := Text.trim_marked blanks ['#'] more blank (.singleton '#' rfl) (by simp)
    rw [Program.isSkipped, comment]
    simp

/-- A word that is not put in occurs in the new layout if it occurs in the old one. -/
theorem infix_apply_iff (word : List Char) (some : word ≠ [])
    (solid : word.all (!Scan.isGap ·) = true) (edits : List LineEdit)
    (unnamed : ∀ line, .insert line ∈ edits → ¬ word <:+: line)
    (padded : ∀ front back, .keep front back ∈ edits →
      front.all Scan.isGap = true ∧ back.all Scan.isGap = true)
    (lines : List (List Char)) :
    (∃ line ∈ apply edits lines, word <:+: line) ↔ ∃ line ∈ lines, word <:+: line := by
  have apart : ∀ gap : List Char, gap.all Scan.isGap = true → ∀ c ∈ gap, c ∉ word := by
    intro gap blank c member inside
    have filled := List.all_eq_true.mp solid c inside
    rw [List.all_eq_true.mp blank c member] at filled
    cases filled
  induction edits generalizing lines with
  | nil => rfl
  | cons edit edits ih =>
    have later : ∀ lines, (∃ line ∈ apply edits lines, word <:+: line) ↔
        ∃ line ∈ lines, word <:+: line := ih (fun line member => unnamed line (.tail _ member))
      (fun front back member => padded front back (.tail _ member))
    cases edit with
    | insert line =>
      rw [apply, List.exists_mem_cons_iff, later lines, or_iff_right (unnamed line (.head _))]
    | keep front back =>
      cases lines with
      | nil => exact later []
      | cons line lines =>
        obtain ⟨before, behind⟩ := padded front back (.head _)
        rw [apply, List.exists_mem_cons_iff, List.exists_mem_cons_iff, later lines,
          Text.infix_append_left_iff word front _ some (apart front before),
          Text.infix_append_right_iff word line back some (apart back behind)]

end LineEdit

namespace Program

/-- The lines of a text are read as they are, however they are ended. -/
theorem readLines_pieces {lines : List (List Char)} {text : List Char}
    (made : Text.OfLines lines text) (number : Nat) :
    readLines number (Text.pieces '\n' text) = readLines number lines := by
  induction made generalizing number with
  | none => rfl
  | last line whole => rw [Text.pieces_of_not_mem line whole]
  | line line ending text lines whole ends rest ih =>
    rcases ends with rfl | rfl
    · rw [List.singleton_append, Text.pieces_append line text whole, readLines, readLines, ih]
    · have longer : '\n' ∉ line ++ ['\r'] := by simpa using whole
      have returned := Text.pieces_append (line ++ ['\r']) text longer
      rw [List.append_assoc, List.singleton_append] at returned
      have blank : Text.trim (line ++ ['\r']) = Text.trim line :=
        Text.trim_padded [] line ['\r'] rfl (by decide)
      rw [List.cons_append, List.singleton_append, returned,
        readLines_trimmed number _ line _ blank, readLines, readLines, ih]

def statementsFrom (number : Nat) (lines : List (List Char)) : Except Malformed (List Statement) :=
  (readLines number lines).map (·.map (·.statement))

theorem statementsFrom_cons (number : Nat) (line : List Char) (lines : List (List Char)) :
    statementsFrom number (line :: lines) =
      if isSkipped line = true then statementsFrom (number + 1) lines
      else
        match Statement.readChars line with
        | .error fault => .error ⟨number, fault⟩
        | .ok statement => (statementsFrom (number + 1) lines).map (statement :: ·) := by
  rw [statementsFrom, readLines, statementsFrom]
  cases isSkipped line with
  | true => rfl
  | false =>
    cases Statement.readChars line with
    | error fault => rfl
    | ok statement => cases readLines (number + 1) lines <;> rfl

theorem statementsFrom_trimmed (number : Nat) (line other : List Char) (lines : List (List Char))
    (same : Text.trim line = Text.trim other) :
    statementsFrom number (line :: lines) = statementsFrom number (other :: lines) := by
  rw [statementsFrom, readLines_trimmed number line other lines same, statementsFrom]

theorem statementsFrom_pieces {lines : List (List Char)} {text : List Char}
    (made : Text.OfLines lines text) (number : Nat) :
    statementsFrom number (Text.pieces '\n' text) = statementsFrom number lines := by
  rw [statementsFrom, readLines_pieces made, statementsFrom]

/-- A line that is blamed is one of the lines. -/
theorem number_le_of_statementsFrom (number : Nat) (lines : List (List Char))
    (malformed : Malformed) (blamed : statementsFrom number lines = .error malformed) :
    number ≤ malformed.line := by
  induction lines generalizing number with
  | nil => cases blamed
  | cons line lines ih =>
    rw [statementsFrom_cons] at blamed
    split at blamed
    · have later := ih (number + 1) blamed
      omega
    · split at blamed
      · cases blamed
        exact Nat.le_refl _
      · cases rest : statementsFrom (number + 1) lines with
        | ok statements =>
          rw [rest] at blamed
          cases blamed
        | error found =>
          rw [rest] at blamed
          cases blamed
          have later := ih (number + 1) rest
          omega

/-- A line in another place says the same if what follows it does. -/
theorem statementsFrom_cons_moved (number other : Nat) (line : List Char)
    (lines others : List (List Char)) (move : Malformed → Malformed)
    (here : ∀ fault, move ⟨number, fault⟩ = ⟨other, fault⟩)
    (later : statementsFrom (other + 1) others =
      (statementsFrom (number + 1) lines).mapError move) :
    statementsFrom other (line :: others) =
      (statementsFrom number (line :: lines)).mapError move := by
  rw [statementsFrom_cons, statementsFrom_cons, later]
  split
  · rfl
  · cases Statement.readChars line with
    | error fault => exact congrArg Except.error (here fault).symm
    | ok statement => exact map_mapError _ _ _

/-- Lines further down say the same. -/
theorem statementsFrom_add (lines : List (List Char)) (number above : Nat) :
    statementsFrom (number + above) lines =
      (statementsFrom number lines).mapError fun malformed =>
        { malformed with line := malformed.line + above } := by
  rw [statementsFrom, readLines_add, statementsFrom]
  cases readLines number lines with
  | error malformed => rfl
  | ok program => exact congrArg Except.ok List.map_map

/-- The lines of a new layout say what those of the old one say. The lines before them are counted
apart: `above` of them are put in. -/
theorem statementsFrom_apply (edits : List LineEdit) (harmless : ∀ edit ∈ edits, edit.Harmless)
    (lines : List (List Char)) (number above : Nat) :
    statementsFrom (number + above) (LineEdit.apply edits lines) =
      (statementsFrom number lines).mapError fun malformed =>
        { malformed with
          line := malformed.line + above +
            LineEdit.insertedAbove edits (malformed.line - number) } := by
  induction edits generalizing lines number above with
  | nil => exact statementsFrom_add lines number above
  | cons edit edits ih =>
    obtain ⟨here, others⟩ := List.forall_mem_cons.mp harmless
    cases edit with
    | insert line =>
      have later := ih others lines number (above + 1)
      rw [LineEdit.apply, statementsFrom_cons, if_pos (LineEdit.isSkipped_of_empty line here.1),
        Nat.add_assoc, later]
      refine mapError_congr _ _ _ ?_
      intro malformed _
      rw [LineEdit.insertedAbove]
      congr 1
      omega
    | keep front back =>
      cases lines with
      | nil => exact ih others [] number above
      | cons line lines =>
        have padded := Text.trim_padded front line back (Text.allBlank_of_gap front here.1)
          (Text.allBlank_of_gap back here.2)
        -- A fault in a later line is counted from that line on, so both counts agree on it.
        have later : statementsFrom (number + above + 1) (LineEdit.apply edits lines) =
            (statementsFrom (number + 1) lines).mapError fun malformed =>
              { malformed with
                line := malformed.line + above +
                  LineEdit.insertedAbove (.keep front back :: edits) (malformed.line - number) } := by
          rw [Nat.add_right_comm, ih others lines (number + 1) above]
          refine mapError_congr _ _ _ ?_
          intro malformed blamed
          have bound := number_le_of_statementsFrom _ _ _ blamed
          have behind : malformed.line - number = malformed.line - (number + 1) + 1 := by omega
          rw [behind, LineEdit.insertedAbove]
        rw [LineEdit.apply, statementsFrom_trimmed _ _ line _ padded]
        refine statementsFrom_cons_moved number _ line lines _ _ ?_ later
        intro fault
        simp only [Nat.sub_self, LineEdit.insertedAbove, Nat.add_zero]

end Program

namespace PlanError

/-- Whether an error blames a line that is no statement. -/
def isMalformed : PlanError → Bool
  | .malformed _ => true
  | _ => false

/-- The error with the line moved that it blames. -/
def moved (move : Nat → Nat) : PlanError → PlanError
  | .malformed fault => .malformed { fault with line := move fault.line }
  | error => error

theorem moved_of_not_malformed (move : Nat → Nat) (error : PlanError)
    (elsewhere : (!error.isMalformed) = true) : error.moved move = error := by
  cases error with
  | malformed fault => cases elsewhere
  | unbalancedScope | unknownDirection | noTable | unknownTable | tableRedefined | reservedTable
  | missingOption | invalidOption | unreadable => rfl

end PlanError

namespace Algorithm

theorem required_error {options : List (String × String)} {key : OptionKey}
    {next : String → Except PlanError Algorithm}
    (later : ∀ value error, next value = .error error → ∃ key, error = .missingOption key)
    (error : PlanError) (refused : (required options key >>= next) = .error error) :
    ∃ key, error = .missingOption key := by
  unfold required at refused
  split at refused
  · exact later _ error refused
  · cases refused
    exact ⟨key, rfl⟩

theorem ofOptions_error (options : List (String × String)) (error : PlanError)
    (refused : ofOptions options = .error error) : ∃ key, error = .missingOption key := by
  refine required_error (fun _ => required_error fun _ => required_error fun _ => ?_) error refused
  refine required_error fun _ => required_error fun _ => required_error fun _ error impossible => ?_
  cases impossible

/-- An end of the loop that is not understood is an invalid option. -/
theorem loopEnd_error (described : Algorithm) (error : PlanError)
    (refused : described.loopEnd = .error error) : ∃ fault, error = .invalidOption fault := by
  unfold loopEnd at refused
  dsimp only at refused
  split at refused
  · cases refused
  · split at refused
    · cases refused
      exact ⟨_, rfl⟩
    · split at refused
      · cases refused
        exact ⟨_, rfl⟩
      · split at refused
        · cases refused
          exact ⟨_, rfl⟩
        · cases refused

/-- A first message that is not understood is an invalid option. -/
theorem startMessage_error (described : Algorithm) (error : PlanError)
    (refused : described.startMessage = .error error) : ∃ fault, error = .invalidOption fault := by
  unfold startMessage at refused
  dsimp only at refused
  split at refused
  · split at refused
    · cases refused
      exact ⟨_, rfl⟩
    · split at refused
      · cases refused
      · cases refused
  · cases refused
    exact ⟨_, rfl⟩

end Algorithm

namespace Planner

variable {α β : Type} (move : Nat → Nat)

/-- Describing errors anew can be done step by step. -/
theorem adaptExcept_bind (describe : PlanError → PlanError) (step : Planner α)
    (next : α → Planner β) :
    EStateM.adaptExcept describe (step >>= next) =
      EStateM.adaptExcept describe step >>= fun value => EStateM.adaptExcept describe (next value) := by
  funext state
  change (EStateM.adaptExcept describe (step >>= next)).run state =
    (EStateM.adaptExcept describe step >>= _).run state
  rw [EStateM.run_adaptExcept, EStateM.run_bind, EStateM.run_bind, EStateM.run_adaptExcept]
  cases step.run state with
  | ok value between => exact (EStateM.run_adaptExcept _ _ _).symm
  | error error between => rfl

/-- A step that blames no line of the program reports the same wherever the lines stand. -/
def Placeless (step : Planner α) : Prop := Raises (fun error => !error.isMalformed) step

theorem Raises.placeless {step : Planner α}
    (raises : Raises (fun error => error.isContent || error.isScope) step) : Placeless step := by
  refine raises.mono ?_
  intro error known
  cases error with
  | malformed fault => cases known
  | unbalancedScope | unknownDirection | noTable | unknownTable | tableRedefined | reservedTable
  | missingOption | invalidOption | unreadable => rfl

/-- A step whose errors blame no line is not affected when lines move. -/
theorem Placeless.moved {step : Planner α} (placeless : Placeless step) :
    EStateM.adaptExcept (PlanError.moved move) step = step := by
  funext state
  change (EStateM.adaptExcept (PlanError.moved move) step).run state = step.run state
  rw [EStateM.run_adaptExcept]
  cases ran : step.run state with
  | ok value after => rfl
  | error error after =>
    exact congrArg (EStateM.Result.error · after)
      (error.moved_of_not_malformed move (placeless state after error ran))

theorem create_placeless (table : String) : Placeless (create table) := by
  refine Raises.placeless ((create_raises table).mono ?_)
  intro error content
  rw [content, Bool.true_or]

theorem scan_placeless (expression : String) : Placeless (scan expression) := .described fun _ => rfl

/-- What is planned before the program blames no line of it. -/
theorem init_placeless (algorithm : Algorithm) : Placeless (init algorithm) := by
  have counts : ∀ incoming, Placeless (countEdges incoming) :=
    fun incoming => .total fun state => ⟨(), _, run_countEdges incoming state⟩
  have out : Placeless
      (if algorithm.mentions Table.outCounts = true then countEdges false else pure ()) := by
    split
    · exact counts false
    · exact .total fun state => ⟨(), state, rfl⟩
  refine .bind (modify_raises _) fun _ => .bind (modify_raises _) fun _ => ?_
  refine .bind (modify_raises _) fun _ => .bind (modify_raises _) fun _ => ?_
  refine .bind (modify_raises _) fun _ => .bind (create_placeless _) fun _ => ?_
  refine .bind (modify_raises _) fun _ => .bind (create_placeless _) fun _ => ?_
  refine .bind (.check ?_) fun message => .bind (modify_raises _) fun _ => ?_
  · intro error refused
    obtain ⟨fault, rfl⟩ := algorithm.startMessage_error error refused
    rfl
  · dsimp only
    split
    · exact .bind (modify_raises _) fun _ => .bind (counts true) fun _ => out
    · exact out

theorem endLoop_placeless (loopEnd : LoopEnd) : Placeless (endLoop loopEnd) := by
  have drops : ∀ tables, Placeless (dropAll tables) := by
    intro tables
    induction tables with
    | nil => exact .total fun state => ⟨(), state, rfl⟩
    | cons table others ih => exact .bind (modify_raises _) fun _ => ih
  refine .bind get_raises fun state => .bind (modify_raises _) fun _ => ?_
  exact .bind (drops _) fun _ => .bind (modify_raises _) fun _ => modify_raises _

def allStatements (planned : List Statement) : Planner Unit := do
  statements planned
  check (← get).scope.finish

theorem allStatements_placeless (planned : List Statement) : Placeless (allStatements planned) := by
  refine .bind (statements_raises planned).placeless fun _ => .bind get_raises fun state => .check ?_
  intro error refused
  unfold Scope.finish at refused
  split at refused
  · cases refused
  · cases refused
    rfl

/-- Only the statements of a program matter, and the line that is no statement. -/
theorem program_eq (source : String) :
    program source =
      check ((Program.statementsFrom 1 (Text.pieces '\n' source.toList)).mapError .malformed) >>=
        allStatements := by
  rw [program, Program.read, Program.statementsFrom]
  cases Program.readLines 1 (Text.pieces '\n' source.toList) <;> rfl

/-- Statements that are the same but for the place of a line that is none are planned the same. -/
theorem program_moved (first second : String)
    (same : Program.statementsFrom 1 (Text.pieces '\n' second.toList) =
      (Program.statementsFrom 1 (Text.pieces '\n' first.toList)).mapError fun malformed =>
        { malformed with line := move malformed.line }) :
    program second = EStateM.adaptExcept (PlanError.moved move) (program first) := by
  rw [program_eq, program_eq, adaptExcept_bind, same]
  simp only [(allStatements_placeless _).moved]
  cases Program.statementsFrom 1 (Text.pieces '\n' first.toList) <;> rfl

variable (described : Algorithm) (second : String)
  (mentioned : ∀ incoming, Text.mentions second (degreeTable incoming) =
    Text.mentions described.update (degreeTable incoming))
  (planned : program second = EStateM.adaptExcept (PlanError.moved move) (program described.update))

include mentioned in
theorem init_update : init { described with update := second } = init described := by
  have incoming : { described with update := second }.mentions Table.inCounts =
      described.mentions Table.inCounts := mentioned true
  have outgoing : { described with update := second }.mentions Table.outCounts =
      described.mentions Table.outCounts := mentioned false
  rw [init, incoming, outgoing]
  rfl

include planned in
theorem superstep_moved : superstep { described with update := second } =
    EStateM.adaptExcept (PlanError.moved move) (superstep described) := by
  have modifies : ∀ change : PlanState → PlanState,
      EStateM.adaptExcept (PlanError.moved move) (modify change : Planner Unit) = modify change :=
    fun change => Placeless.moved move (modify_raises change)
  simp only [superstep, drop, emit, setting, adaptExcept_bind, (scan_placeless _).moved,
    (create_placeless _).moved, modifies, planned]

include mentioned planned in
theorem algorithm_moved (loopEnd : LoopEnd) :
    algorithm { described with update := second } loopEnd =
      EStateM.adaptExcept (PlanError.moved move) (algorithm described loopEnd) := by
  have opens : Placeless (beginLoop loopEnd) := .bind (modify_raises _) fun _ => modify_raises _
  simp only [algorithm, adaptExcept_bind, (init_placeless _).moved, opens.moved,
    (endLoop_placeless _).moved, init_update described second mentioned,
    superstep_moved move described second planned]

theorem plan_of_loopEnd (loopEnd : LoopEnd) (loop : described.loopEnd = .ok loopEnd)
    (names : FreshNames) :
    described.plan names =
      match (algorithm described loopEnd).run { names } with
      | .ok _ state => .ok state.plan
      | .error error _ => .error error := by
  rw [Algorithm.plan, loop]
  rfl

include mentioned planned in
/-- With the lines of the program moved, a plan is the same and an error blames the moved line. -/
theorem plan_moved (names : FreshNames) :
    { described with update := second }.plan names =
      (described.plan names).mapError (PlanError.moved move) := by
  have ends : { described with update := second }.loopEnd = described.loopEnd := rfl
  cases loop : described.loopEnd with
  | error error =>
    obtain ⟨fault, rfl⟩ := described.loopEnd_error error loop
    rw [Algorithm.plan, Algorithm.plan, ends, loop]
    rfl
  | ok loopEnd =>
    rw [plan_of_loopEnd described loopEnd loop, plan_of_loopEnd _ loopEnd (ends.trans loop),
      algorithm_moved move described second mentioned planned loopEnd, EStateM.run_adaptExcept]
    cases (algorithm described loopEnd).run { names } <;> rfl

end Planner

/-- Options that differ in the program only describe algorithms that differ in it only. -/
theorem Algorithm.ofOptions_update (options others : List (String × String)) (first second : String)
    (agree : ∀ key, key ≠ OptionKey.update.name → others.lookup key = options.lookup key)
    (old : options.lookup OptionKey.update.name = some first)
    (new : others.lookup OptionKey.update.name = some second) :
    ofOptions others = (ofOptions options).map fun described => { described with update := second } := by
  have same : ∀ key, key.name ≠ OptionKey.update.name → required others key = required options key := by
    intro key different
    rw [required, required, agree key.name different]
  have before : required options .update = .ok first := (Planner.required_ok_iff _ _ _).mpr old
  have after : required others .update = .ok second := (Planner.required_ok_iff _ _ _).mpr new
  have type : others.lookup OptionKey.vertexType.name = options.lookup OptionKey.vertexType.name :=
    agree _ (by decide)
  simp only [ofOptions, before, after, type, same .loopEnd (by decide), same .firstValue (by decide),
    same .firstMessage (by decide), same .messageType (by decide), same .combine (by decide)]
  cases required options .loopEnd <;> cases required options .firstValue <;>
    cases required options .firstMessage <;> cases required options .messageType <;>
    cases required options .combine <;> rfl

namespace Planner

/-- A degree table is named in the new layout if it is named in the old one. -/
theorem mentions_degreeTable {lines : List (List Char)} {edits : List LineEdit}
    {first second : String} (before : Text.OfLines lines first.toList)
    (after : Text.OfLines (LineEdit.apply edits lines) second.toList)
    (harmless : ∀ edit ∈ edits, edit.Harmless) (incoming : Bool) :
    Text.mentions second (degreeTable incoming) = Text.mentions first (degreeTable incoming) := by
  have some : (degreeTable incoming).toList ≠ [] := by cases incoming <;> decide
  have feed : '\n' ∉ (degreeTable incoming).toList := by cases incoming <;> decide
  have carriage : '\r' ∉ (degreeTable incoming).toList := by cases incoming <;> decide
  have solid : (degreeTable incoming).toList.all (!Scan.isGap ·) = true := by
    cases incoming <;> rfl
  have unnamed : ∀ line, .insert line ∈ edits → ¬ (degreeTable incoming).toList <:+: line := by
    intro line member
    have put := harmless _ member
    cases incoming with
    | true => exact put.2.1
    | false => exact put.2.2
  rw [Bool.eq_iff_iff, Text.mentions_iff, Text.mentions_iff,
    after.infix_iff _ some feed carriage, before.infix_iff _ some feed carriage]
  exact LineEdit.infix_apply_iff _ some solid edits unnamed
    (fun front back member => harmless _ member) lines

/-- The layout of a program does not matter: with lines put in that hold no statement, and with spaces
and tabs around the lines, it has the same plan or the same error. An error in a line moves down with
the line. -/
theorem layout_immaterial (options others : List (String × String)) (stem first second : String)
    (agree : ∀ key, key ≠ OptionKey.update.name → others.lookup key = options.lookup key)
    (old : options.lookup OptionKey.update.name = some first)
    (new : others.lookup OptionKey.update.name = some second)
    (lines : List (List Char)) (edits : List LineEdit)
    (before : Text.OfLines lines first.toList)
    (after : Text.OfLines (LineEdit.apply edits lines) second.toList)
    (harmless : ∀ edit ∈ edits, edit.Harmless) :
    Plan.ofOptions others stem =
      (Plan.ofOptions options stem).mapError
        (.moved fun line => line + LineEdit.insertedAbove edits (line - 1)) := by
  have same : Program.statementsFrom 1 (Text.pieces '\n' second.toList) =
      (Program.statementsFrom 1 (Text.pieces '\n' first.toList)).mapError fun malformed =>
        { malformed with
          line := malformed.line + LineEdit.insertedAbove edits (malformed.line - 1) } := by
    rw [Program.statementsFrom_pieces before, Program.statementsFrom_pieces after]
    exact Program.statementsFrom_apply edits harmless lines 1 0
  have planned := program_moved (fun line => line + LineEdit.insertedAbove edits (line - 1))
    first second same
  rw [Plan.ofOptions, Plan.ofOptions,
    Algorithm.ofOptions_update options others first second agree old new]
  cases describes : Algorithm.ofOptions options with
  | error error =>
    obtain ⟨key, rfl⟩ := Algorithm.ofOptions_error options error describes
    rfl
  | ok described =>
    obtain rfl : first = described.update :=
      Option.some.inj (old.symm.trans (update_of_ofOptions options described describes))
    exact plan_moved _ described second (mentions_degreeTable before after harmless) planned { stem }

/-- A note and an empty line put in, and blanks around the lines. -/
def spread : List LineEdit :=
  [.insert "# note".toList, .keep "  ".toList ['\t'], .insert [' '], .keep [] "  ".toList]

theorem spread_harmless : ∀ edit ∈ spread, edit.Harmless := by
  have note : (LineEdit.insert "# note".toList).Harmless :=
    ⟨⟨[], _, rfl, rfl, .inr (.inr ⟨_, rfl⟩)⟩, by decide, by decide⟩
  have blank : (LineEdit.insert [' ']).Harmless :=
    ⟨⟨[' '], [], rfl, by decide, .inl rfl⟩, by decide, by decide⟩
  have indented : (LineEdit.keep "  ".toList ['\t']).Harmless := ⟨by decide, by decide⟩
  have trailing : (LineEdit.keep [] "  ".toList).Harmless := ⟨by decide, by decide⟩
  simp only [spread, List.forall_mem_cons]
  exact ⟨note, indented, blank, trailing, by simp⟩

theorem layout_immaterial_spread :
    (∃ plan, Plan.ofOptions (sampleOptions "x = cur.val > 1\nsend(out, x.val)") "scope_" = .ok plan ∧
      Plan.ofOptions (sampleOptions "# note\n  x = cur.val > 1\t\n \nsend(out, x.val)  ") "scope_" =
        .ok plan) ∧
      Plan.ofOptions (sampleOptions "x = cur.val > 1\nsend(out)") "scope_" =
        .error (.malformed ⟨2, .sendParts⟩) ∧
      Plan.ofOptions (sampleOptions "# note\n  x = cur.val > 1\t\n \nsend(out)  ") "scope_" =
        .error (.malformed ⟨4, .sendParts⟩) := by
  have moved := fun (first second : String)
      (laid : Text.pieces '\n' second.toList =
        LineEdit.apply spread (Text.pieces '\n' first.toList)) =>
    layout_immaterial (sampleOptions first) (sampleOptions second) "scope_" first second
      (sampleOptions_lookup second first) rfl rfl (Text.pieces '\n' first.toList) spread
      (.pieces _) (laid ▸ .pieces _) spread_harmless
  have accepted := moved "x = cur.val > 1\nsend(out, x.val)"
    "# note\n  x = cur.val > 1\t\n \nsend(out, x.val)  " (by decide +kernel)
  have refused := moved "x = cur.val > 1\nsend(out)"
    "# note\n  x = cur.val > 1\t\n \nsend(out)  " (by decide +kernel)
  have plain : (Plan.ofOptions (sampleOptions "x = cur.val > 1\nsend(out, x.val)")
      "scope_").toOption.isSome = true := by decide +kernel
  have fault : Plan.ofOptions (sampleOptions "x = cur.val > 1\nsend(out)") "scope_" =
      .error (.malformed ⟨2, .sendParts⟩) := by decide +kernel
  obtain ⟨plan, found⟩ := Option.isSome_iff_exists.mp plain
  have success := ok_of_toOption _ _ found
  rw [success] at accepted
  rw [fault] at refused
  exact ⟨⟨plan, success, accepted⟩, fault, refused⟩

end Planner

end Superstep
