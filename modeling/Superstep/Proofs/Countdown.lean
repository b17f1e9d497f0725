import Superstep.Proofs.Execution
import Superstep.Proofs.Json.CompactText
import Superstep.Proofs.Rendering

/-!
# How often a countdown loop runs

The number of supersteps is read from a text with a sign, becomes the start of the loop variable, and is
read again when the declaration of the program is executed. What is executed are the texts that the
blocks give, one after the other; a text of several lines is one step, whatever it says behind its first
line. All other texts leave the loop and its variable alone. So a loop that counts down from a natural number runs that often, and one that
counts down from a negative number never ends.
-/

namespace Superstep

namespace Text

theorem digitsValue_toDigits (n : Nat) : digitsValue (Nat.toDigits 10 n) = n :=
  Nat.ofDigitChars_ten_toDigits

section Digits

variable (digits : List Char) (filled : digits ≠ []) (held : ∀ c ∈ digits, c.isDigit = true)

include filled held

theorem int64?_minus : int64? ('-' :: digits) =
    if fitsSigned64 (-(digitsValue digits)) then some (-(digitsValue digits : Int))
    else none := by
  have all : digits.all Char.isDigit = true := List.all_eq_true.mpr held
  simp [int64?, filled, all]

/-- Digits without a sign are read as their value, as long as it fits. -/
theorem int64?_digits : int64? digits =
    if fitsSigned64 (digitsValue digits) then some (digitsValue digits : Int) else none := by
  have all : digits.all Char.isDigit = true := List.all_eq_true.mpr held
  obtain ⟨c, cs, rfl⟩ := List.exists_cons_of_ne_nil filled
  have noMinus : c ≠ '-' := by
    rintro rfl
    exact absurd (held '-' List.mem_cons_self) (by decide)
  have noPlus : c ≠ '+' := by
    rintro rfl
    exact absurd (held '+' List.mem_cons_self) (by decide)
  unfold int64?
  split
  rename_i negative rest parts
  split at parts
  · rename_i same
    exact absurd (List.cons.inj same).1 noMinus
  · rename_i same
    exact absurd (List.cons.inj same).1 noPlus
  · cases parts
    rw [all]
    rfl

end Digits

/-- A number that is written out is read back. -/
theorem int64?_toString (n : Int) (fits : fitsSigned64 n = true) :
    int64? (toString n).toList = some n := by
  have decimal (m : Nat) : ∀ c ∈ Nat.toDigits 10 m, c.isDigit = true :=
    fun c => Nat.isDigit_of_mem_toDigits (by decide) (by decide)
  cases n with
  | ofNat m =>
    have spelled : (toString (Int.ofNat m)).toList = Nat.toDigits 10 m := Json.intText_ofNat m
    rw [spelled, int64?_digits _ Nat.toDigits_ne_nil (decimal m), digitsValue_toDigits]
    exact if_pos fits
  | negSucc m =>
    have spelled : (toString (Int.negSucc m)).toList = '-' :: Nat.toDigits 10 (m + 1) :=
      Json.intText_negSucc m
    rw [spelled, int64?_minus _ Nat.toDigits_ne_nil (decimal (m + 1)), digitsValue_toDigits]
    exact if_pos fits

/-- Whatever is read fits in sixty-four bits. -/
theorem int64?_fits {text : List Char} {n : Int} (read : int64? text = some n) :
    fitsSigned64 n = true := by
  unfold int64? at read
  split at read
  rename_i negative digits _
  dsimp only at read
  generalize (if negative = true then -(digitsValue digits : Int) else digitsValue digits) = value
    at read
  split at read
  · cases read
  · cases fits : fitsSigned64 value with
    | false =>
      rw [fits] at read
      cases read
    | true =>
      rw [fits, if_pos rfl] at read
      rw [← Option.some.inj read, fits]

end Text

/-- A countdown that is accepted starts from a number of sixty-four bits. -/
theorem Algorithm.loopEnd_fits {described : Algorithm} {label : String} {supersteps : Int}
    (ends : described.loopEnd = .ok (.countdown label supersteps)) :
    fitsSigned64 supersteps = true := by
  unfold Algorithm.loopEnd at ends
  dsimp only at ends
  split at ends
  · cases ends
  · split at ends
    · cases ends
    · split at ends
      · cases ends
      · split at ends
        · cases ends
        · rename_i read
          cases ends
          exact Text.int64?_fits read

namespace LoopLine

/-- The texts that lines with a part in loops have or start with. -/
def loopTexts : List String :=
  ["WHILE flag != 0 LOOP", "END LOOP;", "flag := flag - 1;", "SELECT COUNT(*) INTO flag FROM "]

/-- How the other lines of a program start. -/
def otherStarts : List String :=
  ["CREATE TABLE ", "DROP TABLE IF EXISTS ", "INSERT INTO ", "UPDATE ", "SELECT edge.", "UNION",
    ") AS combined;"]

/-- A line that starts like one of the other lines has no part in a loop. -/
theorem ofText_of_start {text start : String} (known : start ∈ otherStarts)
    (begins : start.toList <+: text.toList) : ofText text = .other := by
  have apart : ∀ other ∈ otherStarts, ∀ word ∈ loopTexts,
      ¬ other.toList <+: word.toList ∧ ¬ word.toList <+: other.toList := by decide
  have differs : ∀ word ∈ loopTexts, text ≠ word := by
    rintro word member rfl
    exact (apart start known text member).1 begins
  -- Of two starts of one text, one is a start of the other.
  have noCount : ¬ "SELECT COUNT(*) INTO flag FROM ".toList <+: text.toList := by
    intro counts
    have both := apart start known "SELECT COUNT(*) INTO flag FROM " (by decide)
    rcases List.prefix_or_prefix_of_prefix begins counts with shorter | longer
    · exact both.1 shorter
    · exact both.2 longer
  rw [ofText, if_neg (differs _ (by decide)), if_neg (differs _ (by decide)),
    if_neg (differs _ (by decide)), if_neg noCount]

end LoopLine

namespace Execution

def startFlag? (declaration : String) : Option Int := do
  let number ← "flag integer := ".toList.isPrefixOf? declaration.toList
  let (digits, _) ← Text.cutFirst ';' number
  Text.int64? digits

/-- The execution of a list of blocks before its first line. The loop variable has to be declared. -/
def ofBlocks? (blocks : List Block) : Option Execution :=
  match Block.declarations blocks with
  | [declaration] =>
    (startFlag? declaration).map fun flag =>
      { rest := (blocks.flatMap Block.sqlLines).map (·.text), flag }
  | _ => none

/-- The blocks can be executed, each of their texts as one step, and whatever rows are counted on the
way, the execution ends after `supersteps` iterations and in no other way. With a negative number it
never ends. -/
def RunsFor (blocks : List Block) (supersteps : Int) : Prop :=
  ∃ start, ofBlocks? blocks = some start ∧ ∀ (rows : Nat → Nat) (iterations : Nat),
    start.EndsAfter rows iterations ↔ (iterations : Int) = supersteps

/-- The value that is written into the declaration is the value that is read from it. -/
theorem startFlag?_declared (n : Int) (fits : fitsSigned64 n = true) :
    startFlag? (Block.loopFlag ++ " integer := " ++ toString n ++ ";") = some n := by
  have noEnd : ';' ∉ (toString n).toList := by
    intro member
    exact absurd (Json.isNumberChar_intText n ';' member) (by decide)
  have behind : "flag integer := ".toList.isPrefixOf?
      (Block.loopFlag ++ " integer := " ++ toString n ++ ";").toList =
        some ((toString n).toList ++ ';' :: []) := by
    rw [List.isPrefixOf?_eq_some_iff_append_eq]
    simp [Block.loopFlag]
  rw [startFlag?, behind]
  simp only [Option.bind_eq_bind, Option.bind_some, Text.cutFirst_append _ _ noEnd]
  exact Text.int64?_toString n fits

end Execution

namespace Block

/-- The block declares no variable, and none of its lines has a part in loops. -/
def LeavesLoop (block : Block) : Prop :=
  block.declaration? = none ∧ Execution.Quiet (block.sqlLines.map (·.text))

theorem leavesLoop_of_starts (block : Block) (undeclared : block.declaration? = none)
    (starts : ∀ line ∈ block.sqlLines, ∃ start ∈ LoopLine.otherStarts,
      start.toList <+: line.text.toList) : block.LeavesLoop := by
  refine ⟨undeclared, ?_⟩
  intro text member
  obtain ⟨line, written, rfl⟩ := List.mem_map.mp member
  obtain ⟨start, known, begins⟩ := starts line written
  exact LoopLine.ofText_of_start known begins

/-- Whether a block creates, fills, changes or drops one table, without a union. -/
def isTabular (block : Block) : Bool :=
  match block.action with
  | .createTable _ _ | .dropTable _ | .insert _ _ | .updateVertex _ _ => true
  | .select query => query.target.isSome
  | .statement _ | .union _ | .beginLoop _ _ | .endLoop _ _ => false

theorem leavesLoop_of_isTabular (block : Block) (tabular : block.isTabular = true) :
    block.LeavesLoop := by
  obtain ⟨stage, depth, action⟩ := block
  cases action with
  | createTable | dropTable | insert | updateVertex =>
    refine leavesLoop_of_starts _ rfl ?_
    simp [sqlLines, LoopLine.otherStarts]
  | select query =>
    obtain ⟨target, named⟩ := Option.isSome_iff_exists.mp tabular
    refine leavesLoop_of_starts _ rfl ?_
    simp [sqlLines, named, LoopLine.otherStarts]
  | statement | union | beginLoop | endLoop => cases tabular

theorem quiet_of_leavesLoop {blocks : List Block} (leave : ∀ block ∈ blocks, block.LeavesLoop) :
    Execution.Quiet ((blocks.flatMap sqlLines).map (·.text)) := by
  intro text member
  obtain ⟨line, written, rfl⟩ := List.mem_map.mp member
  obtain ⟨block, held, written⟩ := List.mem_flatMap.mp written
  exact (leave block held).2 _ (List.mem_map_of_mem written)

theorem filterMap_declaration? {blocks : List Block}
    (leave : ∀ block ∈ blocks, block.LeavesLoop) : blocks.filterMap declaration? = [] :=
  List.filterMap_eq_nil_iff.mpr fun block member => (leave block member).1

end Block

namespace Planner

open Block Execution

section Loop

variable {before body : List Block} (label : String) {supersteps : Int}
  (fits : fitsSigned64 supersteps = true) (quietBefore : ∀ block ∈ before, block.LeavesLoop)
  (quietBody : ∀ block ∈ body, block.LeavesLoop)

include fits quietBefore quietBody

/-- The declared variable starts at the number of supersteps, and the lines are those of a loop that
counts down. -/
theorem ofBlocks?_countdown :
    ofBlocks? (before ++ loopStart (.countdown label supersteps) ::
        (body ++ [loopClose (.countdown label supersteps)])) =
      some {
        rest := (before.flatMap sqlLines).map (·.text) ++
          countdownLoop ((body.flatMap sqlLines).map (·.text))
        flag := supersteps } := by
  have declared : declarations (before ++ loopStart (.countdown label supersteps) ::
      (body ++ [loopClose (.countdown label supersteps)])) =
        [loopFlag ++ " integer := " ++ toString supersteps ++ ";"] := by
    have opens : (loopStart (.countdown label supersteps)).declaration? =
        some (loopFlag ++ " integer := " ++ toString supersteps ++ ";") := rfl
    rw [declarations, List.filterMap_append, filterMap_declaration? quietBefore, List.nil_append,
      List.filterMap_cons_some opens, List.filterMap_append, filterMap_declaration? quietBody]
    rfl
  have opened : (loopStart (.countdown label supersteps)).sqlLines.map (·.text) =
      ["WHILE flag != 0 LOOP"] := rfl
  have closed : (loopClose (.countdown label supersteps)).sqlLines.map (·.text) =
      ["flag := flag - 1;", "END LOOP;"] := rfl
  simp only [ofBlocks?, declared, startFlag?_declared supersteps fits, Option.map_some,
    List.flatMap_append, List.flatMap_cons, List.flatMap_nil, List.append_nil, List.map_append,
    opened, closed, countdownLoop, List.singleton_append]

theorem countdown_runsFor :
    RunsFor (before ++ loopStart (.countdown label supersteps) ::
      (body ++ [loopClose (.countdown label supersteps)])) supersteps :=
  ⟨_, ofBlocks?_countdown label fits quietBefore quietBody, fun rows iterations =>
    countdown_endsAfter_iff rows (quiet_of_leavesLoop quietBody) (quiet_of_leavesLoop quietBefore)
      supersteps iterations⟩

end Loop

theorem Sending.select_starts (sending : Sending) (recipient sender : String)
    (target : Option String) :
    "SELECT edge.".toList <+: (sending.select recipient sender target).sql.toList := by
  have columns (one other : String) : commaList [one, other] = one ++ ", " ++ other := by
    rw [commaList, String.intercalate_cons_of_ne_nil (by simp), String.intercalate_singleton]
  simp [Select.sql, Sending.select, columns, Table.edge]

/-- A send to both sides becomes a union, whose sides are selects on the edges. -/
theorem leavesLoop_both (sending : Sending) (listing : Listing) (stage : String) (depth : Nat)
    (action : Action) (acts : sending.action? listing .both = some action) :
    (⟨stage, depth, action⟩ : Block).LeavesLoop := by
  cases acts
  refine leavesLoop_of_starts _ rfl ?_
  have incoming := sending.select_starts "src" "dest" none
  have outgoing := sending.select_starts "dest" "src" none
  simp only [sqlLines, Listing.subSelect, List.forall_mem_cons, List.not_mem_nil, false_implies,
    implies_true, and_true]
  refine ⟨⟨"CREATE TABLE ", by decide, by simp⟩, ⟨"SELECT edge.", by decide, incoming⟩,
    ⟨"UNION", by decide, by decide⟩, ⟨"SELECT edge.", by decide, outgoing⟩,
    ⟨") AS combined;", by decide, List.prefix_refl _⟩⟩

/-- No statement becomes a block that touches the loop or its variable. -/
theorem Step.leavesLoop {state after : PlanState} {planned : Statement} {added : List Block}
    (step : Step state planned added after) (block : Block) (member : block ∈ added) :
    block.LeavesLoop := by
  cases step with
  | openOuter | close => cases member
  | openInner | setValue | assign =>
    obtain rfl := List.mem_singleton.mp member
    exact leavesLoop_of_isTabular _ rfl
  | send direction content way scanned =>
    obtain ⟨action, acts, rfl⟩ := Option.map_eq_some_iff.mp (Option.mem_toList.mp member)
    cases way with
    | none => cases acts
    | incoming | outgoing =>
      cases acts
      exact leavesLoop_of_isTabular _ rfl
    | both => exact leavesLoop_both _ _ _ _ action acts

theorem Steps.leavesLoop {state after : PlanState} {planned : List Statement} {added : List Block}
    (run : Steps state planned added after) (block : Block) (member : block ∈ added) :
    block.LeavesLoop := by
  induction run with
  | done => cases member
  | step now _ ih =>
    rcases List.mem_append.mp member with early | late
    · exact now.leavesLoop block early
    · exact ih late

theorem initBlocks_leaveLoop (described : Algorithm) (message : FirstMessage) (block : Block)
    (member : block ∈ initBlocks described message) : block.LeavesLoop := by
  have tabular : ∀ other ∈ initBlocks described message, other.isTabular = true :=
    forall_mem_initBlocks (by simp [firstBlocks, isTabular]) rfl fun _ => rfl
  exact leavesLoop_of_isTabular block (tabular block member)

namespace Derivation

variable {options : List (String × String)} {stem : String} {plan : Plan}
  (derived : Derivation options stem plan)

theorem body_leavesLoop (block : Block) (member : block ∈ derived.body) :
    block.LeavesLoop := by
  simp only [body, List.mem_cons, List.mem_append, List.mem_map] at member
  rcases member with rfl | rfl | statement | ⟨table, _, rfl⟩
  · exact leavesLoop_of_isTabular _ rfl
  · exact leavesLoop_of_isTabular _ rfl
  · exact derived.run.leavesLoop block statement
  · exact leavesLoop_of_isTabular _ rfl

include derived

theorem runsFor {described : Algorithm} {label : String} {supersteps : Int}
    (describes : Algorithm.ofOptions options = .ok described)
    (ends : described.loopEnd = .ok (.countdown label supersteps)) :
    RunsFor plan.blocks supersteps := by
  have same : derived.described = described :=
    Except.ok.inj (derived.describes.symm.trans describes)
  have counts : derived.loopEnd = .countdown label supersteps :=
    Except.ok.inj (derived.ends.symm.trans (same ▸ ends))
  rw [derived.blocks_eq, counts]
  exact countdown_runsFor label (Algorithm.loopEnd_fits ends) (initBlocks_leaveLoop _ _)
    derived.body_leavesLoop

end Derivation

/-- If the end of the loop is read as a countdown, then the loop that is written for it ends after
exactly that number of iterations, and not at all if the number is negative. This holds around and
behind all blocks that leave the loop alone, and of the blocks of every plan. A text of several lines
counts as one step, so what an expression may hide behind a line end is not covered. -/
theorem countdown_runs_exactly (described : Algorithm) (label : String) (supersteps : Int)
    (ends : described.loopEnd = .ok (.countdown label supersteps)) :
    (∀ before body : List Block, (∀ block ∈ before ++ body, block.LeavesLoop) →
      RunsFor (before ++ loopStart (.countdown label supersteps) ::
        (body ++ [loopClose (.countdown label supersteps)])) supersteps) ∧
    ∀ (options : List (String × String)) (stem : String) (plan : Plan),
      Algorithm.ofOptions options = .ok described → Plan.ofOptions options stem = .ok plan →
        plan.sql = .ok (programText plan.blocks) ∧ RunsFor plan.blocks supersteps := by
  constructor
  · intro before body leave
    rw [List.forall_mem_append] at leave
    exact countdown_runsFor label (Algorithm.loopEnd_fits ends) leave.1 leave.2
  · intro options stem plan describes success
    obtain ⟨derived⟩ := (ofOptions_ok_iff options stem plan).mp success
    exact ⟨derived.program_ok, derived.runsFor describes ends⟩

/-- An algorithm whose loop is a countdown from the number that a text gives. -/
def countingFrom (count : String) : Algorithm where
  finish := "MAX_SUPERSTEPS(flag, " ++ count ++ ")"
  firstValue := "0"
  firstMessage := "1, 0"
  messageType := "int"
  vertexType := none
  combine := "MIN(message)"
  update := "send(out, getVal())"

/-- The options of `countingFrom`. -/
def countingOptions (count : String) : List (String × String) :=
  [("End", "MAX_SUPERSTEPS(flag, " ++ count ++ ")"), ("InitiateVal", "0"),
    ("InitialMessage", "1, 0"), ("MessageValType", "int"), ("CombineMessage", "MIN(message)"),
    ("UpdateAndSend", "send(out, getVal())")]

theorem ofOptions_countingOptions (count : String) :
    Algorithm.ofOptions (countingOptions count) = .ok (countingFrom count) := rfl

/-- A sign does no harm: the loop runs twice, alone around a block and in a plan. -/
theorem countdown_runs_exactly_twice :
    (countingFrom "+2").loopEnd = .ok (.countdown "MAX_SUPERSTEPS" 2) ∧
    RunsFor [loopStart (.countdown "MAX_SUPERSTEPS" 2), dropBlock Table.message,
      loopClose (.countdown "MAX_SUPERSTEPS" 2)] 2 ∧
    ∃ plan, Plan.ofOptions (countingOptions "+2") "scope_" = .ok plan ∧
      plan.sql = .ok (programText plan.blocks) ∧ RunsFor plan.blocks 2 := by
  have ends : (countingFrom "+2").loopEnd = .ok (.countdown "MAX_SUPERSTEPS" 2) :=
    ok_of_toOption _ _ (by decide +kernel)
  have planned : (Plan.ofOptions (countingOptions "+2") "scope_").toOption.isSome = true := by
    decide +kernel
  obtain ⟨plan, success⟩ := Option.isSome_iff_exists.mp planned
  have made := ok_of_toOption _ _ success
  obtain ⟨alone, inPlan⟩ := countdown_runs_exactly (countingFrom "+2") "MAX_SUPERSTEPS" 2 ends
  refine ⟨ends, alone [] [dropBlock Table.message] ?_, plan, made,
    inPlan _ _ plan (ofOptions_countingOptions "+2") made⟩
  intro block member
  obtain rfl := List.mem_singleton.mp member
  exact leavesLoop_of_isTabular _ rfl

/-- A countdown from minus one is accepted and planned, and its loop never ends. -/
theorem countdown_never_ends :
    (countingFrom "-1").loopEnd = .ok (.countdown "MAX_SUPERSTEPS" (-1)) ∧
    ∃ plan start, Plan.ofOptions (countingOptions "-1") "scope_" = .ok plan ∧
      ofBlocks? plan.blocks = some start ∧
      ∀ (rows : Nat → Nat) (iterations : Nat), ¬ start.EndsAfter rows iterations := by
  have ends : (countingFrom "-1").loopEnd = .ok (.countdown "MAX_SUPERSTEPS" (-1)) :=
    ok_of_toOption _ _ (by decide +kernel)
  have planned : (Plan.ofOptions (countingOptions "-1") "scope_").toOption.isSome = true := by
    decide +kernel
  obtain ⟨plan, success⟩ := Option.isSome_iff_exists.mp planned
  have made := ok_of_toOption _ _ success
  obtain ⟨derived⟩ := (ofOptions_ok_iff _ _ plan).mp made
  obtain ⟨start, begins, exactly⟩ := derived.runsFor (ofOptions_countingOptions "-1") ends
  refine ⟨ends, plan, start, made, begins, ?_⟩
  intro rows iterations ended
  have negative := (exactly rows iterations).mp ended
  omega

end Planner

end Superstep
