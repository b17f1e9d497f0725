import Mathlib.Data.Finset.Card
import Superstep.Proofs.Indentation
import Superstep.Proofs.Json.CompactText

/-!
# How often the loop variable is declared

A block that begins a loop asks for a declaration of the loop variable with the value that the loop
starts from, and a declaration that is asked for again is not written again. All loops have one
variable, but declarations are told apart by their texts. So the variable is declared once for each
value that some loop starts from: twice if two loops start from different values, and once in a plan,
which has one loop.
-/

namespace Superstep

namespace Block

open Text

/-- The value that a block starts the loop variable from, if it begins a loop. -/
def flagStart? (block : Block) : Option Int :=
  match block.action with
  | .beginLoop flagStart _ => some flagStart
  | .statement _ | .createTable _ _ | .dropTable _ | .insert _ _ | .select _ | .union _
  | .updateVertex _ _ | .endLoop _ _ => none

def flagDeclaration (start : Int) : String := loopFlag ++ " integer := " ++ toString start ++ ";"

/-- The lines of a program between `DECLARE`, if that is the second line, and `BEGIN`. -/
def declareSection (text : String) : List (List Char) :=
  let lines := (pieces '\n' text.toList).tail
  if lines.head? = some "DECLARE".toList then lines.tail.takeWhile (· ≠ "BEGIN".toList) else []

/-- The variable that a line declares: the name behind its spaces. -/
def declaredName (line : List Char) : List Char :=
  (line.dropWhile (· = ' ')).takeWhile isNameChar

def flagDeclarations (text : String) : Nat :=
  (declareSection text).countP fun line => declaredName line = loopFlag.toList

theorem declaration?_eq (block : Block) :
    block.declaration? = block.flagStart?.map flagDeclaration := by
  obtain ⟨stage, depth, action⟩ := block
  cases action <;> rfl

theorem isSome_flagStart? (block : Block) : block.flagStart?.isSome = block.opensLoop := by
  obtain ⟨stage, depth, action⟩ := block
  cases action <;> rfl

theorem filterMap_flagStart?_ne_nil_iff (blocks : List Block) :
    blocks.filterMap flagStart? ≠ [] ↔ ∃ block ∈ blocks, block.opensLoop = true := by
  simp [List.filterMap_eq_nil_iff, ← isSome_flagStart?, Option.isSome_iff_ne_none]

theorem filterMap_flagStart?_of_isPlain (blocks : List Block)
    (plain : ∀ block ∈ blocks, block.isPlain = true) : blocks.filterMap flagStart? = [] := by
  by_contra some
  obtain ⟨block, member, opens⟩ := (filterMap_flagStart?_ne_nil_iff blocks).mp some
  rw [opensLoop_of_isPlain block (plain block member)] at opens
  cases opens

theorem flagDeclaration_injective : Function.Injective flagDeclaration := by
  intro one other same
  have ended : loopFlag ++ " integer := " ++ toString one =
      loopFlag ++ " integer := " ++ toString other := (String.append_left_inj ";").mp same
  have numbers : toString one = toString other := (String.append_right_inj _).mp ended
  exact Json.intText_injective one other (congrArg String.toList numbers)

theorem toList_flagDeclaration (start : Int) :
    (flagDeclaration start).toList =
      loopFlag.toList ++ ' ' :: ("integer := ".toList ++ (Json.intText start ++ [';'])) := by
  simp [flagDeclaration, Json.intText, loopFlag]

/-- A declaration is one line. -/
theorem newline_not_mem_flagDeclaration (start : Int) : '\n' ∉ (flagDeclaration start).toList := by
  have noNumber : '\n' ∉ Json.intText start := fun member =>
    absurd (Json.isNumberChar_intText start '\n' member) (by decide)
  simp [toList_flagDeclaration, loopFlag, noNumber]

/-- The declarations that are asked for are those of the values that loops start from. -/
theorem mem_declarations_iff (blocks : List Block) (declaration : String) :
    declaration ∈ declarations blocks ↔
      ∃ start ∈ blocks.filterMap flagStart?, flagDeclaration start = declaration := by
  have asked : blocks.filterMap declaration? = (blocks.filterMap flagStart?).map flagDeclaration := by
    rw [List.map_filterMap]
    exact congrArg (List.filterMap · blocks) (funext declaration?_eq)
  rw [declarations, List.mem_eraseDups, asked, List.mem_map]

/-- Values in the order of their first use do not repeat. -/
theorem nodup_eraseDups (items : List String) : items.eraseDups.Nodup := by
  cases items with
  | nil => exact List.nodup_nil
  | cons first others =>
    rw [List.eraseDups_cons, List.nodup_cons, List.mem_eraseDups, List.mem_filter]
    have shorter := List.length_filter_le (fun other => !other == first) others
    exact ⟨by simp, nodup_eraseDups _⟩
termination_by items.length

/-- As many declarations are written as there are different values that loops start from. -/
theorem length_declarations (blocks : List Block) :
    (declarations blocks).length = (blocks.filterMap flagStart?).toFinset.card := by
  have same : (declarations blocks).toFinset =
      (blocks.filterMap flagStart?).toFinset.image flagDeclaration := by
    ext declaration
    simp only [List.mem_toFinset, mem_declarations_iff, Finset.mem_image]
  have once : (declarations blocks).Nodup := nodup_eraseDups _
  rw [← List.toFinset_card_of_nodup once, same,
    Finset.card_image_of_injective _ flagDeclaration_injective]

def declarationLine (declaration : String) : List Char :=
  List.replicate 4 ' ' ++ declaration.toList

/-- Every declaration stands on a line of its own, and the rest of the text starts behind them. -/
theorem pieces_declarations (declared : List String) (rest : List Char)
    (oneLine : ∀ declaration ∈ declared, '\n' ∉ declaration.toList) :
    pieces '\n' ((String.join (declared.map fun text => SqlLine.written ⟨1, text⟩)).toList ++ rest) =
      declared.map declarationLine ++ pieces '\n' rest := by
  induction declared with
  | nil => rfl
  | cons first others ih =>
    rw [List.forall_mem_cons] at oneLine
    have line : '\n' ∉ declarationLine first := by
      simp [declarationLine, oneLine.1]
    have spelled : (SqlLine.written ⟨1, first⟩).toList = declarationLine first ++ ['\n'] := by
      simp [SqlLine.written, declarationLine, List.replicate]
    rw [List.map_cons, String.join_cons, String.toList_append, spelled, List.append_assoc,
      List.append_assoc, List.singleton_append, pieces_append _ _ line, ih oneLine.2, List.map_cons,
      List.cons_append]

theorem exists_start {blocks : List Block} {declaration : String}
    (member : declaration ∈ declarations blocks) : ∃ start, flagDeclaration start = declaration := by
  obtain ⟨start, _, same⟩ := (mem_declarations_iff blocks declaration).mp member
  exact ⟨start, same⟩

/-- The declarations can be read off the program, whatever the lines of its blocks say. -/
theorem declareSection_programText (blocks : List Block) :
    declareSection (programText blocks) = (declarations blocks).map declarationLine := by
  have oneLine : ∀ declaration ∈ declarations blocks, '\n' ∉ declaration.toList := by
    intro declaration member
    obtain ⟨start, rfl⟩ := exists_start member
    exact newline_not_mem_flagDeclaration start
  have inside : ∀ line ∈ (declarations blocks).map declarationLine,
      decide (line ≠ "BEGIN".toList) = true := by
    intro line member
    obtain ⟨declaration, _, rfl⟩ := List.mem_map.mp member
    simp [declarationLine]
  rw [declareSection, toList_programText, pieces_append_mark]
  generalize pieces '\n' (_ ++ "END $$;\n".toList) = behind
  cases declared : declarations blocks with
  | nil => rfl
  | cons first others =>
    rw [declared] at oneLine inside
    have head : (heading (first :: others)).toList =
        "DO $$".toList ++ '\n' :: ("DECLARE".toList ++ '\n' ::
          ((String.join ((first :: others).map fun text => SqlLine.written ⟨1, text⟩)).toList ++
            "BEGIN".toList)) := by
      simp [heading]
    have begins : pieces '\n' "BEGIN".toList = ["BEGIN".toList] := rfl
    rw [head, pieces_append _ _ (by decide), pieces_append _ _ (by decide),
      pieces_declarations _ _ oneLine, begins]
    simp only [List.cons_append, List.tail_cons, List.head?_cons, if_true, List.append_assoc]
    rw [List.takeWhile_append_of_pos inside,
      List.takeWhile_cons_of_neg (by simp), List.append_nil]

theorem declaredName_declarationLine (start : Int) :
    declaredName (declarationLine (flagDeclaration start)) = loopFlag.toList := by
  rw [declarationLine, toList_flagDeclaration]
  rfl

/-- The loop variable is declared once for each value that a loop starts from. -/
theorem flagDeclarations_programText (blocks : List Block) :
    flagDeclarations (programText blocks) = (blocks.filterMap flagStart?).toFinset.card := by
  have all : ∀ line ∈ (declarations blocks).map declarationLine,
      decide (declaredName line = loopFlag.toList) = true := by
    intro line member
    obtain ⟨declaration, held, rfl⟩ := List.mem_map.mp member
    obtain ⟨start, rfl⟩ := exists_start held
    exact decide_eq_true (declaredName_declarationLine start)
  rw [flagDeclarations, declareSection_programText, List.countP_eq_length.mpr all, List.length_map,
    length_declarations]

/-- The loop variable is declared once for each value that loops start from. So it is declared if there
is a loop, and at most once if and only if all loops start from one value. -/
theorem flag_declared_per_start (blocks : List Block) (text : String)
    (written : program blocks = .ok text) :
    flagDeclarations text = (blocks.filterMap flagStart?).toFinset.card ∧
    (0 < flagDeclarations text ↔ ∃ block ∈ blocks, block.opensLoop = true) ∧
    (flagDeclarations text ≤ 1 ↔
      ∀ one ∈ blocks.filterMap flagStart?, ∀ other ∈ blocks.filterMap flagStart?, one = other) := by
  obtain ⟨_, rfl⟩ := (program_ok_iff blocks text).mp written
  rw [flagDeclarations_programText]
  refine ⟨rfl, ?_, ?_⟩
  · rw [Finset.card_pos, List.toFinset_nonempty_iff, filterMap_flagStart?_ne_nil_iff]
  · simp only [Finset.card_le_one, List.mem_toFinset]

def loopFrom (start : Int) (inside : List Block) : List Block :=
  ⟨"beginWhile", 0, .beginLoop start "flag != 0"⟩ ::
    (inside ++ [⟨"endWhile", 0, .endLoop .noMessage Table.message⟩])

/-- Of two loops that start from one value, the inner one needs no declaration of its own. -/
theorem flag_declared_per_start_nested :
    ∃ text, program (loopFrom 5 (loopFrom 5 [])) = .ok text ∧ flagDeclarations text = 1 := by
  refine ⟨_, rfl, ?_⟩
  exact (flag_declared_per_start (loopFrom 5 (loopFrom 5 [])) _ rfl).1

/-- Of two loops one after the other, each has a declaration of the one variable. -/
theorem flag_declared_twice :
    ∃ text, program (loopFrom 1 [] ++ loopFrom 2 []) = .ok text ∧ flagDeclarations text = 2 := by
  refine ⟨_, rfl, ?_⟩
  rw [flagDeclarations_programText]
  rfl

end Block

namespace Planner

open Block

/-- A plan has one loop, so its program declares the loop variable once. -/
theorem plan_declares_flag_once (options : List (String × String)) (stem : String) (plan : Plan)
    (success : Plan.ofOptions options stem = .ok plan) :
    ∃ text, plan.sql = .ok text ∧ flagDeclarations text = 1 := by
  obtain ⟨derived⟩ := (ofOptions_ok_iff options stem plan).mp success
  have before : (initBlocks derived.described derived.message).filterMap flagStart? = [] :=
    filterMap_flagStart?_of_isPlain _ fun block member => (initBlocks_lie_at _ _ block member).1
  have inside : derived.body.filterMap flagStart? = [] :=
    filterMap_flagStart?_of_isPlain _ fun block member => (derived.body_lies_at block member).1
  have opening : (loopStart derived.loopEnd).flagStart? = some derived.loopEnd.flagStart := rfl
  have closing : (loopClose derived.loopEnd).flagStart? = none := rfl
  refine ⟨_, derived.program_ok, ?_⟩
  rw [flagDeclarations_programText, derived.blocks_eq, List.filterMap_append, before,
    List.nil_append, List.filterMap_cons_some opening, List.filterMap_append, inside,
    List.nil_append, List.filterMap_cons_none closing]
  rfl

end Planner

end Superstep
