import Mathlib.Data.List.Induction
import Superstep.Proofs.Rendering

/-!
# When a list of blocks is no program

Two kinds of block are out of place: the end of a loop where no loop is open, and a select without a
table. As long as none of them is met, the loops that were begun and not ended are open, so the number
of open loops can be read off the blocks passed. The first block out of place decides the error, and a
list without one is a program if and only if it ends every loop that it begins. All of this is about
blocks whose lines can be indented; a line that lies too deep stops the run wherever it is met.
-/

namespace Superstep.Block

/-- A select outside of a union that has no table. -/
def isAnonymous (block : Block) : Bool :=
  match block.action with
  | .select query => query.target.isNone
  | .statement _ | .createTable _ _ | .dropTable _ | .insert _ _ | .union _ | .updateVertex _ _
  | .beginLoop _ _ | .endLoop _ _ => false

/-- The block ends a loop, and the blocks before it end as many loops as they begin. -/
def EndsNoLoop (before : List Block) (block : Block) : Prop :=
  block.closesLoop = true ∧ before.countP (·.closesLoop) = before.countP (·.opensLoop)

/-- No block ends a loop that is not open, and no select outside of a union lacks a table. -/
def InPlace (blocks : List Block) : Prop :=
  ∀ before block later, blocks = before ++ block :: later →
    ¬ EndsNoLoop before block ∧ block.isAnonymous = false

/-- What becomes of a list of blocks: a program, or the error of its first block out of place, or that
of a loop left open. -/
inductive Verdict (blocks : List Block) : Except SqlError String → Prop where
  | written (inPlace : InPlace blocks)
      (closed : blocks.countP (·.opensLoop) = blocks.countP (·.closesLoop)) :
      Verdict blocks (.ok (programText blocks))
  | unclosed (inPlace : InPlace blocks)
      (differ : blocks.countP (·.opensLoop) ≠ blocks.countP (·.closesLoop)) :
      Verdict blocks (.error .unclosedLoop)
  | unbalanced (before : List Block) (block : Block) (later : List Block)
      (split : blocks = before ++ block :: later) (inPlace : InPlace before)
      (ends : EndsNoLoop before block) : Verdict blocks (.error (.unbalancedLoop block.stage))
  | anonymous (before : List Block) (block : Block) (later : List Block)
      (split : blocks = before ++ block :: later) (inPlace : InPlace before)
      (nameless : block.isAnonymous = true) : Verdict blocks (.error (.anonymousSelect block.stage))

/-- A block at the end is judged by all blocks before it. -/
theorem inPlace_snoc_iff (before : List Block) (block : Block) :
    InPlace (before ++ [block]) ↔
      InPlace before ∧ ¬ EndsNoLoop before block ∧ block.isAnonymous = false := by
  constructor
  · intro inPlace
    refine ⟨?_, inPlace before block [] rfl⟩
    intro earlier other later split
    apply inPlace earlier other (later ++ [block])
    rw [split, List.append_assoc, List.cons_append]
  · rintro ⟨inPlace, last⟩ earlier other later split
    rcases List.eq_nil_or_concat later with rfl | ⟨middle, final, rfl⟩
    · obtain ⟨rfl, same⟩ := List.append_inj' split rfl
      rw [← List.singleton_inj.mp same]
      exact last
    · rw [List.concat_eq_append, ← List.cons_append, ← List.append_assoc] at split
      obtain ⟨rfl, _⟩ := List.append_inj' split rfl
      exact inPlace earlier other middle rfl

/-- A block that is not out of place moves the number of open loops as it begins and ends loops. -/
theorem checkFrom_cons (openLoops : Nat) (block : Block) (fits : block.Fits)
    (named : block.isAnonymous = false) (opened : block.closesLoop = true → 0 < openLoops) :
    ∃ remaining, remaining + [block].countP (·.closesLoop) =
        openLoops + [block].countP (·.opensLoop) ∧
      ∀ later, checkFrom openLoops (block :: later) = checkFrom remaining later := by
  obtain ⟨stage, depth, action⟩ := block
  cases action with
  | beginLoop => exact ⟨openLoops + 1, rfl, fun later => checkFrom_cons_opening _ _ later fits rfl⟩
  | endLoop =>
    cases openLoops with
    | zero => exact absurd (opened rfl) (Nat.lt_irrefl 0)
    | succ outer => exact ⟨outer, rfl, fun later => checkFrom_cons_closing _ _ later fits rfl⟩
  | select query =>
    have plain : query.target.isSome = true := by
      rw [← Option.not_isNone]
      exact congrArg (!·) named
    exact ⟨openLoops, rfl, fun later => checkFrom_cons_plain _ _ later fits plain⟩
  | _ => exact ⟨openLoops, rfl, fun later => checkFrom_cons_plain _ _ later fits rfl⟩

/-- Behind blocks that are in place, the loops that were begun and not ended are open. -/
theorem InPlace.checkFrom_append {blocks : List Block} (inPlace : InPlace blocks)
    (fits : ∀ block ∈ blocks, block.Fits) :
    ∃ openLoops, openLoops + blocks.countP (·.closesLoop) = blocks.countP (·.opensLoop) ∧
      ∀ later, checkFrom 0 (blocks ++ later) = checkFrom openLoops later := by
  -- Whether a block is in place depends on all blocks before it, so the list grows at its end.
  induction blocks using List.reverseRecOn with
  | nil => exact ⟨0, rfl, fun later => rfl⟩
  | append_singleton before block ih =>
    obtain ⟨earlier, balanced, named⟩ := (inPlace_snoc_iff before block).mp inPlace
    rw [List.forall_mem_append, List.forall_mem_singleton] at fits
    obtain ⟨openLoops, counted, reached⟩ := ih earlier fits.1
    have opened : block.closesLoop = true → 0 < openLoops := by
      intro closes
      have unequal : before.countP (·.closesLoop) ≠ before.countP (·.opensLoop) :=
        fun same => balanced ⟨closes, same⟩
      omega
    obtain ⟨remaining, moved, goesOn⟩ := checkFrom_cons openLoops block fits.2 named opened
    refine ⟨remaining, ?_, ?_⟩
    · rw [List.countP_append, List.countP_append]
      omega
    · intro later
      rw [List.append_assoc, reached, List.singleton_append, goesOn]

/-- With all blocks in place, only a loop that is not closed can keep the list from being a program. -/
theorem InPlace.program_eq {blocks : List Block} (inPlace : InPlace blocks)
    (fits : ∀ block ∈ blocks, block.Fits) :
    program blocks =
      if blocks.countP (·.opensLoop) = blocks.countP (·.closesLoop) then .ok (programText blocks)
      else .error .unclosedLoop := by
  obtain ⟨openLoops, counted, reached⟩ := inPlace.checkFrom_append fits
  have checked := reached []
  rw [List.append_nil] at checked
  rw [program, checked]
  cases openLoops with
  | zero =>
    rw [Nat.zero_add] at counted
    rw [if_pos counted.symm]
    rfl
  | succ outer =>
    rw [if_neg (by omega)]
    rfl

/-- A select without a table is told wherever it can be indented, inside of loops or outside. -/
theorem checkFrom_anonymous (openLoops : Nat) (block : Block) (later : List Block)
    (fits : block.Fits) (nameless : block.isAnonymous = true) :
    checkFrom openLoops (block :: later) = .error (.anonymousSelect block.stage) := by
  obtain ⟨stage, depth, action⟩ := block
  have own : ¬ SqlLine.maxLevel < depth + 1 := Nat.not_lt.mpr fits.own
  cases action with
  | select query =>
    have none : query.target.isNone = true := nameless
    cases openLoops <;> simp [checkFrom, own, none]
  | _ => cases nameless

theorem checkFrom_unbalanced (block : Block) (later : List Block) (fits : block.Fits)
    (closes : block.closesLoop = true) :
    checkFrom 0 (block :: later) = .error (.unbalancedLoop block.stage) := by
  obtain ⟨stage, depth, action⟩ := block
  have own : ¬ SqlLine.maxLevel < depth + 1 := Nat.not_lt.mpr fits.own
  cases action with
  | endLoop => simp only [checkFrom, if_neg own]
  | _ => cases closes

/-- The verdict is what is returned. -/
theorem Verdict.program_eq {blocks : List Block} {outcome : Except SqlError String}
    (verdict : Verdict blocks outcome) (fits : ∀ block ∈ blocks, block.Fits) :
    program blocks = outcome := by
  cases verdict with
  | written inPlace closed => rw [inPlace.program_eq fits, if_pos closed]
  | unclosed inPlace differ => rw [inPlace.program_eq fits, if_neg differ]
  | unbalanced before block later split inPlace ends =>
    rw [split, List.forall_mem_append, List.forall_mem_cons] at fits
    obtain ⟨openLoops, counted, reached⟩ := inPlace.checkFrom_append fits.1
    obtain ⟨closes, equal⟩ := ends
    have none : openLoops = 0 := by omega
    rw [program, split, reached, none, checkFrom_unbalanced block later fits.2.1 closes]
    rfl
  | anonymous before block later split inPlace nameless =>
    rw [split, List.forall_mem_append, List.forall_mem_cons] at fits
    obtain ⟨openLoops, _, reached⟩ := inPlace.checkFrom_append fits.1
    rw [program, split, reached, checkFrom_anonymous openLoops block later fits.2.1 nameless]
    rfl

/-- One level deeper there is no error to report, and no program either. -/
example : program [⟨"begin", SqlLine.maxLevel - 2, .beginLoop 1 "flag > 0"⟩,
    ⟨"end", SqlLine.maxLevel - 1, .endLoop .noMessage "message"⟩] = .error .tooDeep := rfl

/-- The select stands first, so the end of a loop behind it is not told. -/
example : program [⟨"pick", 0, .select ⟨["a.id"], none, ["a"], "", false, none⟩⟩,
    ⟨"stop", 0, .endLoop .noMessage "message"⟩] = .error (.anonymousSelect "pick") := rfl

end Superstep.Block
