import Superstep.Proofs.Planner.Layout

/-!
# Every plan can be written as a program

A list of blocks is a program if its loops are bracketed and every select outside of a union has a
table, and no line lies too deep. Statements become blocks that do not touch the bracketing and that lie
at the depth of the loop; a select without a table is a side of a union, and lies one deeper. So the one
loop that every plan has is all its bracketing, and no plan comes near the limit of indentation.
-/

namespace Superstep

def Action.sides : Action → List SubSelect
  | .union pair => [pair.left, pair.right]
  | _ => []

namespace Block

/-- The block has a depth, and what is nested in it lies one deeper. -/
structure LiesAt (depth : Nat) (block : Block) : Prop where
  own : block.depth = depth
  sides : ∀ side ∈ block.action.sides, side.depth = depth + 1

theorem liesAt_of_sides (depth : Nat) (block : Block) (own : block.depth = depth)
    (alone : block.action.sides = []) : block.LiesAt depth := by
  refine ⟨own, ?_⟩
  intro side member
  rw [alone] at member
  cases member

/-- Every line of the block can be indented. A select without a table has a level and no line. -/
structure Fits (block : Block) : Prop where
  own : block.depth + 1 ≤ SqlLine.maxLevel
  lines : ∀ line ∈ block.sqlLines, line.level ≤ SqlLine.maxLevel

instance (block : Block) : Decidable block.Fits :=
  decidable_of_iff (block.depth + 1 ≤ SqlLine.maxLevel ∧
    ∀ line ∈ block.sqlLines, line.level ≤ SqlLine.maxLevel)
    ⟨fun ⟨own, lines⟩ => ⟨own, lines⟩, fun fits => ⟨fits.own, fits.lines⟩⟩

/-- No line of a block lies more than two levels below the depth of the block. -/
theorem LiesAt.fits {depth : Nat} {block : Block} (lies : block.LiesAt depth)
    (shallow : depth + 2 ≤ SqlLine.maxLevel) : block.Fits := by
  obtain ⟨stage, own, action⟩ := block
  obtain ⟨rfl, sides⟩ := lies
  have above : own + 1 ≤ SqlLine.maxLevel := Nat.le_of_succ_le shallow
  refine ⟨above, ?_⟩
  cases action with
  | select query =>
    obtain ⟨columns, target, sources, predicate, idJoin, groupBy⟩ := query
    cases target with
    | none => simp [sqlLines]
    | some target => simpa [sqlLines] using above
  | union pair =>
    have left : pair.left.depth = own + 1 := sides pair.left (by simp [Action.sides])
    have right : pair.right.depth = own + 1 := sides pair.right (by simp [Action.sides])
    simp [sqlLines, left, right, above, shallow]
  | endLoop => simpa [sqlLines] using ⟨shallow, above⟩
  | _ => simpa [sqlLines] using above

/-- Whether a block is neither end of a loop, and has a table if it is a select. -/
def isPlain (block : Block) : Bool :=
  match block.action with
  | .beginLoop _ _ | .endLoop _ _ => false
  | .select query => query.target.isSome
  | _ => true

theorem opensLoop_of_isPlain (block : Block) (plain : block.isPlain = true) :
    block.opensLoop = false := by
  obtain ⟨stage, depth, action⟩ := block
  cases action with
  | beginLoop => cases plain
  | _ => rfl

theorem closesLoop_of_isPlain (block : Block) (plain : block.isPlain = true) :
    block.closesLoop = false := by
  obtain ⟨stage, depth, action⟩ := block
  cases action with
  | endLoop => cases plain
  | _ => rfl

variable (openLoops : Nat) (block : Block) (blocks : List Block)

/-- A plain block that fits is passed over. -/
theorem checkFrom_cons_plain (fits : block.Fits) (plain : block.isPlain = true) :
    checkFrom openLoops (block :: blocks) = checkFrom openLoops blocks := by
  obtain ⟨stage, depth, action⟩ := block
  have own : ¬ SqlLine.maxLevel < depth + 1 := Nat.not_lt.mpr fits.own
  cases action with
  | beginLoop | endLoop => cases plain
  | select query =>
    obtain ⟨target, named⟩ := Option.isSome_iff_exists.mp plain
    cases openLoops <;> simp [checkFrom, own, named]
  | union pair =>
    have left := fits.lines ⟨pair.left.depth + 1, pair.left.select.sql⟩ (by simp [sqlLines])
    have right := fits.lines ⟨pair.right.depth + 1, pair.right.select.sql⟩ (by simp [sqlLines])
    have sides : ¬ SqlLine.maxLevel < max pair.left.depth pair.right.depth + 1 := by
      simp only at left right
      omega
    cases openLoops <;> simp only [checkFrom, if_neg own, if_neg sides]
  | _ => cases openLoops <;> simp only [checkFrom, if_neg own]

theorem checkFrom_cons_opening (fits : block.Fits) (opens : block.opensLoop = true) :
    checkFrom openLoops (block :: blocks) = checkFrom (openLoops + 1) blocks := by
  obtain ⟨stage, depth, action⟩ := block
  have own : ¬ SqlLine.maxLevel < depth + 1 := Nat.not_lt.mpr fits.own
  cases action with
  | beginLoop => cases openLoops <;> simp only [checkFrom, if_neg own]
  | _ => cases opens

/-- The end of a loop is passed if a loop is open and its inner line can be indented. -/
theorem checkFrom_cons_closing (fits : block.Fits) (closes : block.closesLoop = true) :
    checkFrom (openLoops + 1) (block :: blocks) = checkFrom openLoops blocks := by
  obtain ⟨stage, depth, action⟩ := block
  have own : ¬ SqlLine.maxLevel < depth + 1 := Nat.not_lt.mpr fits.own
  cases action with
  | endLoop loopEnd artifact =>
    have inner : ¬ SqlLine.maxLevel < depth + 2 :=
      Nat.not_lt.mpr (fits.lines ⟨depth + 2, flagUpdate loopEnd artifact⟩ (by simp [sqlLines]))
    simp only [checkFrom, if_neg own, if_neg inner]
  | _ => cases closes

theorem checkFrom_append_plain (fits : ∀ block ∈ blocks, block.Fits)
    (plain : ∀ block ∈ blocks, block.isPlain = true) (others : List Block) :
    checkFrom openLoops (blocks ++ others) = checkFrom openLoops others := by
  induction blocks with
  | nil => rfl
  | cons first rest ih =>
    rw [List.forall_mem_cons] at fits plain
    rw [List.cons_append, checkFrom_cons_plain openLoops first _ fits.1 plain.1, ih fits.2 plain.2]

/-- One loop around plain blocks, with plain blocks before it, is well bracketed. -/
theorem checkFrom_loop (before body : List Block) (opening closing : Block)
    (fits : ∀ block ∈ before ++ opening :: (body ++ [closing]), block.Fits)
    (plainBefore : ∀ block ∈ before, block.isPlain = true) (opens : opening.opensLoop = true)
    (plainBody : ∀ block ∈ body, block.isPlain = true) (closes : closing.closesLoop = true) :
    checkFrom 0 (before ++ opening :: (body ++ [closing])) = .ok () := by
  simp only [List.forall_mem_append, List.forall_mem_cons] at fits
  obtain ⟨fitBefore, fitOpening, fitBody, fitClosing, _⟩ := fits
  rw [checkFrom_append_plain 0 before fitBefore plainBefore,
    checkFrom_cons_opening 0 opening _ fitOpening opens,
    checkFrom_append_plain 1 body fitBody plainBody,
    checkFrom_cons_closing 0 closing [] fitClosing closes]
  rfl

end Block

namespace Planner

open Block

/-- A statement becomes plain blocks at the current depth. -/
theorem Step.lies_at {state after : PlanState} {planned : Statement} {added : List Block}
    (step : Step state planned added after) (block : Block) (member : block ∈ added) :
    block.isPlain = true ∧ block.LiesAt state.listing.depth := by
  cases step with
  | openOuter | close => cases member
  | openInner | setValue | assign =>
    obtain rfl := List.mem_singleton.mp member
    exact ⟨rfl, liesAt_of_sides _ _ rfl rfl⟩
  | send direction content way scanned =>
    obtain ⟨action, acts, rfl⟩ := Option.map_eq_some_iff.mp (Option.mem_toList.mp member)
    cases way with
    | none => cases acts
    | incoming | outgoing =>
      cases acts
      exact ⟨rfl, liesAt_of_sides _ _ rfl rfl⟩
    | both =>
      -- The sides have no table of their own, but the union has.
      cases acts
      exact ⟨rfl, rfl, by simp [Action.sides, Listing.subSelect]⟩

/-- No statement changes the depth, so the blocks of a program are plain and lie at one depth. -/
theorem Steps.lies_at {state after : PlanState} {planned : List Statement} {added : List Block}
    (run : Steps state planned added after) (block : Block) (member : block ∈ added) :
    block.isPlain = true ∧ block.LiesAt state.listing.depth := by
  induction run with
  | done => cases member
  | step now _ ih =>
    rcases List.mem_append.mp member with early | late
    · exact now.lies_at block early
    · have behind := ih late
      rw [now.listing] at behind
      exact behind

theorem initBlocks_lie_at (algorithm : Algorithm) (message : FirstMessage) (block : Block)
    (member : block ∈ initBlocks algorithm message) : block.isPlain = true ∧ block.LiesAt 0 := by
  have shallow : ∀ other ∈ initBlocks algorithm message,
      other.isPlain = true ∧ other.depth = 0 ∧ other.action.sides = [] :=
    forall_mem_initBlocks (by simp [firstBlocks, isPlain, Action.sides]) ⟨rfl, rfl, rfl⟩
      fun _ => ⟨rfl, rfl, rfl⟩
  obtain ⟨plain, own, alone⟩ := shallow block member
  exact ⟨plain, liesAt_of_sides 0 block own alone⟩

namespace Derivation

variable {options : List (String × String)} {stem : String} {plan : Plan}
  (derived : Derivation options stem plan)

theorem body_lies_at (block : Block) (member : block ∈ derived.body) :
    block.isPlain = true ∧ block.LiesAt 1 := by
  simp only [body, List.mem_cons, List.mem_append, List.mem_map] at member
  rcases member with rfl | rfl | statement | ⟨table, _, rfl⟩
  · exact ⟨rfl, liesAt_of_sides _ _ rfl rfl⟩
  · exact ⟨rfl, liesAt_of_sides _ _ rfl rfl⟩
  · exact derived.run.lies_at block statement
  · exact ⟨rfl, liesAt_of_sides _ _ rfl rfl⟩

include derived

/-- No plan comes near the limit of indentation. -/
theorem blocks_fit (block : Block) (member : block ∈ plan.blocks) : block.Fits := by
  rw [derived.blocks_eq] at member
  simp only [List.mem_append, List.mem_cons, List.not_mem_nil, or_false] at member
  rcases member with early | rfl | inside | rfl
  · exact (initBlocks_lie_at _ _ block early).2.fits (by decide)
  · exact (liesAt_of_sides 0 _ rfl rfl).fits (by decide)
  · exact (derived.body_lies_at block inside).2.fits (by decide)
  · exact (liesAt_of_sides 0 _ rfl rfl).fits (by decide)

theorem program_ok : plan.sql = .ok (programText plan.blocks) := by
  have fits := derived.blocks_fit
  have checked : checkFrom 0 plan.blocks = .ok () := by
    rw [derived.blocks_eq] at fits ⊢
    exact checkFrom_loop _ _ _ _ fits (fun block member => (initBlocks_lie_at _ _ block member).1)
      rfl (fun block member => (derived.body_lies_at block member).1) rfl
  rw [Plan.sql, Block.program, checked]
  rfl

/-- The ends of the loop are the only blocks that are ends of a loop. -/
theorem one_loop : plan.blocks.countP (·.opensLoop) = 1 ∧ plan.blocks.countP (·.closesLoop) = 1 := by
  have before : ∀ block ∈ initBlocks derived.described derived.message, block.isPlain = true :=
    fun block member => (initBlocks_lie_at _ _ block member).1
  have inside : ∀ block ∈ derived.body, block.isPlain = true :=
    fun block member => (derived.body_lies_at block member).1
  have none : ∀ blocks : List Block, (∀ block ∈ blocks, block.isPlain = true) →
      blocks.countP (·.opensLoop) = 0 ∧ blocks.countP (·.closesLoop) = 0 := by
    intro blocks plain
    constructor
    · refine List.countP_eq_zero.mpr fun block member => ?_
      simp [opensLoop_of_isPlain block (plain block member)]
    · refine List.countP_eq_zero.mpr fun block member => ?_
      simp [closesLoop_of_isPlain block (plain block member)]
  rw [derived.blocks_eq]
  simp only [List.countP_append, List.countP_cons, none _ before, none _ inside]
  exact ⟨rfl, rfl⟩

end Derivation

/-- Every plan can be written as a program. It has one loop, which is closed by its last block; the
blocks in the loop lie at depth one with the sides of unions at depth two, and all others, the ends
of the loop included, lie at depth zero. -/
theorem planned_blocks_render (options : List (String × String)) (stem : String) (plan : Plan)
    (success : Plan.ofOptions options stem = .ok plan) :
    plan.sql = .ok (programText plan.blocks) ∧
    plan.blocks.countP (·.opensLoop) = 1 ∧ plan.blocks.countP (·.closesLoop) = 1 ∧
    ∃ before opening body closing, plan.blocks = before ++ opening :: (body ++ [closing]) ∧
      opening.opensLoop = true ∧ closing.closesLoop = true ∧
      (∀ block ∈ body, block.LiesAt 1) ∧
      ∀ block ∈ before ++ [opening, closing], block.LiesAt 0 := by
  obtain ⟨derived⟩ := (ofOptions_ok_iff options stem plan).mp success
  refine ⟨derived.program_ok, derived.one_loop.1, derived.one_loop.2, _, _, _, _,
    derived.blocks_eq, rfl, rfl, fun block member => (derived.body_lies_at block member).2, ?_⟩
  intro block member
  simp only [List.mem_append, List.mem_cons, List.not_mem_nil, or_false] at member
  rcases member with early | rfl | rfl
  · exact (initBlocks_lie_at _ _ block early).2
  · exact liesAt_of_sides _ _ rfl rfl
  · exact liesAt_of_sides _ _ rfl rfl

/-- The union of `nestedSend` is two selects without a table, and the plan can be written all the
same. -/
theorem planned_blocks_render_nestedSend :
    ∃ plan, Plan.ofOptions nestedSend "scope_" = .ok plan ∧
      (plan.blocks.flatMap (·.action.sides)).map (fun side => (side.depth, side.select.target)) =
        [(2, none), (2, none)] ∧
      plan.sql = .ok (programText plan.blocks) ∧ plan.blocks.countP (·.opensLoop) = 1 := by
  have anonymous : (Plan.ofOptions nestedSend "scope_").toOption.map (fun plan =>
      (plan.blocks.flatMap (·.action.sides)).map fun side => (side.depth, side.select.target)) =
        some [(2, none), (2, none)] := by decide +kernel
  obtain ⟨plan, planned, sides⟩ := Option.map_eq_some_iff.mp anonymous
  have success := ok_of_toOption _ _ planned
  obtain ⟨written, opened, _⟩ := planned_blocks_render nestedSend "scope_" plan success
  exact ⟨plan, success, sides, written, opened⟩

end Planner

end Superstep
