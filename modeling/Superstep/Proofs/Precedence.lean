import Superstep.Proofs.Planner.Layout
import Superstep.Proofs.Token.Joining

/-!
# Where a predicate stands in a select

The condition of a select is the equations that join its tables, and then its predicate, all with `AND`
between them. Nothing is put around the predicate, and `AND` binds tighter than `OR`. So the equations
belong to the first alternative of the predicate only, and the other alternatives are not held to the
join unless they repeat it.
-/

namespace Superstep

namespace Token

/-- The number of open parentheses behind a token. -/
def depthBehind (depth : Nat) : Token → Nat
  | .openParen => depth + 1
  | .closeParen => depth - 1
  | _ => depth

/-- Cuts tokens at a connective, wherever it stands outside of all parentheses. -/
def cutOutside (word : Connective) : Nat → List Token → List (List Token)
  | _, [] => [[]]
  | depth, token :: tokens =>
    if depth = 0 ∧ token = .keyword word then [] :: cutOutside word 0 tokens
    else (cutOutside word (token.depthBehind depth) tokens).modifyHead (token :: ·)

def disjuncts (tokens : List Token) : List (List Token) := cutOutside .or 0 tokens

def conjuncts (tokens : List Token) : List (List Token) := cutOutside .and 0 tokens

/-- A condition is satisfied if all parts of one of its alternatives hold. -/
def Satisfied (holds : List Token → Prop) (tokens : List Token) : Prop :=
  ∃ disjunct ∈ disjuncts tokens, ∀ conjunct ∈ conjuncts disjunct, holds conjunct

/-- Tokens with no parentheses and no connective. -/
def isFlat : Token → Bool
  | .openParen | .closeParen | .keyword _ => false
  | _ => true

theorem cutOutside_ne_nil (word : Connective) (depth : Nat) (tokens : List Token) :
    cutOutside word depth tokens ≠ [] := by
  induction tokens generalizing depth with
  | nil => simp [cutOutside]
  | cons token tokens ih =>
    rw [cutOutside]
    split
    · exact List.cons_ne_nil _ _
    · intro none
      exact ih _ (List.modifyHead_eq_nil_iff.mp none)

/-- Tokens that are not cut go with what follows them. -/
theorem cutOutside_kept (word : Connective) (token : Token) (tokens : List Token)
    (other : token ≠ .keyword word) (level : token.depthBehind 0 = 0) :
    cutOutside word 0 (token :: tokens) =
      (cutOutside word 0 tokens).modifyHead (token :: ·) := by
  rw [cutOutside, if_neg fun cut => other cut.2, level]

/-- Tokens without parentheses and connectives stay together with what follows them. -/
theorem cutOutside_flat (word : Connective) (front tokens : List Token)
    (flat : ∀ token ∈ front, token.isFlat = true) :
    cutOutside word 0 (front ++ tokens) =
      (cutOutside word 0 tokens).modifyHead (front ++ ·) := by
  induction front with
  | nil => exact (congrFun List.modifyHead_id _).symm
  | cons token front ih =>
    rw [List.forall_mem_cons] at flat
    have other : token ≠ .keyword word := by
      rintro rfl
      cases flat.1
    have level : token.depthBehind 0 = 0 := by
      cases token with
      | openParen => cases flat.1
      | _ => rfl
    rw [List.cons_append, cutOutside_kept word token _ other level, ih flat.2,
      List.modifyHead_modifyHead]
    rfl

/-- Conditions that all have to hold, with one behind them that may be any. -/
def joined (equations : List (List Token)) (condition : List Token) : List Token :=
  equations.foldr (fun equation rest => equation ++ .keyword .and :: rest) condition

variable (equations : List (List Token))
  (flat : ∀ equation ∈ equations, ∀ token ∈ equation, token.isFlat = true)

include flat

/-- The equations go with the first alternative. -/
theorem disjuncts_joined (condition : List Token) :
    disjuncts (joined equations condition) =
      (disjuncts condition).modifyHead (joined equations) := by
  induction equations with
  | nil => exact (congrFun List.modifyHead_id _).symm
  | cons equation equations ih =>
    rw [List.forall_mem_cons] at flat
    have later := ih flat.2
    rw [joined, List.foldr_cons, ← joined, disjuncts, cutOutside_flat .or _ _ flat.1,
      cutOutside_kept .or _ _ (by decide) rfl, ← disjuncts, later, List.modifyHead_modifyHead,
      List.modifyHead_modifyHead]
    rfl

/-- The equations of a join are conjuncts of their own. -/
theorem conjuncts_joined (condition : List Token) :
    conjuncts (joined equations condition) = equations ++ conjuncts condition := by
  induction equations with
  | nil => rfl
  | cons equation equations ih =>
    rw [List.forall_mem_cons] at flat
    have later := ih flat.2
    rw [joined, List.foldr_cons, ← joined, conjuncts, cutOutside_flat .and _ _ flat.1, cutOutside,
      if_pos ⟨rfl, rfl⟩, ← conjuncts, later]
    simp

/-- Every alternative is held to the equations if those behind the first of the condition are. -/
theorem joined_disjuncts_iff (condition : List Token) :
    (∀ disjunct ∈ disjuncts (joined equations condition), equations ⊆ conjuncts disjunct) ↔
      ∀ disjunct ∈ (disjuncts condition).tail, equations ⊆ conjuncts disjunct := by
  rw [disjuncts_joined equations flat]
  cases parts : disjuncts condition with
  | nil => exact absurd parts (cutOutside_ne_nil .or 0 condition)
  | cons first others =>
    have held : equations ⊆ conjuncts (joined equations first) := by
      rw [conjuncts_joined equations flat]
      exact List.subset_append_left _ _
    rw [List.modifyHead_cons, List.forall_mem_cons, List.tail_cons]
    exact and_iff_right held

/-- What satisfies the whole satisfies the equations and the condition if every alternative is held to
the equations, and else there are truth values of the parts for which it does not. -/
theorem satisfied_joined_iff (condition : List Token) :
    (∀ holds, Satisfied holds (joined equations condition) →
      (∀ equation ∈ equations, holds equation) ∧ Satisfied holds condition) ↔
      ∀ disjunct ∈ (disjuncts condition).tail, equations ⊆ conjuncts disjunct := by
  have split := disjuncts_joined equations flat condition
  obtain ⟨first, others, parts⟩ :=
    List.exists_cons_of_ne_nil (cutOutside_ne_nil .or 0 condition)
  have cut : disjuncts condition = first :: others := parts
  rw [cut, List.modifyHead_cons] at split
  rw [cut, List.tail_cons]
  constructor
  · intro kept disjunct member
    have satisfied : Satisfied (· ∈ conjuncts disjunct) (joined equations condition) := by
      refine ⟨disjunct, ?_, fun _ part => part⟩
      rw [split]
      exact List.mem_cons_of_mem _ member
    exact (kept _ satisfied).1
  · rintro held holds ⟨disjunct, member, parts⟩
    rw [split] at member
    rcases List.mem_cons.mp member with rfl | later
    · rw [conjuncts_joined equations flat, List.forall_mem_append] at parts
      refine ⟨parts.1, first, ?_, parts.2⟩
      rw [cut]
      exact List.mem_cons_self
    · refine ⟨fun equation inside => parts equation (held disjunct later inside), disjunct, ?_, parts⟩
      rw [cut]
      exact List.mem_cons_of_mem _ later

end Token

def Select.equations (select : Select) : List (List Token) :=
  if select.idJoin then
    match select.sources.filter (· ≠ Table.edge) with
    | [] => []
    | first :: others => others.map fun other =>
      [.qualified first "id", .operator .equal, .qualified other "id"]
  else []

namespace Select

variable (select : Select)

theorem equations_flat :
    ∀ equation ∈ select.equations, ∀ token ∈ equation, token.isFlat = true := by
  unfold equations
  split
  · split
    · simp
    · simp [Token.isFlat]
  · simp

variable (named : ∀ table ∈ select.sources, table ≠ Table.edge → Text.isName table.toList = true)

include named

/-- Every equation of ids is cut into the tokens that it is meant to consist of. -/
theorem equations_munch : List.Forall₂ (fun text tokens => Munch text.toList tokens)
    select.idEquations select.equations := by
  cases joins : select.idJoin with
  | false => simp [idEquations, equations, joins]
  | true =>
    rw [idEquations, equations, if_pos joins, if_pos joins]
    cases keyed : select.sources.filter (· ≠ Table.edge) with
    | nil => exact .nil
    | cons first others =>
      have isName : ∀ table ∈ first :: others, Text.isName table.toList = true := by
        intro table member
        rw [← keyed, List.mem_filter] at member
        exact named table member.1 (by simpa using member.2)
      rw [List.forall_mem_cons] at isName
      have idOf : ∀ table, Text.isName table.toList = true →
          Munch (table ++ ".id").toList [.qualified table "id"] := by
        intro table held
        have alone := Munch.alone (.qualified table "id") ⟨held, by decide⟩
        rwa [Token.text, String.append_assoc] at alone
      rw [List.forall₂_map_left_iff, List.forall₂_map_right_iff, List.forall₂_same]
      intro other member
      have equal := Munch.alone (.operator .equal) trivial
      have whole := ((idOf first isName.1).append equal).append (idOf other (isName.2 other member))
      simpa [Token.text, Operator.text] using whole

end Select

/-- Texts that are joined with `AND` are cut up one after the other. -/
theorem Munch.joined {texts : List String} {equations : List (List Token)}
    (munched : List.Forall₂ (fun text tokens => Munch text.toList tokens) texts equations)
    {last : String} {condition : List Token} (munch : Munch last.toList condition) :
    Munch (String.intercalate " AND " (texts ++ [last])).toList
      (Token.joined equations condition) := by
  induction munched with
  | nil =>
    rw [List.nil_append, String.intercalate_singleton]
    exact munch
  | @cons text equation texts equations here _ ih =>
    have whole := (here.append (.alone (.keyword .and) trivial)).append ih
    rw [List.cons_append, String.intercalate_cons_of_ne_nil (by simp)]
    simpa [Token.text, Connective.text, Token.joined] using whole

namespace Select

theorem whereClause_of_conditions (select : Select) (some : select.conditions ≠ []) :
    select.whereClause = " WHERE " ++ String.intercalate " AND " select.conditions := by
  unfold whereClause
  split
  · rename_i none
    exact absurd none some
  · rfl

/-- The condition of a select that has a predicate. -/
theorem whereClause_munch (select : Select)
    (named : ∀ table ∈ select.sources, table ≠ Table.edge → Text.isName table.toList = true)
    (scanned : Scanned) (scans : Expression.scan select.predicate = .ok scanned)
    (some : scanned.tokens ≠ []) :
    ∃ condition, select.whereClause = " WHERE " ++ condition ∧
      Munch condition.toList (Token.joined select.equations scanned.tokens) := by
  obtain ⟨inside, munch⟩ :=
    ((Expression.scan_tokens_iff _ _).mp ⟨scanned, scans, rfl⟩).trim some
  have predicate : (Text.trimmed select.predicate).isEmpty = false := by
    rw [String.isEmpty_eq_false_iff, Text.trimmed]
    intro none
    exact inside (String.ofList_eq_empty_iff.mp none)
  have conditions : select.conditions = select.idEquations ++ [Text.trimmed select.predicate] := by
    rw [conditions, predicate]
    rfl
  refine ⟨_, select.whereClause_of_conditions (by simp [conditions]), ?_⟩
  rw [conditions]
  refine Munch.joined (select.equations_munch named) ?_
  rwa [Text.trimmed, String.toList_ofList]

/-- The condition of a select keeps its predicate within the join exactly if every alternative of the
predicate but the first repeats the equations. So it is with the rows too: all that are selected are
joined and satisfy the predicate, whatever its parts mean, exactly in this case. -/
theorem predicate_kept_iff (select : Select)
    (named : ∀ table ∈ select.sources, table ≠ Table.edge → Text.isName table.toList = true)
    (scanned : Scanned) (scans : Expression.scan select.predicate = .ok scanned)
    (some : scanned.tokens ≠ []) :
    ∃ condition whole, select.whereClause = " WHERE " ++ condition ∧
      Expression.scan condition = .ok whole ∧
      ((∀ disjunct ∈ Token.disjuncts whole.tokens, select.equations ⊆ Token.conjuncts disjunct) ↔
        ∀ disjunct ∈ (Token.disjuncts scanned.tokens).tail,
          select.equations ⊆ Token.conjuncts disjunct) ∧
      ((∀ holds, Token.Satisfied holds whole.tokens →
          (∀ equation ∈ select.equations, holds equation) ∧
            Token.Satisfied holds scanned.tokens) ↔
        ∀ disjunct ∈ (Token.disjuncts scanned.tokens).tail,
          select.equations ⊆ Token.conjuncts disjunct) := by
  obtain ⟨condition, clause, munch⟩ := select.whereClause_munch named scanned scans some
  obtain ⟨whole, reads, tokens⟩ := (Expression.scan_tokens_iff _ _).mpr munch
  refine ⟨condition, whole, clause, reads, ?_, ?_⟩
  · rw [tokens]
    exact Token.joined_disjuncts_iff _ select.equations_flat _
  · rw [tokens]
    exact Token.satisfied_joined_iff _ select.equations_flat _

/-- What an assignment in the context of the combined messages becomes whose expression also reads the
vertex values. -/
def ofBoth (predicate : String) : Select where
  columns := ["cur.id AS id", "cur.val AS val"]
  target := some "x"
  sources := [Table.combined, Table.values]
  predicate := predicate
  idJoin := true
  groupBy := none

theorem predicate_kept_iff_parentheses :
    ∃ condition whole,
      (ofBoth "(cur.val > 1 OR next.val > 2)").whereClause = " WHERE " ++ condition ∧
      Expression.scan condition = .ok whole ∧
      ∀ disjunct ∈ Token.disjuncts whole.tokens,
        [.qualified "cur" "id", .operator .equal, .qualified "next" "id"] ∈
          Token.conjuncts disjunct := by
  have read : (Expression.scan "(cur.val > 1 OR next.val > 2)").toOption.map (·.tokens) =
      some [.openParen, .qualified "cur" "val", .operator .greater, .number "1", .keyword .or,
        .qualified "next" "val", .operator .greater, .number "2", .closeParen] := by
    decide +kernel
  obtain ⟨scanned, found, tokens⟩ := Option.map_eq_some_iff.mp read
  have scans := ok_of_toOption _ _ found
  obtain ⟨condition, whole, clause, reads, kept, _⟩ :=
    predicate_kept_iff (ofBoth "(cur.val > 1 OR next.val > 2)") (by simp [ofBoth]; decide) scanned
      scans (by simp [tokens])
  refine ⟨condition, whole, clause, reads, ?_⟩
  intro disjunct member
  refine kept.mpr ?_ disjunct member (List.mem_singleton.mpr rfl)
  rw [tokens]
  intro other later
  cases later

/-- The second alternative of a predicate is not joined, in a select that a plan has. -/
theorem predicate_escapes :
    (∃ plan, Plan.ofOptions (Planner.sampleOptions
        "x = cur.val > 1 OR next.val > 2\nsend(out, x.val)") "scope_" = .ok plan ∧
      Action.select (ofBoth "cur.val > 1 OR next.val > 2") ∈ plan.blocks.map (·.action)) ∧
      ∃ condition whole,
        (ofBoth "cur.val > 1 OR next.val > 2").whereClause = " WHERE " ++ condition ∧
        Expression.scan condition = .ok whole ∧
        ∃ disjunct ∈ Token.disjuncts whole.tokens,
          [.qualified "cur" "id", .operator .equal, .qualified "next" "id"] ∉
            Token.conjuncts disjunct := by
  refine ⟨?_, "cur.id = next.id AND cur.val > 1 OR next.val > 2", ?_⟩
  · have planned : (Plan.ofOptions (Planner.sampleOptions
        "x = cur.val > 1 OR next.val > 2\nsend(out, x.val)") "scope_").toOption.map (fun plan =>
          decide (Action.select (ofBoth "cur.val > 1 OR next.val > 2") ∈
            plan.blocks.map (·.action))) = some true := by decide +kernel
    obtain ⟨plan, found, member⟩ := Option.map_eq_some_iff.mp planned
    exact ⟨plan, ok_of_toOption _ _ found, of_decide_eq_true member⟩
  · have read : (Expression.scan "cur.id = next.id AND cur.val > 1 OR next.val > 2").toOption.map
        (fun whole => Token.disjuncts whole.tokens) =
        some [[.qualified "cur" "id", .operator .equal, .qualified "next" "id", .keyword .and,
            .qualified "cur" "val", .operator .greater, .number "1"],
          [.qualified "next" "val", .operator .greater, .number "2"]] := by decide +kernel
    obtain ⟨whole, found, parts⟩ := Option.map_eq_some_iff.mp read
    refine ⟨whole, by decide +kernel, ok_of_toOption _ _ found,
      [.qualified "next" "val", .operator .greater, .number "2"], ?_, by decide⟩
    rw [parts]
    exact List.mem_cons_of_mem _ List.mem_cons_self

end Select

end Superstep
