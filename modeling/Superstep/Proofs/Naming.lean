import Superstep.Proofs.Cleanup
import Superstep.Proofs.FreshNames

/-!
# Names and tables over time

Tables are created, removed and drained, and fresh names are asked for in between, in any order. No
table comes into being twice, and no name is given twice: the counter only grows, so a name given
later has a greater number. Tables with names that look like fresh ones do no harm. The search passes
over them, and it ends because each candidate that it passes over is a table of its own.
-/

namespace Superstep

namespace FreshNames

/-- The search for a name, candidate by candidate. A candidate that a table has is passed over, and
the first that no table has is given. The search may go on for any number of candidates. -/
inductive Searches (tables : WorkingSet) : FreshNames → List String → String → FreshNames → Prop where
  | given (names : FreshNames) (free : names.name names.counter ∉ tables.live) :
      Searches tables names [] (names.name names.counter)
        { names with counter := names.counter + 1 }
  | passed (names : FreshNames) (skipped : List String) (name : String) (after : FreshNames)
      (taken : names.name names.counter ∈ tables.live)
      (later : Searches tables { names with counter := names.counter + 1 } skipped name after) :
      Searches tables names (names.name names.counter :: skipped) name after

namespace Searches

variable {tables : WorkingSet} {names after : FreshNames} {skipped : List String} {name : String}

/-- The candidates are the names from the counter on, and the last of them is given. -/
theorem candidates_eq (search : Searches tables names skipped name after) :
    skipped = (List.range' names.counter skipped.length).map names.name ∧
      name = names.name (names.counter + skipped.length) ∧
      after = { names with counter := names.counter + skipped.length + 1 } := by
  induction search with
  | given names free => exact ⟨rfl, rfl, rfl⟩
  | passed names skipped name after taken later ih =>
    obtain ⟨numbered, last, moved⟩ := ih
    have shifted : names.counter + 1 + skipped.length = names.counter + (skipped.length + 1) := by
      omega
    refine ⟨?_, ?_, ?_⟩
    · rw [List.length_cons, List.range'_succ, List.map_cons]
      exact congrArg _ numbered
    · rw [last, List.length_cons, ← shifted]
      rfl
    · rw [moved, List.length_cons, ← shifted]

theorem mem_live (search : Searches tables names skipped name after) :
    ∀ candidate ∈ skipped, candidate ∈ tables.live := by
  induction search with
  | given => simp
  | passed names skipped name after taken later ih => exact List.forall_mem_cons.mpr ⟨taken, ih⟩

theorem not_mem_live (search : Searches tables names skipped name after) : name ∉ tables.live := by
  induction search with
  | given names free => exact free
  | passed names skipped name after taken later ih => exact ih

/-- The candidates that are passed over are different tables, so there are no more of them than there
are tables. -/
theorem length_le (search : Searches tables names skipped name after) :
    skipped.length ≤ tables.live.length := by
  have different : skipped.Nodup := by
    rw [search.candidates_eq.1]
    exact List.Nodup.map (name_injective names) (List.nodup_range' 1)
  exact (different.subperm search.mem_live).length_le

/-- Among the candidates, those that are passed over are those that are live. -/
theorem mem_skipped_iff (search : Searches tables names skipped name after) :
    ∀ candidate ∈ skipped ++ [name], candidate ∈ skipped ↔ candidate ∈ tables.live := by
  intro candidate tried
  refine ⟨search.mem_live candidate, ?_⟩
  intro live
  rcases List.mem_append.mp tried with skips | last
  · exact skips
  · rw [List.mem_singleton.mp last] at live
    exact absurd live search.not_mem_live

end Searches

/-- A row of candidates that are live, and one behind it that is not, is a search. -/
theorem exists_searches {tables : WorkingSet} (count : Nat) (names : FreshNames)
    (live : ∀ earlier, names.counter ≤ earlier → earlier < names.counter + count →
      names.name earlier ∈ tables.live)
    (free : names.name (names.counter + count) ∉ tables.live) :
    ∃ skipped, Searches tables names skipped (names.name (names.counter + count))
      { names with counter := names.counter + count + 1 } := by
  induction count generalizing names with
  | zero => exact ⟨[], .given names free⟩
  | succ count ih =>
    have shifted : names.counter + (count + 1) = names.counter + 1 + count := by omega
    rw [shifted] at live free ⊢
    have taken := live names.counter (Nat.le_refl _) (by omega)
    obtain ⟨skipped, later⟩ := ih { names with counter := names.counter + 1 }
      (fun earlier low => live earlier (Nat.le_of_succ_le low)) free
    exact ⟨_, .passed names skipped _ _ taken later⟩

/-- The search ends, whatever tables there are, and gives the next name. -/
theorem next_searches (names : FreshNames) (tables : WorkingSet) :
    ∃ skipped, Searches tables names skipped (names.next tables).1 (names.next tables).2 := by
  obtain ⟨live, free⟩ := skipped_spec names tables
  exact exists_searches _ names live free

end FreshNames

/-- Tables and a source of names, with the names that were given so far, oldest first. -/
structure Registry where
  tables : WorkingSet := {}
  names : FreshNames
  given : List String := []
  deriving DecidableEq, Repr

namespace Registry

/-- What can be done to tables and names. -/
inductive Move where
  | create (table : String)
  | remove (table : String)
  | dropTransient
  | nextName
  deriving DecidableEq, Repr

/-- One move. A table that may not be created changes nothing. -/
def move (registry : Registry) : Move → Registry
  | .create table =>
    { registry with tables := (registry.tables.create table).toOption.getD registry.tables }
  | .remove table => { registry with tables := registry.tables.remove table }
  | .dropTransient => { registry with tables := registry.tables.dropTransient }
  | .nextName =>
    { registry with
      names := (registry.names.next registry.tables).2
      given := registry.given ++ [(registry.names.next registry.tables).1] }

def reach (stem : String) (moves : List Move) : Registry :=
  moves.foldl move { names := { stem } }

/-- Each table is there once, and the names given so far are different and were counted. -/
structure Sound (registry : Registry) : Prop where
  live : registry.tables.live.Nodup
  given : registry.given.Nodup
  counted : ∀ name ∈ registry.given, ∃ number < registry.names.counter,
    registry.names.name number = name

theorem Sound.next_not_given {registry : Registry} (sound : registry.Sound) :
    (registry.names.next registry.tables).1 ∉ registry.given := by
  obtain ⟨number, next, low, _, _⟩ := registry.names.next_spec registry.tables
  intro member
  obtain ⟨earlier, below, same⟩ := sound.counted _ member
  rw [next] at same
  have equal := FreshNames.name_injective registry.names same
  omega

/-- Creating tables, dropping them and taking names keeps what is known of the names given. -/
theorem Sound.move {registry : Registry} (sound : registry.Sound) (move : Move) :
    (registry.move move).Sound := by
  cases move with
  | create table =>
    refine ⟨?_, sound.given, sound.counted⟩
    rw [Registry.move]
    cases created : registry.tables.create table with
    | error => exact sound.live
    | ok tables =>
      obtain ⟨_, rfl⟩ := (WorkingSet.create_ok_iff _ _ _).mp created
      exact addNew_nodup _ _ sound.live
  | remove table => exact ⟨sound.live.filter _, sound.given, sound.counted⟩
  | dropTransient => exact ⟨sound.live.filter _, sound.given, sound.counted⟩
  | nextName =>
    obtain ⟨number, next, low, _, _⟩ := registry.names.next_spec registry.tables
    refine ⟨sound.live, ?_, ?_⟩
    · rw [Registry.move, ← addNew_of_not_mem _ _ sound.next_not_given]
      exact addNew_nodup _ _ sound.given
    · -- The counter moves past the new number, and the names of all numbers stay as they are.
      rw [Registry.move, next]
      intro name member
      rcases List.mem_append.mp member with old | new
      · obtain ⟨earlier, below, same⟩ := sound.counted name old
        exact ⟨earlier, Nat.lt_succ_of_lt (Nat.lt_of_lt_of_le below low), same⟩
      · exact ⟨number, Nat.lt_succ_self number, (List.mem_singleton.mp new).symm⟩

theorem reach_sound (stem : String) (moves : List Move) : (reach stem moves).Sound := by
  have start : Sound { names := { stem } } := ⟨List.nodup_nil, List.nodup_nil, by simp⟩
  rw [reach]
  generalize ({ names := { stem } } : Registry) = registry at start ⊢
  induction moves generalizing registry with
  | nil => exact start
  | cons move moves ih => exact ih _ (start.move move)

/-- Whatever is done to tables and names in whatever order, each table is there once and all names
given are different. The next call for a name passes over as many candidates as there are tables at
most, exactly those that are live, and gives a name that is not live, not reserved and was not given
before. -/
theorem names_given_once (stem : String) (moves : List Move) :
    (reach stem moves).tables.live.Nodup ∧ (reach stem moves).given.Nodup ∧
    ∃ skipped name after,
      (reach stem moves).names.next (reach stem moves).tables = (name, after) ∧
      FreshNames.Searches (reach stem moves).tables (reach stem moves).names skipped name after ∧
      (reach stem (moves ++ [.nextName])).given = (reach stem moves).given ++ [name] ∧
      skipped.length + 1 ≤ (reach stem moves).tables.live.length + 1 ∧
      (∀ candidate ∈ skipped ++ [name],
        candidate ∈ skipped ↔ candidate ∈ (reach stem moves).tables.live) ∧
      name ∉ (reach stem moves).tables.live ∧ Table.isReserved name = false ∧
      name ∉ (reach stem moves).given := by
  have sound := reach_sound stem moves
  obtain ⟨skipped, search⟩ :=
    FreshNames.next_searches (reach stem moves).names (reach stem moves).tables
  refine ⟨sound.live, sound.given, skipped, _, _, rfl, search, ?_, ?_, search.mem_skipped_iff,
    search.not_mem_live, FreshNames.next_not_reserved _ _, sound.next_not_given⟩
  · rw [reach, List.foldl_append]
    rfl
  · exact Nat.succ_le_succ search.length_le

/-- The name of a table that is gone is not given, because its number has passed. -/
example : (reach "scope_" [.create "scope_1", .nextName, .nextName, .remove "scope_1",
    .nextName]).given = ["scope_0", "scope_2", "scope_3"] := by decide

end Registry

end Superstep
