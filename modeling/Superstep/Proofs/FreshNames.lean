import Mathlib.Data.List.Nodup
import Mathlib.Data.List.Perm.Subperm
import Mathlib.Data.List.TakeWhile
import Superstep.WorkingSet

/-!
# Fresh names

A fresh name is the first name from the counter on that no table has. The search is bounded by the
number of tables, and the bound is enough because different numbers have different names. Every name
ends with a digit, so none is the name of a table that plans know.
-/

namespace Superstep.FreshNames

/-- Different numbers have different names. -/
theorem name_injective (names : FreshNames) : Function.Injective names.name := by
  intro first second same
  have numerals : toString first = toString second := (String.append_right_inj names.stem).mp same
  have digits : Nat.toDigits 10 first = Nat.toDigits 10 second := by
    rw [← Nat.toList_repr, ← Nat.toList_repr]
    exact congrArg String.toList numerals
  rw [← Nat.ofDigitChars_ten_toDigits (n := first), digits, Nat.ofDigitChars_ten_toDigits]

theorem isDigit_of_mem_toString (number : Nat) (c : Char) (member : c ∈ (toString number).toList) :
    c.isDigit = true := by
  have digits : (toString number).toList = Nat.toDigits 10 number := Nat.toList_repr
  rw [digits] at member
  exact Nat.isDigit_of_mem_toDigits (by decide) (by decide) member

theorem name_ends_with_digit (names : FreshNames) (number : Nat) :
    ∃ digit, (names.name number).toList.getLast? = some digit ∧ digit.isDigit = true := by
  have digits : (toString number).toList = Nat.toDigits 10 number := Nat.toList_repr
  have nonempty : Nat.toDigits 10 number ≠ [] := Nat.toDigits_ne_nil
  refine ⟨(Nat.toDigits 10 number).getLast nonempty, ?_, ?_⟩
  · rw [name, String.toList_append, digits, List.getLast?_append_of_ne_nil _ nonempty,
      List.getLast?_eq_getLast_of_ne_nil nonempty]
  · exact Nat.isDigit_of_mem_toDigits (by decide) (by decide) (List.getLast_mem nonempty)

/-- No fresh name is reserved, whatever the stem. -/
theorem name_not_reserved (names : FreshNames) (number : Nat) :
    Table.isReserved (names.name number) = false := by
  obtain ⟨digit, last, isDigit⟩ := name_ends_with_digit names number
  have other : ∀ table letter, table.toList.getLast? = some letter → letter.isDigit = false →
      names.name number ≠ table := by
    intro table letter ending notDigit same
    rw [same, ending, Option.some.injEq] at last
    rw [last, isDigit] at notDigit
    cases notDigit
  simp [Table.isReserved, Table.isProtected, Table.isBase,
    other Table.message 'e' (by decide) (by decide), other Table.values 't' (by decide) (by decide),
    other Table.inCounts 's' (by decide) (by decide),
    other Table.outCounts 's' (by decide) (by decide),
    other Table.vertex 'x' (by decide) (by decide), other Table.edge 'e' (by decide) (by decide),
    other Table.combined 'r' (by decide) (by decide)]

/-- The numbers that are passed over stand in a row, and the first that is not passed over has a
name that no table has. -/
theorem skipped_spec (names : FreshNames) (tables : WorkingSet) :
    (∀ earlier, names.counter ≤ earlier → earlier < names.counter + (names.skipped tables).length →
      names.name earlier ∈ tables.live) ∧
    names.name (names.counter + (names.skipped tables).length) ∉ tables.live := by
  let taken := fun number => tables.contains (names.name number)
  have split : List.range' names.counter (tables.live.length + 1) =
      names.skipped tables ++
        (List.range' names.counter (tables.live.length + 1)).dropWhile taken :=
    List.takeWhile_append_dropWhile.symm
  obtain ⟨passed, bound, skipped, rest⟩ := List.range'_eq_append_iff.mp split
  have length : (names.skipped tables).length = passed := by rw [skipped, List.length_range']
  have live : ∀ number ∈ names.skipped tables, names.name number ∈ tables.live := by
    intro number member
    simpa [taken, WorkingSet.contains] using List.mem_takeWhile_imp member
  rw [length]
  refine ⟨?_, ?_⟩
  · intro earlier low high
    apply live
    rw [skipped]
    exact List.mem_range'_1.mpr ⟨low, high⟩
  · -- If every candidate were live, the candidates would be more tables than there are.
    have some_free : passed < tables.live.length + 1 := by
      by_contra full
      have different : ((names.skipped tables).map names.name).Nodup := by
        rw [skipped]
        exact List.Nodup.map (name_injective names) (List.nodup_range' 1)
      have subset : (names.skipped tables).map names.name ⊆ tables.live := by
        intro name member
        obtain ⟨number, passedOver, rfl⟩ := List.mem_map.mp member
        exact live number passedOver
      have fits := (different.subperm subset).length_le
      rw [List.length_map, length] at fits
      omega
    have remaining : (List.range' names.counter (tables.live.length + 1)).dropWhile taken ≠ [] := by
      rw [rest]
      simp only [ne_eq, List.range'_eq_nil_iff]
      omega
    have stopped := List.head_dropWhile_not taken remaining
    simp only [rest, List.head_range'] at stopped
    simpa [taken, WorkingSet.contains] using stopped

/-- A fresh name is the first from the counter on that no table has. -/
theorem next_spec (names : FreshNames) (tables : WorkingSet) :
    ∃ number, names.next tables = (names.name number, { names with counter := number + 1 }) ∧
      names.counter ≤ number ∧ names.name number ∉ tables.live ∧
      ∀ earlier, names.counter ≤ earlier → earlier < number →
        names.name earlier ∈ tables.live := by
  obtain ⟨live, free⟩ := skipped_spec names tables
  exact ⟨names.counter + (names.skipped tables).length, rfl, Nat.le_add_right _ _, free, live⟩

theorem next_not_live (names : FreshNames) (tables : WorkingSet) :
    (names.next tables).1 ∉ tables.live :=
  (skipped_spec names tables).2

theorem next_not_reserved (names : FreshNames) (tables : WorkingSet) :
    Table.isReserved (names.next tables).1 = false :=
  name_not_reserved names _

end Superstep.FreshNames
