import Superstep.Sorted

/-!
# Sorted lists

A list that is sorted already, each key once, is not changed by sorting it. An inserted text is there
afterwards and the list stays sorted; an inserted key has its value, and all other keys keep theirs.
The keys of a list of keys and values are themselves a list of texts.
-/

namespace Superstep

section Keys

variable {α : Type}

/-- A key that is greater than all others goes to the end. -/
theorem insertKey_of_greatest (key : String) (value : α) (sorted : List (String × α))
    (greatest : ∀ entry ∈ sorted, entry.1 < key) :
    insertKey key value sorted = sorted ++ [(key, value)] := by
  induction sorted with
  | nil => rfl
  | cons entry others ih =>
    have less : entry.1 < key := greatest entry List.mem_cons_self
    have apart : key ≠ entry.1 := by
      intro same
      rw [same] at less
      exact String.lt_irrefl entry.1 less
    rw [insertKey, if_neg (String.lt_asymm less), if_neg apart,
      ih fun third member => greatest third (List.mem_cons_of_mem entry member), List.cons_append]

/-- Entries that are in order, behind all that are there, are only appended. -/
theorem foldl_insertKey (entries sorted : List (String × α))
    (ascending : entries.Pairwise (·.1 < ·.1))
    (greater : ∀ entry ∈ entries, ∀ other ∈ sorted, other.1 < entry.1) :
    entries.foldl (fun sorted entry => insertKey entry.1 entry.2 sorted) sorted =
      sorted ++ entries := by
  induction entries generalizing sorted with
  | nil => simp
  | cons entry entries ih =>
    obtain ⟨first, later⟩ := List.pairwise_cons.mp ascending
    rw [List.foldl_cons,
      insertKey_of_greatest entry.1 entry.2 sorted (greater entry List.mem_cons_self),
      ih _ later, List.append_assoc, List.singleton_append]
    intro third member other inSorted
    rcases List.mem_append.mp inSorted with old | new
    · exact greater third (List.mem_cons_of_mem entry member) other old
    · rw [List.mem_singleton.mp new]
      exact first third member

theorem sortKeys_of_ascending (entries : List (String × α))
    (ascending : entries.Pairwise (·.1 < ·.1)) : sortKeys entries = entries := by
  rw [sortKeys, foldl_insertKey entries [] ascending (by simp), List.nil_append]

theorem lookup_cons_eq (key sought : String) (value : α) (others : List (String × α)) :
    ((key, value) :: others).lookup sought =
      if sought = key then some value else others.lookup sought := by
  rw [List.lookup_cons]
  by_cases same : sought = key
  · rw [if_pos same, beq_iff_eq.mpr same]
  · rw [if_neg same, beq_eq_false_iff_ne.mpr same]

/-- A key that is looked up has the value that was inserted last. -/
theorem lookup_insertKey (key sought : String) (value : α) (entries : List (String × α)) :
    (insertKey key value entries).lookup sought =
      if sought = key then some value else entries.lookup sought := by
  induction entries with
  | nil => exact lookup_cons_eq key sought value []
  | cons entry others ih =>
    obtain ⟨other, held⟩ := entry
    rw [insertKey]
    split
    · exact lookup_cons_eq key sought value _
    · split
      · rename_i same
        rw [lookup_cons_eq, lookup_cons_eq, same]
        split <;> rfl
      · rename_i apart
        rw [lookup_cons_eq, ih, lookup_cons_eq]
        by_cases here : sought = other
        · rw [if_pos here, if_neg (fun same => apart (same.symm.trans here)), if_pos here]
        · rw [if_neg here, if_neg here]

theorem insertText_keys (text : String) (value : α) (sorted : List (String × α)) :
    insertText text (sorted.map Prod.fst) = (insertKey text value sorted).map Prod.fst := by
  induction sorted with
  | nil => rfl
  | cons entry others ih =>
    rw [List.map_cons, insertText, insertKey]
    split
    · rfl
    · split
      · rename_i same
        rw [List.map_cons, ← same]
      · rw [ih, List.map_cons]

end Keys

theorem mem_insertText (text sought : String) (sorted : List String) :
    sought ∈ insertText text sorted ↔ sought = text ∨ sought ∈ sorted := by
  induction sorted with
  | nil => simp [insertText]
  | cons other others ih =>
    rw [insertText]
    split
    · exact List.mem_cons
    · split
      · rename_i same
        simp [same]
      · rw [List.mem_cons, ih, List.mem_cons, or_left_comm]

/-- A sorted list stays sorted, with nothing in it twice. -/
theorem insertText_ascending (text : String) (sorted : List String)
    (ascending : sorted.Pairwise (· < ·)) : (insertText text sorted).Pairwise (· < ·) := by
  induction sorted with
  | nil => exact List.pairwise_singleton _ _
  | cons other others ih =>
    obtain ⟨first, later⟩ := List.pairwise_cons.mp ascending
    rw [insertText]
    split
    · rename_i less
      apply List.pairwise_cons.mpr ⟨?_, ascending⟩
      intro third member
      rcases List.mem_cons.mp member with rfl | behind
      · exact less
      · exact String.lt_trans less (first third behind)
    · rename_i notLess
      split
      · exact ascending
      · rename_i apart
        apply List.pairwise_cons.mpr ⟨?_, ih later⟩
        intro third member
        rcases (mem_insertText text third others).mp member with rfl | behind
        · exact Std.lt_of_le_of_ne (String.not_lt.mp notLess) (Ne.symm apart)
        · exact first third behind

theorem mem_foldl_insertText (texts sorted : List String) (sought : String) :
    sought ∈ texts.foldl (fun sorted text => insertText text sorted) sorted ↔
      sought ∈ texts ∨ sought ∈ sorted := by
  induction texts generalizing sorted with
  | nil => simp
  | cons text texts ih =>
    rw [List.foldl_cons, ih, mem_insertText, List.mem_cons, or_assoc]
    exact or_left_comm

theorem foldl_insertText_ascending (texts sorted : List String)
    (ascending : sorted.Pairwise (· < ·)) :
    (texts.foldl (fun sorted text => insertText text sorted) sorted).Pairwise (· < ·) := by
  induction texts generalizing sorted with
  | nil => exact ascending
  | cons text texts ih => exact ih _ (insertText_ascending text sorted ascending)

theorem foldl_insertText_keys (texts : List String) (sorted : List (String × Unit)) :
    texts.foldl (fun sorted text => insertText text sorted) (sorted.map Prod.fst) =
      ((texts.map fun text => (text, ())).foldl (fun sorted entry => insertKey entry.1 entry.2 sorted)
        sorted).map Prod.fst := by
  induction texts generalizing sorted with
  | nil => rfl
  | cons text texts ih =>
    rw [List.foldl_cons, insertText_keys text (), ih, List.map_cons, List.foldl_cons]

theorem sortTexts_of_ascending (texts : List String) (ascending : texts.Pairwise (· < ·)) :
    sortTexts texts = texts := by
  have keys : (texts.map fun text => (text, ())).Pairwise (·.1 < ·.1) :=
    List.pairwise_map.mpr ascending
  calc sortTexts texts = (sortKeys (texts.map fun text => (text, ()))).map Prod.fst :=
        foldl_insertText_keys texts []
    _ = texts := by
      rw [sortKeys_of_ascending _ keys, List.map_map]
      exact List.map_id texts

end Superstep
